import Logbook.Proofs.Eviction
import Logbook.Proofs.Sharing

/-!
# Evictions among other clients

A client that evicts looks at the table first and asks for the write transaction only if there is a surplus.  Between
the look and the transaction other clients may append, clear and evict.  So what is removed is counted again, from the
table with which the transaction begins; and since nobody else changes the store until the transaction is given back, it
is that table of which the newest rows are left.

## Main definitions

* `SharedStore.OnlyLooks` — a client does not change the store.
* `SharedStore.Replaces` — a client that holds the write transaction puts a table in the place of the store's.
* `SharedStore.Trims` — a client gets the write transaction and removes what is too much in the table as it then stands.
* `SharedStore.Evicts` — what an eviction comes to.

## Main results

* `SharedStore.store_step_of_holder` — while one client holds the write transaction, no other changes the store.
* `SharedStore.evicts_run` — **an eviction that comes to an end has looked on, or has trimmed the log.**
* `SharedStore.evictions_exact` — **evictions are exact**, among other clients and alone.
-/

namespace Logbook

open LogName (Valid)

namespace SharedStore

variable {s : SharedStore} {client c : Nat} {draw d : Draw} {steps : List (Nat × Draw)}

/-! ### Steps of the others -/

/-- A client is moved on by its own steps only. -/
theorem clients_step_of_ne (hc : c ≠ client) (s : SharedStore) (draw : Draw) :
    (s.step c draw).clients[client]? = s.clients[client]? := by
  have hadvance := advance_step s c draw
  generalize s.step c draw = s' at hadvance ⊢
  cases hadvance with
  | stay => rfl
  | start | refuse | acquire | fail | mint | insert | trim | commitEvent | commitRemoval =>
    exact List.getElem?_set_ne hc

theorem settings_step (s : SharedStore) (client : Nat) (draw : Draw) :
    (s.step client draw).store.settings = s.store.settings := by
  have hadvance := advance_step s client draw
  generalize s.step client draw = s' at hadvance ⊢
  cases hadvance <;> rfl

/-- **While one client holds the write transaction, no other changes the store.** -/
theorem store_step_of_holder (hs : s.Guarded) (hholder : s.holder = some client) (hc : c ≠ client) (draw : Draw) :
    (s.step c draw).store = s.store ∧ (s.step c draw).holder = some client := by
  have hother {stage : Stage} (hstage : s.clients[c]? = some stage) (hbusy : ¬ stage.Idle) : False := by
    obtain ⟨hc', -⟩ := hs.writing hstage hbusy
    exact hc (Option.some.inj (hc'.symm.trans hholder))
  have hadvance := advance_step s c draw
  generalize s.step c draw = s' at hadvance ⊢
  cases hadvance with
  | stay | start | refuse => exact ⟨rfl, hholder⟩
  | acquire _ hfree => cases hfree.symm.trans hholder
  | fail hstage | mint hstage | insert hstage | trim hstage | commitEvent hstage | commitRemoval hstage =>
    exact (hother hstage not_false).elim

/-! ### What a client does to the store -/

/-- No step of a client changes the store. -/
def OnlyLooks (s : SharedStore) (client : Nat) (steps : List (Nat × Draw)) : Prop :=
  ∀ before draw after, steps = before ++ (client, draw) :: after →
    ((s.run before).step client draw).store = (s.run before).store

theorem onlyLooks_nil (s : SharedStore) (client : Nat) : s.OnlyLooks client [] :=
  fun before draw after h => absurd h.symm (by simp)

theorem OnlyLooks.cons (h : c = client → (s.step c d).store = s.store)
    (hrest : (s.step c d).OnlyLooks client steps) : s.OnlyLooks client ((c, d) :: steps) := by
  intro before draw after heq
  cases before with
  | nil =>
    obtain ⟨hstep, -⟩ := List.cons.inj heq
    obtain ⟨rfl, rfl⟩ := Prod.mk.inj hstep
    exact h rfl
  | cons step before =>
    obtain ⟨rfl, hsteps⟩ := List.cons.inj heq
    exact hrest before draw after hsteps

/-- While a client holds the write transaction, nobody else changes the store.  Then it puts a table in the place of the
store's, and changes nothing any more. -/
def Replaces (s : SharedStore) (client : Nat) (t : Table) (steps : List (Nat × Draw)) : Prop :=
  ∃ during draw after, steps = during ++ (client, draw) :: after ∧ (s.run during).holder = some client ∧
    (s.run during).store = s.store ∧ ((s.run during).step client draw).store = s.store.commit ⟨t⟩ ∧
    ((s.run during).step client draw).OnlyLooks client after

theorem Replaces.cons {t : Table} (h : (s.step c d).store = s.store) (hrest : (s.step c d).Replaces client t steps) :
    s.Replaces client t ((c, d) :: steps) := by
  obtain ⟨during, draw, after, rfl, hholder, hstore, hcommit, hafter⟩ := hrest
  exact ⟨(c, d) :: during, draw, after, rfl, hholder, hstore.trans h, hcommit.trans (by rw [h]), hafter⟩

/-- A client that only looks on gets the write transaction, and puts in the place of the table what a removal leaves of
the table as it then stands. -/
def Trims (s : SharedStore) (client : Nat) (log : String) (keep : Nat) (steps : List (Nat × Draw))
    (result : Except StoreError Gain) : Prop :=
  ∃ before draw after t, steps = before ++ (client, draw) :: after ∧ s.OnlyLooks client before ∧
    (s.run before).holder = none ∧ (s.run before).store.table? = some t ∧
    ((s.run before).step client draw).store = (s.run before).store ∧
    ((s.run before).step client draw).Replaces client (t.trim log keep).1 after ∧
    result = .ok (.removed (t.trim log keep).2)

theorem Trims.cons {log : String} {keep : Nat} {result : Except StoreError Gain}
    (h : c = client → (s.step c d).store = s.store) (hrest : (s.step c d).Trims client log keep steps result) :
    s.Trims client log keep ((c, d) :: steps) result := by
  obtain ⟨before, draw, after, t, rfl, hlooks, hrest⟩ := hrest
  exact ⟨(c, d) :: before, draw, after, t, rfl, hlooks.cons h, hrest⟩

/-- With its first step a client looks at the table.  Without a surplus in the log it never changes the store, and has
removed nothing.  With a surplus it goes on to trim the log. -/
def Evicts (s : SharedStore) (client : Nat) (log : String) (keep : Nat) (steps : List (Nat × Draw))
    (result : Except StoreError Gain) : Prop :=
  ∃ look draw rest t, steps = look ++ (client, draw) :: rest ∧ (∀ step ∈ look, step.1 ≠ client) ∧
    (s.run look).store.table? = some t ∧ ((s.run look).step client draw).store = (s.run look).store ∧
    if t.count log ≤ keep then s.OnlyLooks client steps ∧ result = .ok (.removed 0)
    else ((s.run look).step client draw).Trims client log keep rest result

theorem Evicts.cons {log : String} {keep : Nat} {result : Except StoreError Gain} (hc : c ≠ client)
    (hrest : (s.step c d).Evicts client log keep steps result) : s.Evicts client log keep ((c, d) :: steps) result := by
  obtain ⟨look, draw, rest, t, rfl, hlook, ht, hstore, houtcome⟩ := hrest
  refine ⟨(c, d) :: look, draw, rest, t, rfl, List.forall_mem_cons.2 ⟨hc, hlook⟩, ht, hstore, ?_⟩
  rw [run_cons]
  split at houtcome
  · rw [if_pos ‹_›]
    exact ⟨houtcome.1.cons fun h => absurd h hc, houtcome.2⟩
  · rwa [if_neg ‹_›]

/-! ### From stage to stage -/

variable {log : String} {keep count : Nat} {t : Table} {result : Except StoreError Gain}

/-- A client that is through stays so. -/
theorem finished_run (h : s.clients[client]? = some (.finished result)) (steps : List (Nat × Draw)) :
    (s.run steps).clients[client]? = some (.finished result) ∧ s.OnlyLooks client steps := by
  induction steps generalizing s with
  | nil => exact ⟨h, s.onlyLooks_nil client⟩
  | cons step steps ih =>
    obtain ⟨c, d⟩ := step
    by_cases hc : c = client
    · subst hc
      have hstep : s.step c d = s := by rw [SharedStore.step, h]
      obtain ⟨hrun, hlooks⟩ := ih (s := s.step c d) (by rw [hstep]; exact h)
      exact ⟨hrun, hlooks.cons fun _ => by rw [hstep]⟩
    · obtain ⟨hrun, hlooks⟩ := ih ((s.clients_step_of_ne hc d).trans h)
      exact ⟨hrun, hlooks.cons fun h => absurd h hc⟩

theorem getElem?_moveTo_self {stage stage' : Stage} (h : s.clients[client]? = some stage) :
    (s.clients.set client stage')[client]? = some stage' :=
  List.getElem?_set_self (List.getElem?_eq_some_iff.1 h).1

/-- A client that has removed events commits that, and nothing else happens to the store before. -/
theorem trimmed_run (hs : s.Guarded) (h : s.clients[client]? = some (.trimmed count ⟨t⟩))
    (hdone : (s.run steps).clients[client]? = some (.finished result)) :
    s.Replaces client t steps ∧ result = .ok (.removed count) := by
  obtain ⟨hholder, -⟩ := hs.writing h not_false
  induction steps generalizing s with
  | nil => cases hdone.symm.trans h
  | cons step steps ih =>
    obtain ⟨c, d⟩ := step
    by_cases hc : c = client
    · subst hc
      have hstep : s.step c d = { s.giveBack c (.ok (.removed count)) with store := s.store.commit ⟨t⟩ } := by
        rw [SharedStore.step, h]
      have hfinished : (s.step c d).clients[c]? = some (.finished (.ok (.removed count))) := by
        rw [hstep]
        exact getElem?_moveTo_self h
      obtain ⟨hrun, hlooks⟩ := finished_run hfinished steps
      refine ⟨⟨[], d, steps, rfl, hholder, rfl, by rw [run_nil, hstep], hlooks⟩, ?_⟩
      rw [run_cons, hrun] at hdone
      cases hdone
      rfl
    · obtain ⟨hstore, hholder'⟩ := store_step_of_holder hs hholder hc d
      obtain ⟨hreplaces, hresult⟩ := ih (guarded_step hs c d) ((s.clients_step_of_ne hc d).trans h) hdone hholder'
      exact ⟨hreplaces.cons hstore, hresult⟩

/-- A client that holds the write transaction removes what is too much in the table with which it began. -/
theorem holding_run (hs : s.Guarded) (h : s.clients[client]? = some (.holding (.trim log keep) ⟨t⟩))
    (hdone : (s.run steps).clients[client]? = some (.finished result)) :
    s.Replaces client (t.trim log keep).1 steps ∧ result = .ok (.removed (t.trim log keep).2) := by
  obtain ⟨hholder, -⟩ := hs.writing h not_false
  induction steps generalizing s with
  | nil => cases hdone.symm.trans h
  | cons step steps ih =>
    obtain ⟨c, d⟩ := step
    by_cases hc : c = client
    · subst hc
      have hstep : s.step c d = s.moveTo c (.trimmed (t.trim log keep).2 ⟨(t.trim log keep).1⟩) := by
        rw [SharedStore.step, h]
        rfl
      have htrimmed : (s.step c d).clients[c]? = some (.trimmed (t.trim log keep).2 ⟨(t.trim log keep).1⟩) := by
        rw [hstep]
        exact getElem?_moveTo_self h
      obtain ⟨hreplaces, hresult⟩ := trimmed_run (guarded_step hs c d) htrimmed hdone
      exact ⟨hreplaces.cons (by rw [hstep]; rfl), hresult⟩
    · obtain ⟨hstore, hholder'⟩ := store_step_of_holder hs hholder hc d
      obtain ⟨hreplaces, hresult⟩ := ih (guarded_step hs c d) ((s.clients_step_of_ne hc d).trans h) hdone hholder'
      exact ⟨hreplaces.cons hstore, hresult⟩

/-- A store that is open stays so. -/
theorem exists_table_step (hs : s.Guarded) (hopen : ∃ t, s.store.table? = some t) (client : Nat) (draw : Draw) :
    ∃ t, (s.step client draw).store.table? = some t := by
  obtain ⟨t, ht⟩ := hopen
  obtain ⟨t', ht', -⟩ := rows_step hs client draw ht
  exact ⟨t', ht'⟩

/-- A client that waits to remove events of a log does it once it gets the write transaction. -/
theorem waiting_run (hs : s.Guarded) (hopen : ∃ t, s.store.table? = some t)
    (h : s.clients[client]? = some (.waiting (.trim log keep)))
    (hdone : (s.run steps).clients[client]? = some (.finished result)) :
    s.Trims client log keep steps result := by
  induction steps generalizing s with
  | nil => cases hdone.symm.trans h
  | cons step steps ih =>
    obtain ⟨c, d⟩ := step
    by_cases hc : c = client
    · subst hc
      cases hholder : s.holder with
      | some other =>
        have hstep : s.step c d = s := by
          rw [SharedStore.step, h]
          dsimp only
          rw [hholder]
          rfl
        refine Trims.cons (fun _ => by rw [hstep]) (ih (guarded_step hs c d) ?_ ?_ hdone)
        · rwa [hstep]
        · rwa [hstep]
      | none =>
        obtain ⟨t, ht⟩ := hopen
        have hstep : s.step c d = { s.moveTo c (.holding (.trim log keep) ⟨t⟩) with holder := some c } := by
          rw [SharedStore.step, h]
          dsimp only
          rw [hholder, Store.begin_eq ht]
          rfl
        have hholding : (s.step c d).clients[c]? = some (.holding (.trim log keep) ⟨t⟩) := by
          rw [hstep]
          exact getElem?_moveTo_self h
        obtain ⟨hreplaces, hresult⟩ := holding_run (guarded_step hs c d) hholding hdone
        exact ⟨[], d, steps, t, rfl, s.onlyLooks_nil c, hholder, ht, by rw [run_nil, hstep]; rfl, hreplaces, hresult⟩
    · exact Trims.cons (fun h => absurd h hc) (ih (guarded_step hs c d) (exists_table_step hs hopen c d)
        ((s.clients_step_of_ne hc d).trans h) hdone)

/-- **An eviction that comes to an end has looked at the log, and where there was a surplus it has trimmed it.** -/
theorem evicts_run (hs : s.Guarded) (hopen : ∃ t, s.store.table? = some t)
    (hkeep : s.store.settings.retention.keep = keep) (h : s.clients[client]? = some (.ready (.evict log)))
    (hdone : (s.run steps).clients[client]? = some (.finished result)) :
    s.Evicts client log keep steps result := by
  induction steps generalizing s with
  | nil => cases hdone.symm.trans h
  | cons step steps ih =>
    obtain ⟨c, d⟩ := step
    by_cases hc : c = client
    · subst hc
      obtain ⟨t, ht⟩ := hopen
      have hstep : s.step c d = s.moveTo c (firstStage s.store (.evict log)) := by rw [SharedStore.step, h]
      have hstage : (s.step c d).clients[c]? = some (firstStage s.store (.evict log)) := by
        rw [hstep]
        exact getElem?_moveTo_self h
      have hstore : (s.step c d).store = s.store := by
        rw [hstep]
        rfl
      refine ⟨[], d, steps, t, rfl, nofun, ht, hstore, ?_⟩
      rw [firstStage, Store.table_eq ht] at hstage
      dsimp only at hstage
      by_cases hfew : t.count log ≤ keep
      · rw [if_neg fun hfull => (Store.overfull_iff _ t log).1 hfull (hkeep ▸ hfew)] at hstage
        obtain ⟨hrun, hlooks⟩ := finished_run hstage steps
        rw [if_pos hfew]
        rw [run_cons, hrun] at hdone
        cases hdone
        exact ⟨hlooks.cons fun _ => hstore, rfl⟩
      · rw [if_pos ((Store.overfull_iff _ t log).2 (hkeep ▸ hfew)), hkeep] at hstage
        rw [if_neg hfew]
        exact waiting_run (guarded_step hs c d) ⟨t, hstore ▸ ht⟩ hstage hdone
    · exact Evicts.cons hc (ih (guarded_step hs c d) (exists_table_step hs hopen c d)
        ((congrArg (·.retention.keep) (s.settings_step c d)).trans hkeep) ((s.clients_step_of_ne hc d).trans h) hdone)

/-- What a client has got that is through with its errand. -/
def result? (s : SharedStore) (client : Nat) : Option (Except StoreError Gain) :=
  match s.clients[client]? with
  | some (.finished result) => some result
  | _ => none

theorem result?_eq_some_iff : s.result? client = some result ↔ s.clients[client]? = some (.finished result) := by
  rw [result?]
  split
  · rename_i found h
    rw [h]
    exact ⟨fun heq => by rw [Option.some.inj heq], fun heq => by cases heq; rfl⟩
  · rename_i hnot
    exact iff_of_false nofun (hnot result)

/-! ### Exactness -/

/-- **Evictions are exact.**  An eviction of a log that comes to an end among other clients has only looked, or it has
removed all rows of the log but the newest from the table with which its transaction began.  Alone it is the same as a
removal without a look, and a second one removes nothing.  An eviction of all logs leaves the newest rows of each. -/
theorem evictions_exact :
    (∀ (s : SharedStore) (t : Table) (client : Nat) (log : String) (steps : List (Nat × Draw))
      (result : Except StoreError Gain), s.Guarded → s.store.table? = some t →
      s.clients[client]? = some (.ready (.evict log)) → (s.run steps).result? client = some result →
        s.Evicts client log s.store.settings.retention.keep steps result) ∧
    (∀ (t : Table) (log : String) (keep : Nat),
      (t.trim log keep).1.rowsOf log <:+ t.rowsOf log ∧ (t.trim log keep).1.count log = min (t.count log) keep ∧
        (t.trim log keep).2 = t.count log - min (t.count log) keep ∧
        (∀ r, Table.owns log r.1 = false → (r ∈ (t.trim log keep).1.entries ↔ r ∈ t.entries)) ∧
        ∀ log', Valid log → Valid log' → log' ≠ log → (t.trim log keep).1.rowsOf log' = t.rowsOf log') ∧
    (∀ (s : Store) (log : String), s.evict log = s.trim log s.settings.retention.keep) ∧
    (∀ (s : Store) (t : Table) (log : String), s.table? = some t →
      (s.evict log).2.evict log = (.ok 0, (s.evict log).2)) ∧
    ∀ (s : Store) (t : Table), s.table? = some t → t.Keyed →
      (∃ t', s.evictAll = (.ok (t.entries.length - t'.entries.length), s.commit ⟨t'⟩) ∧ t'.entries ⊆ t.entries ∧
        ∀ log, Valid log → t'.rowsOf log <:+ t.rowsOf log ∧
          t'.count log = min (t.count log) s.settings.retention.keep) ∧
      s.evictAll.2.evictAll = (.ok 0, s.evictAll.2) := by
  refine ⟨?_, ?_, Store.evict_eq_trim, fun s t log ht => Store.evict_evict ht log, fun s t ht hkeyed => ⟨?_, ?_⟩⟩
  · intro s t client log steps result hs ht hready hdone
    exact evicts_run hs ⟨t, ht⟩ rfl hready (result?_eq_some_iff.1 hdone)
  · intro t log keep
    refine ⟨?_, t.count_trim log keep, ?_, fun r hr => ?_, fun log' hlog hlog' hne => ?_⟩
    · rw [t.rowsOf_trim_eq_newest]
      exact t.newest_suffix log keep
    · rw [t.trim_snd]
      omega
    · exact Table.mem_entries_trim_of_not_owns hr
    · exact Table.rowsOf_trim_of_ne hlog hlog' hne.symm keep
  · obtain ⟨t', hevict, hkeyed', hsubset, hrows⟩ := Store.evictAll_eq ht hkeyed
    refine ⟨t', hevict, hsubset, fun log hlog => ?_⟩
    rw [Table.count, hrows log hlog, Table.length_newest]
    exact ⟨t.newest_suffix log _, rfl⟩
  · exact Store.evictAll_evictAll ht hkeyed

/-- Two rows of three are to be kept, and another client appends a fourth between the look and the transaction. -/
theorem evictions_exact_append_between :
    let t : Table := ((SortedMap.empty.insert (Entry.key "a" (.ofParts 1 0)) (Entry.payload 5 [104])).insert
      (Entry.key "a" (.ofParts 2 0)) (Entry.payload 6 [105])).insert
      (Entry.key "a" (.ofParts 3 0)) (Entry.payload 7 [106])
    let s : SharedStore :=
      { store := { settings := { retention := .atMost 2 }, table? := some t }
        clients := [.ready (.evict "a"), .ready (.add "a" (.ofNanos 8) [107])] }
    let draw : Draw := ⟨.ofNanos 9000000, .ok ⟨7, by decide⟩⟩
    let steps := [(0, draw), (1, draw), (1, draw), (1, draw), (1, draw), (1, draw), (0, draw), (0, draw), (0, draw)]
    s.Evicts 0 "a" s.store.settings.retention.keep steps (.ok (.removed 2)) := by
  intro t s draw steps
  have hfresh : s.Fresh t := ⟨rfl, rfl, rfl, by simp [s]⟩
  have hdone : (s.run steps).result? 0 = some (.ok (.removed 2)) := by decide +kernel
  exact evictions_exact.1 s t 0 "a" steps _ hfresh.guarded rfl rfl hdone

end SharedStore
end Logbook
