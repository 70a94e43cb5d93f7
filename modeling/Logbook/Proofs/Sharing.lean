import Logbook.Proofs.Store
import Logbook.Store.Sharing

/-!
# Clients of one store

Whatever the order of their steps, one client at a time is writing, and its draft differs from the table as it stands
by its own change only.  So no change is lost, and every row that comes into the table is that of an event which
a client has appended.

## Main definitions

* `SharedStore.Advance` — all that a step can do.
* `SharedStore.Fresh` — a store that has just been opened, before its clients have begun.
* `SharedStore.Guarded` — one client at most is writing.
* `SharedStore.Healthy` — and every row stands for an event.

## Main results

* `SharedStore.guarded_step` — a step keeps the write transaction in one hand.
* `SharedStore.rows_step` — a step brings in the row of the event that it commits, and no other.
* `SharedStore.sound_step` — every row goes on to stand for an event.
-/

namespace Logbook

/-! ### What is to be written -/

/-- A value that comes from a time and a message that can be stored, for a log with a name. -/
def Change.Storable : Change → Prop
  | .append log value => ∃ timestamp message, Store.valueOf log timestamp message = .ok value
  | .trim _ _ => True

/-- The row of a storable value stands for an event, whatever the identifier is. -/
theorem Change.Storable.exists_isEntry {log : String} {value : Bytes}
    (h : (Change.append log value).Storable) (id : EventId) :
    ∃ e : Event, Entry.IsEntry (Entry.key log id, value) e ∧ e.id = id ∧ e.log = log := by
  obtain ⟨timestamp, message, hvalue⟩ := h
  have hlog : LogName.Valid log := by
    by_cases hlog : LogName.Valid log
    · exact hlog
    · rw [Store.valueOf, LogName.check, if_neg hlog] at hvalue
      cases hvalue
  rw [Store.valueOf_eq hlog] at hvalue
  obtain ⟨n, hn, rfl⟩ := Entry.value_eq_ok_iff.1 hvalue
  exact ⟨_, Entry.isEntry_key hlog id hn message, rfl, rfl⟩

namespace SharedStore

/-! ### Steps -/

/-- All that a step of a client can do. -/
inductive Advance (s : SharedStore) (client : Nat) (draw : Draw) : SharedStore → Prop
  /-- The client has to wait, or is through. -/
  | stay (hcommits : s.commits client = []) : Advance s client draw s
  /-- The client begins. -/
  | start {errand : Errand} (hstage : s.clients[client]? = some (.ready errand)) :
    Advance s client draw (s.moveTo client (firstStage s.store errand))
  /-- There is no write transaction to be had. -/
  | refuse {change : Change} {error : StoreError}
    (hstage : s.clients[client]? = some (.waiting change)) :
    Advance s client draw (s.moveTo client (.finished (.error error)))
  /-- The client gets the write transaction. -/
  | acquire {change : Change} {t : Table} (hstage : s.clients[client]? = some (.waiting change))
    (hfree : s.holder = none) (htable : s.store.table? = some t) :
    Advance s client draw { s.moveTo client (.holding change ⟨t⟩) with holder := some client }
  /-- There is no identifier to be had. -/
  | fail {log : String} {value : Bytes} {draft : Draft} {error : StoreError}
    (hstage : s.clients[client]? = some (.holding (.append log value) draft)) :
    Advance s client draw (s.giveBack client (.error error))
  /-- The client mints an identifier. -/
  | mint {log : String} {value : Bytes} {draft : Draft} {id : EventId} {g : Generator}
    (hstage : s.clients[client]? = some (.holding (.append log value) draft))
    (hnext : s.store.generator.next draw.now.millis draw.entropy = (.ok id, g)) :
    Advance s client draw { s.moveTo client (.minted log value id draft) with
      store := { s.store with generator := g } }
  /-- The client adds the row of the new event. -/
  | insert {log : String} {value : Bytes} {id : EventId} {draft : Draft}
    (hstage : s.clients[client]? = some (.minted log value id draft)) :
    Advance s client draw
      (s.moveTo client (.inserted log value id (draft.insert (Entry.key log id) value)))
  /-- The client removes events. -/
  | trim {log : String} {keep : Nat} {draft : Draft}
    (hstage : s.clients[client]? = some (.holding (.trim log keep) draft)) :
    Advance s client draw
      (s.moveTo client (.trimmed (draft.trim log keep).2 (draft.trim log keep).1))
  /-- The client commits a new event. -/
  | commitEvent {log : String} {value : Bytes} {id : EventId} {draft : Draft}
    (hstage : s.clients[client]? = some (.inserted log value id draft)) :
    Advance s client draw
      { s.giveBack client (.ok (.added id)) with store := s.store.commit draft }
  /-- The client commits a removal. -/
  | commitRemoval {count : Nat} {draft : Draft}
    (hstage : s.clients[client]? = some (.trimmed count draft)) :
    Advance s client draw
      { s.giveBack client (.ok (.removed count)) with store := s.store.commit draft }

theorem advance_step (s : SharedStore) (client : Nat) (draw : Draw) :
    Advance s client draw (s.step client draw) := by
  unfold step
  cases hstage : s.clients[client]? with
  | none => exact .stay (by rw [commits, hstage])
  | some stage =>
    cases stage with
    | finished result => exact .stay (by rw [commits, hstage])
    | ready errand => exact .start hstage
    | waiting change =>
      dsimp only
      cases hholder : s.holder with
      | some holder => exact .stay (by rw [commits, hstage])
      | none =>
        cases htable : s.store.table? with
        | none =>
          -- a store that is closed has no write transaction to give
          have hbegin : s.store.begin = .error .closed := by
            rw [Store.begin, Store.table, htable]
            rfl
          rw [hbegin]
          exact .refuse hstage
        | some t =>
          rw [Store.begin_eq htable]
          exact .acquire hstage hholder htable
    | holding change draft =>
      cases change with
      | append log value =>
        dsimp only
        cases hnext : s.store.generator.next draw.now.millis draw.entropy with
        | mk result g =>
          cases result with
          | error error =>
            rw [Store.mint_of_error hnext]
            exact .fail hstage
          | ok id =>
            rw [Store.mint_of_ok hnext]
            exact .mint hstage hnext
      | trim log keep => exact .trim hstage
    | minted log value id draft => exact .insert hstage
    | inserted log value id draft => exact .commitEvent hstage
    | trimmed count draft => exact .commitRemoval hstage

end SharedStore

/-! ### One writer -/

/-- A client does not hold the write transaction. -/
def Stage.Idle : Stage → Prop
  | .ready _ | .finished _ => True
  | .waiting change => change.Storable
  | _ => False

/-- What is known of the client that holds the write transaction, and of its draft. -/
def Stage.Writing (store : Store) : Stage → Prop
  | .holding change draft => change.Storable ∧ store.table? = some draft.table
  | .minted log value _ draft =>
    (Change.append log value).Storable ∧ store.table? = some draft.table
  | .inserted log value id draft =>
    (Change.append log value).Storable ∧
      ∃ t : Table, store.table? = some t ∧ draft.table = t.insert (Entry.key log id) value
  | .trimmed _ draft =>
    ∃ (t : Table) (log : String) (keep : Nat),
      store.table? = some t ∧ draft.table = (t.trim log keep).1
  | _ => False

namespace SharedStore

/-- A store that has just been opened with a table, before its clients have begun. -/
structure Fresh (s : SharedStore) (t : Table) : Prop where
  /-- The table that was found in the database. -/
  table : s.store.table? = some t
  /-- No identifier has been minted. -/
  generator : s.store.generator = .new
  /-- The write transaction is free. -/
  holder : s.holder = none
  /-- All errands lie ahead. -/
  clients : ∀ stage ∈ s.clients, ∃ errand, stage = .ready errand

/-- One client at most is writing, and it is the one that holds the write transaction. -/
def Guarded (s : SharedStore) : Prop := ∀ client stage, s.clients[client]? = some stage →
  if s.holder = some client then stage.Writing s.store else stage.Idle

theorem Fresh.guarded {s : SharedStore} {t : Table} (h : s.Fresh t) : s.Guarded := by
  intro client stage hstage
  obtain ⟨errand, rfl⟩ := h.clients stage (List.mem_of_getElem? hstage)
  rw [h.holder]
  exact trivial

section Guarded

variable {s : SharedStore} {client : Nat} {stage : Stage}

theorem getElem?_moveTo {c : Nat} {stage' : Stage}
    (h : (s.clients.set client stage)[c]? = some stage') :
    c = client ∧ stage' = stage ∨ c ≠ client ∧ s.clients[c]? = some stage' := by
  by_cases hc : c = client
  · subst hc
    rw [List.getElem?_set_self'] at h
    obtain ⟨_, -, rfl⟩ := Option.map_eq_some_iff.1 h
    exact Or.inl ⟨rfl, rfl⟩
  · rw [List.getElem?_set_ne (Ne.symm hc)] at h
    exact Or.inr ⟨hc, h⟩

/-- Who is not idle is the one who holds the write transaction. -/
theorem Guarded.writing (h : s.Guarded) (hstage : s.clients[client]? = some stage)
    (hbusy : ¬ stage.Idle) : s.holder = some client ∧ stage.Writing s.store := by
  have hclient := h client stage hstage
  by_cases hholder : s.holder = some client
  · rw [if_pos hholder] at hclient
    exact ⟨hholder, hclient⟩
  · rw [if_neg hholder] at hclient
    exact absurd hclient hbusy

/-- Who is not writing does not hold the write transaction. -/
theorem Guarded.idle (h : s.Guarded) (hstage : s.clients[client]? = some stage)
    (hidle : ¬ stage.Writing s.store) : s.holder ≠ some client ∧ stage.Idle := by
  have hclient := h client stage hstage
  by_cases hholder : s.holder = some client
  · rw [if_pos hholder] at hclient
    exact absurd hclient hidle
  · rw [if_neg hholder] at hclient
    exact ⟨hholder, hclient⟩

/-- While one client holds the write transaction, or nobody does, all others are idle. -/
theorem Guarded.others (h : s.Guarded) (hholder : s.holder = some client ∨ s.holder = none)
    {c : Nat} (hc : c ≠ client) (hstage : s.clients[c]? = some stage) : stage.Idle := by
  have hclient := h c stage hstage
  have hne : ¬ s.holder = some c := by
    rcases hholder with hholder | hholder
    · rw [hholder]
      exact fun heq => hc (Option.some.inj heq).symm
    · rw [hholder]
      exact nofun
  rw [if_neg hne] at hclient
  exact hclient

/-- A client that stays idle changes nothing for the others. -/
theorem Guarded.move (h : s.Guarded) (hholder : s.holder ≠ some client) (hidle : stage.Idle) :
    (s.moveTo client stage).Guarded := by
  intro c stage' hstage
  rcases getElem?_moveTo hstage with ⟨rfl, rfl⟩ | ⟨-, hstage⟩
  · exact (if_neg hholder).symm ▸ hidle
  · exact h c stage' hstage

/-- The client that holds the write transaction goes on, or another gets it while nobody holds it. -/
theorem Guarded.write (h : s.Guarded) (hholder : s.holder = some client ∨ s.holder = none)
    (stage : Stage) (store : Store) (hwriting : stage.Writing store) :
    Guarded { s.moveTo client stage with store, holder := some client } := by
  intro c stage' hstage
  rcases getElem?_moveTo hstage with ⟨rfl, rfl⟩ | ⟨hc, hstage⟩
  · exact (if_pos rfl).symm ▸ hwriting
  · exact (if_neg fun heq => hc (Option.some.inj heq).symm).symm ▸ h.others hholder hc hstage

/-- The client that holds the write transaction goes on and keeps it. -/
theorem Guarded.goOn (h : s.Guarded) (hholder : s.holder = some client) (stage : Stage)
    (store : Store) (hwriting : stage.Writing store) :
    Guarded { s.moveTo client stage with store } := by
  have hwrite := h.write (Or.inl hholder) stage store hwriting
  rw [← hholder] at hwrite
  exact hwrite

/-- The client that holds the write transaction gives it back. -/
theorem Guarded.release (h : s.Guarded) (hholder : s.holder = some client) (store : Store)
    (result : Except StoreError Gain) : Guarded { s.giveBack client result with store } := by
  intro c stage' hstage
  rcases getElem?_moveTo hstage with ⟨rfl, rfl⟩ | ⟨hc, hstage⟩
  · exact trivial
  · exact h.others (Or.inl hholder) hc hstage

theorem firstStage_idle (store : Store) (errand : Errand) : (firstStage store errand).Idle := by
  cases errand with
  | add log timestamp message =>
    unfold firstStage
    dsimp only
    cases hvalue : Store.valueOf log timestamp message with
    | ok value => exact ⟨timestamp, message, hvalue⟩
    | error error => exact trivial
  | trim log keep => exact trivial
  | evict log =>
    unfold firstStage
    dsimp only
    cases store.table with
    | error error => exact trivial
    | ok t =>
      dsimp only
      split
      · exact trivial
      · exact trivial

/-- **A step keeps the write transaction in one hand.** -/
theorem guarded_step (h : s.Guarded) (client : Nat) (draw : Draw) : (s.step client draw).Guarded := by
  have hadvance := advance_step s client draw
  generalize s.step client draw = s' at hadvance ⊢
  cases hadvance with
  | stay => exact h
  | start hstage => exact h.move (h.idle hstage not_false).1 (firstStage_idle _ _)
  | refuse hstage => exact h.move (h.idle hstage not_false).1 trivial
  | acquire hstage hfree htable =>
    exact h.write (Or.inr hfree) _ _ ⟨(h.idle hstage not_false).2, htable⟩
  | fail hstage => exact h.release (h.writing hstage not_false).1 _ _
  | @mint log value draft id g hstage =>
    -- the table stays as it is when an identifier is minted
    obtain ⟨hholder, hstorable, htable⟩ := h.writing hstage not_false
    exact h.goOn hholder (.minted log value id draft) { s.store with generator := g }
      ⟨hstorable, htable⟩
  | @insert log value id draft hstage =>
    obtain ⟨hholder, hstorable, htable⟩ := h.writing hstage not_false
    exact h.goOn hholder (.inserted log value id (draft.insert (Entry.key log id) value)) s.store
      ⟨hstorable, draft.table, htable, rfl⟩
  | @trim log keep draft hstage =>
    obtain ⟨hholder, -, htable⟩ := h.writing hstage not_false
    exact h.goOn hholder (.trimmed (draft.trim log keep).2 (draft.trim log keep).1) s.store
      ⟨draft.table, log, keep, htable, rfl⟩
  | commitEvent hstage => exact h.release (h.writing hstage not_false).1 _ _
  | commitRemoval hstage => exact h.release (h.writing hstage not_false).1 _ _

/-! ### What comes into the table -/

theorem commits_of_isEntry {log : String} {value : Bytes} {id : EventId} {draft : Draft}
    (hstage : s.clients[client]? = some (.inserted log value id draft)) {e : Event}
    (he : Entry.IsEntry (Entry.key log id, value) e) : s.commits client = [e] := by
  rw [commits, hstage]
  dsimp only
  rw [he.decodes]
  rfl

/-- Whoever commits an event has added its row to the table. -/
theorem Guarded.commits_cases (h : s.Guarded) (client : Nat) :
    s.commits client = [] ∨ ∃ (e : Event) (value : Bytes) (draft : Draft) (t : Table),
      s.commits client = [e] ∧ Entry.IsEntry (Entry.key e.log e.id, value) e ∧
        s.clients[client]? = some (.inserted e.log value e.id draft) ∧
          s.store.table? = some t ∧ draft.table = t.insert (Entry.key e.log e.id) value := by
  cases hstage : s.clients[client]? with
  | none => exact Or.inl (by rw [commits, hstage])
  | some stage =>
    cases stage with
    | inserted log value id draft =>
      obtain ⟨-, hstorable, t, ht, hdraft⟩ := h.writing hstage not_false
      obtain ⟨e, he, rfl, rfl⟩ := hstorable.exists_isEntry id
      exact Or.inr ⟨e, value, draft, t, commits_of_isEntry hstage he, he, rfl, ht, hdraft⟩
    | ready | waiting | holding | minted | trimmed | finished =>
      exact Or.inl (by rw [commits, hstage])

/-- **Whatever is in the table after a step was there before or is the row of the event that has been
committed.** -/
theorem rows_step (h : s.Guarded) (client : Nat) (draw : Draw) {t : Table}
    (ht : s.store.table? = some t) :
    ∃ t', (s.step client draw).store.table? = some t' ∧
      ∀ r ∈ t'.entries, r ∈ t.entries ∨ ∃ e ∈ s.commits client, Entry.IsEntry r e := by
  have hadvance := advance_step s client draw
  generalize s.step client draw = s' at hadvance ⊢
  cases hadvance with
  | @commitEvent log value id draft hstage =>
    obtain ⟨-, hstorable, t', ht', hdraft⟩ := h.writing hstage not_false
    obtain rfl : t = t' := Option.some.inj (ht.symm.trans ht')
    obtain ⟨e, he, rfl, rfl⟩ := hstorable.exists_isEntry id
    refine ⟨draft.table, rfl, fun r hr => ?_⟩
    -- the draft differs from the table by the new row
    rw [hdraft] at hr
    rcases Table.mem_entries_insert.1 hr with rfl | ⟨-, hr⟩
    · rw [commits_of_isEntry hstage he]
      exact Or.inr ⟨e, List.mem_cons_self, he⟩
    · exact Or.inl hr
  | @commitRemoval count draft hstage =>
    obtain ⟨-, t', log, keep, ht', hdraft⟩ := h.writing hstage not_false
    obtain rfl : t = t' := Option.some.inj (ht.symm.trans ht')
    refine ⟨draft.table, rfl, fun r hr => ?_⟩
    rw [hdraft] at hr
    exact Or.inl (Table.mem_entries_trim.1 hr).1
  | stay | start | refuse | acquire | fail | mint | insert | trim =>
    exact ⟨t, ht, fun r hr => Or.inl hr⟩

/-- Where every row stood for an event, every row does after a step. -/
theorem sound_step (h : s.Guarded) (client : Nat) (draw : Draw) {t : Table}
    (ht : s.store.table? = some t) (hsound : t.Sound) :
    ∃ t', (s.step client draw).store.table? = some t' ∧ t'.Sound := by
  obtain ⟨t', ht', hrows⟩ := rows_step h client draw ht
  refine ⟨t', ht', fun r hr => ?_⟩
  rcases hrows r hr with hr | ⟨e, -, he⟩
  · exact hsound r hr
  · exact ⟨e, he⟩

end Guarded

/-! ### Runs -/

/-- One client at most is writing, and every row stands for an event. -/
structure Healthy (s : SharedStore) : Prop where
  /-- One client at most is writing. -/
  guarded : s.Guarded
  /-- The store is open, and every row of its table stands for an event. -/
  table : ∃ t, s.store.table? = some t ∧ t.Sound

theorem Fresh.healthy {s : SharedStore} {t : Table} (h : s.Fresh t) (ht : t.Sound) : s.Healthy :=
  ⟨h.guarded, t, h.table, ht⟩

theorem healthy_step {s : SharedStore} (h : s.Healthy) (client : Nat) (draw : Draw) :
    (s.step client draw).Healthy := by
  obtain ⟨t, ht, hsound⟩ := h.table
  exact ⟨guarded_step h.guarded client draw, sound_step h.guarded client draw ht hsound⟩

theorem healthy_run : ∀ (steps : List (Nat × Draw)) {s : SharedStore},
    s.Healthy → (s.run steps).Healthy := by
  intro steps
  induction steps with
  | nil => intro s h; exact h
  | cons step steps ih =>
    intro s h
    exact ih (healthy_step h step.1 step.2)

end SharedStore

end Logbook
