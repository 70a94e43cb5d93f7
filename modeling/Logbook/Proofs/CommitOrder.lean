import Logbook.Proofs.Sharing

/-!
# The order of commits

An identifier is minted while the write transaction is held, so events are committed in the order of their
identifiers, whatever the order of the clients' steps.

## Main definitions

* `SharedStore.Orderly` — the invariant, about the events that have been committed.

## Main results

* `SharedStore.orderly_step`, `SharedStore.orderly_run` — steps and runs keep the invariant.
* `SharedStore.Orderly.insert_fresh` — an insertion takes a new key.
* `SharedStore.mem_eventsOf_run` — what is stored was there before or has been committed.
-/

namespace Logbook

/-- The identifier that a client has minted but not yet committed. -/
def Stage.id? : Stage → Option EventId
  | .minted _ _ id _ | .inserted _ _ id _ => some id
  | _ => none

theorem Stage.Idle.id?_eq {stage : Stage} (h : stage.Idle) : stage.id? = none := by
  cases stage with
  | minted | inserted => exact h.elim
  | ready | waiting | holding | trimmed | finished => rfl

namespace SharedStore

/-- What holds of a store that has been opened with the table `start`, when the events `past` have been
committed since. -/
structure Orderly (start : Table) (past : List Event) (s : SharedStore) : Prop where
  /-- One client at most is writing. -/
  guarded : s.Guarded
  /-- Events are committed in the order of their identifiers. -/
  ascending : past.Pairwise fun a b => a.id < b.id
  /-- No event has an identifier above the one minted last. -/
  minted : ∀ e ∈ past, ∃ i ∈ s.store.generator.lastId?, e.id ≤ i
  /-- An identifier that is not yet committed is the one minted last, and above all that are. -/
  newest : ∀ (client : Nat) (stage : Stage) (id : EventId), s.clients[client]? = some stage → stage.id? = some id →
    s.store.generator.lastId? = some id ∧ ∀ e ∈ past, e.id < id
  /-- A row was there from the start or is that of a committed event. -/
  rows : ∃ t, s.store.table? = some t ∧
    ∀ r ∈ t.entries, r ∈ start.entries ∨ ∃ e ∈ past, Entry.IsEntry r e

theorem Fresh.orderly {s : SharedStore} {t : Table} (h : s.Fresh t) : Orderly t [] s where
  guarded := h.guarded
  ascending := .nil
  minted _ he := nomatch he
  newest := by
    intro client stage id hstage hid
    obtain ⟨errand, rfl⟩ := h.clients stage (List.mem_of_getElem? hstage)
    cases hid
  rows := ⟨t, h.table, fun _ hr => Or.inl hr⟩

section Orderly

variable {start : Table} {past : List Event} {s : SharedStore}

/-- The generator stays as it is, or has minted an identifier. -/
theorem generator_step (s : SharedStore) (client : Nat) (draw : Draw) :
    (s.step client draw).store.generator = s.store.generator ∨
      ∃ id, s.store.generator.next draw.now.millis draw.entropy =
        (.ok id, (s.step client draw).store.generator) := by
  have hadvance := advance_step s client draw
  generalize s.step client draw = s' at hadvance ⊢
  cases hadvance with
  | mint hstage hnext => exact Or.inr ⟨_, hnext⟩
  | stay | start | refuse | acquire | fail | insert | trim | commitEvent | commitRemoval =>
    exact Or.inl rfl

theorem inRange_of_step {client : Nat} {draw : Draw}
    (hrange : (s.step client draw).store.generator.InRange) : s.store.generator.InRange := by
  rcases generator_step s client draw with hgenerator | ⟨id, hnext⟩
  · rw [← hgenerator]
    exact hrange
  · have hnew : (s.store.generator.next draw.now.millis draw.entropy).2.InRange := by
      rw [hnext]
      exact hrange
    exact Generator.inRange_of_next hnew

/-- The identifier minted last never goes back. -/
theorem lastId?_step {client : Nat} {draw : Draw}
    (hrange : (s.step client draw).store.generator.InRange) :
    ∀ i ∈ s.store.generator.lastId?, ∃ j ∈ (s.step client draw).store.generator.lastId?, i ≤ j := by
  intro i hi
  rcases generator_step s client draw with hgenerator | ⟨id, hnext⟩
  · rw [hgenerator]
    exact ⟨i, hi, Nat.le_refl _⟩
  · refine ⟨id, Generator.lastId?_of_next hnext, ?_⟩
    exact Nat.le_of_lt (Generator.lt_of_next hnext hrange i hi)

/-- An event that is committed has the identifier minted last, above all others. -/
theorem Orderly.newest_commits (h : Orderly start past s) {client : Nat} {e : Event}
    (he : e ∈ s.commits client) :
    s.store.generator.lastId? = some e.id ∧ ∀ e' ∈ past, e'.id < e.id := by
  rcases h.guarded.commits_cases client with hcommits | ⟨e', value, draft, t, hcommits, -, hstage, -⟩
  · rw [hcommits] at he
    cases he
  · rw [hcommits, List.mem_singleton] at he
    subst he
    exact h.newest client _ e.id hstage rfl

theorem Orderly.ascending_step (h : Orderly start past s) (client : Nat) :
    (past ++ s.commits client).Pairwise fun a b => a.id < b.id := by
  rw [List.pairwise_append]
  refine ⟨h.ascending, ?_, fun a ha b hb => (h.newest_commits hb).2 a ha⟩
  rcases h.guarded.commits_cases client with hcommits | ⟨e, value, draft, t, hcommits, -⟩
  · rw [hcommits]
    exact .nil
  · rw [hcommits]
    exact List.pairwise_singleton _ _

theorem Orderly.newest_step (h : Orderly start past s) (client : Nat) (draw : Draw)
    (hrange : (s.step client draw).store.generator.InRange) :
    ∀ (c : Nat) (stage : Stage) (id : EventId), (s.step client draw).clients[c]? = some stage → stage.id? = some id →
      (s.step client draw).store.generator.lastId? = some id ∧
        ∀ e ∈ past ++ s.commits client, e.id < id := by
  intro c stage id hstage hid
  -- a client with an identifier is writing, so it is the only one
  have hbusy : ¬ stage.Idle := by
    intro hidle
    rw [hidle.id?_eq] at hid
    cases hid
  have hpast (hcommits : s.commits client = []) (hnewest : ∀ e ∈ past, e.id < id) :
      ∀ e ∈ past ++ s.commits client, e.id < id := by
    rw [hcommits, List.append_nil]
    exact hnewest
  have hadvance := advance_step s client draw
  generalize s.step client draw = s' at hadvance hrange hstage ⊢
  cases hadvance with
  | stay hcommits =>
    obtain ⟨hlast, hnewest⟩ := h.newest c stage id hstage hid
    exact ⟨hlast, hpast hcommits hnewest⟩
  | start hclient =>
    rcases getElem?_moveTo hstage with ⟨-, rfl⟩ | ⟨-, hstage⟩
    · exact absurd (firstStage_idle _ _) hbusy
    · obtain ⟨hlast, hnewest⟩ := h.newest c stage id hstage hid
      exact ⟨hlast, hpast (by rw [commits, hclient]) hnewest⟩
  | refuse hclient =>
    rcases getElem?_moveTo hstage with ⟨-, rfl⟩ | ⟨-, hstage⟩
    · exact absurd trivial hbusy
    · obtain ⟨hlast, hnewest⟩ := h.newest c stage id hstage hid
      exact ⟨hlast, hpast (by rw [commits, hclient]) hnewest⟩
  | acquire hclient hfree =>
    rcases getElem?_moveTo hstage with ⟨-, rfl⟩ | ⟨hc, hstage⟩
    · cases hid
    · exact absurd (h.guarded.others (Or.inr hfree) hc hstage) hbusy
  | @mint log value draft id' g hclient hnext =>
    rcases getElem?_moveTo hstage with ⟨-, rfl⟩ | ⟨hc, hstage⟩
    · -- the identifier has just been minted
      obtain rfl : id' = id := Option.some.inj hid
      refine ⟨Generator.lastId?_of_next hnext, hpast (by rw [commits, hclient]) fun e he => ?_⟩
      obtain ⟨i, hi, hle⟩ := h.minted e he
      exact Nat.lt_of_le_of_lt hle (Generator.lt_of_next hnext hrange i hi)
    · exact absurd (h.guarded.others (Or.inl (h.guarded.writing hclient not_false).1) hc hstage) hbusy
  | @insert log value id' draft hclient =>
    rcases getElem?_moveTo hstage with ⟨-, rfl⟩ | ⟨hc, hstage⟩
    · obtain rfl : id' = id := Option.some.inj hid
      obtain ⟨hlast, hnewest⟩ := h.newest client _ id' hclient rfl
      exact ⟨hlast, hpast (by rw [commits, hclient]) hnewest⟩
    · exact absurd (h.guarded.others (Or.inl (h.guarded.writing hclient not_false).1) hc hstage) hbusy
  | fail hclient | trim hclient | commitEvent hclient | commitRemoval hclient =>
    rcases getElem?_moveTo hstage with ⟨-, rfl⟩ | ⟨hc, hstage⟩
    · cases hid
    · exact absurd (h.guarded.others (Or.inl (h.guarded.writing hclient not_false).1) hc hstage) hbusy

/-- **A step keeps the invariant.** -/
theorem orderly_step (h : Orderly start past s) (client : Nat) (draw : Draw)
    (hrange : (s.step client draw).store.generator.InRange) :
    Orderly start (past ++ s.commits client) (s.step client draw) where
  guarded := guarded_step h.guarded client draw
  ascending := h.ascending_step client
  minted := by
    intro e he
    rcases List.mem_append.1 he with he | he
    · obtain ⟨i, hi, hle⟩ := h.minted e he
      obtain ⟨j, hj, hij⟩ := lastId?_step hrange i hi
      exact ⟨j, hj, Nat.le_trans hle hij⟩
    · exact lastId?_step hrange e.id (h.newest_commits he).1
  newest := h.newest_step client draw hrange
  rows := by
    obtain ⟨t, ht, hrows⟩ := h.rows
    obtain ⟨t', ht', hstep⟩ := rows_step h.guarded client draw ht
    refine ⟨t', ht', fun r hr => ?_⟩
    rcases hstep r hr with hr | ⟨e, he, hentry⟩
    · refine (hrows r hr).imp_right ?_
      rintro ⟨e, he, hentry⟩
      exact ⟨e, List.mem_append_left _ he, hentry⟩
    · exact Or.inr ⟨e, List.mem_append_right _ he, hentry⟩

/-- An insertion takes a key that no event has got, and replaces at most a row that was there from the start. -/
theorem Orderly.insert_fresh (h : Orderly start past s) {client : Nat} {log : String}
    {value : Bytes} {id : EventId} {draft : Draft}
    (hstage : s.clients[client]? = some (.minted log value id draft)) :
    (∀ e ∈ past, Entry.key e.log e.id ≠ Entry.key log id) ∧
      ∀ r ∈ draft.table.entries, r.1 = Entry.key log id → r ∈ start.entries := by
  obtain ⟨-, hnewest⟩ := h.newest client _ id hstage rfl
  have hkey : ∀ e ∈ past, Entry.key e.log e.id ≠ Entry.key log id := by
    intro e he heq
    obtain ⟨-, hid⟩ := Entry.key_injective heq
    have hlt := hnewest e he
    rw [hid] at hlt
    exact Nat.lt_irrefl _ hlt
  refine ⟨hkey, fun r hr hrkey => ?_⟩
  obtain ⟨-, -, hdraft⟩ := h.guarded.writing hstage not_false
  obtain ⟨t, ht, hrows⟩ := h.rows
  obtain rfl : t = draft.table := Option.some.inj (ht.symm.trans hdraft)
  rcases hrows r hr with hr | ⟨e, he, hentry⟩
  · exact hr
  · exact absurd (hentry.key.symm.trans hrkey) (hkey e he)

end Orderly

/-! ### The events in the table -/

/-- An event in the table after a step was there before or has been committed. -/
theorem mem_eventsOf_step {s : SharedStore} (h : s.Guarded) {client : Nat} {draw : Draw}
    {t : Table} (ht : s.store.table? = some t) (hsound : t.Sound) {log : String}
    (hlog : LogName.Valid log) {e : Event} (he : e ∈ (s.step client draw).store.eventsOf log) :
    e ∈ s.store.eventsOf log ∨ e ∈ s.commits client := by
  obtain ⟨t', ht', hrows⟩ := rows_step h client draw ht
  have hsound' : t'.Sound := by
    obtain ⟨t'', ht'', hsound'⟩ := sound_step h client draw ht hsound
    obtain rfl : t' = t'' := Option.some.inj (ht'.symm.trans ht'')
    exact hsound'
  rw [Store.eventsOf_eq ht'] at he
  rw [Store.eventsOf_eq ht]
  obtain ⟨helog, r, hr, hentry⟩ := (Table.mem_eventsOf_iff hsound' hlog).1 he
  rcases hrows r hr with hr | ⟨e', he', hentry'⟩
  · exact Or.inl ((Table.mem_eventsOf_iff hsound hlog).2 ⟨helog, r, hr, hentry⟩)
  · rw [hentry.unique hentry']
    exact Or.inr he'

/-- An event that is committed is in the table. -/
theorem mem_eventsOf_of_commits {s : SharedStore} (h : s.Healthy) {client : Nat} (draw : Draw)
    {e : Event} (he : e ∈ s.commits client) : e ∈ (s.step client draw).store.eventsOf e.log := by
  rcases h.guarded.commits_cases client with
    hcommits | ⟨e', value, draft, t, hcommits, hentry, hstage, -, hdraft⟩
  · rw [hcommits] at he
    cases he
  · rw [hcommits, List.mem_singleton] at he
    subst he
    have htable : (s.step client draw).store.table? = some draft.table := by
      unfold step
      rw [hstage]
      rfl
    obtain ⟨t', ht', hsound⟩ := (healthy_step h client draw).table
    obtain rfl : draft.table = t' := Option.some.inj (htable.symm.trans ht')
    rw [Store.eventsOf_eq htable, Table.mem_eventsOf_iff hsound hentry.valid]
    refine ⟨rfl, _, ?_, hentry⟩
    rw [hdraft]
    exact Table.mem_entries_insert.2 (Or.inl rfl)

theorem Orderly.sound {start : Table} {past : List Event} {s : SharedStore}
    (h : Orderly start past s) (hstart : start.Sound) {t : Table} (ht : s.store.table? = some t) :
    t.Sound := by
  intro r hr
  obtain ⟨t', ht', hrows⟩ := h.rows
  obtain rfl : t = t' := Option.some.inj (ht.symm.trans ht')
  rcases hrows r hr with hr | ⟨e, -, he⟩
  · exact hstart r hr
  · exact ⟨e, he⟩

theorem Orderly.healthy {start : Table} {past : List Event} {s : SharedStore}
    (h : Orderly start past s) (hstart : start.Sound) : s.Healthy := by
  obtain ⟨t, ht, -⟩ := h.rows
  exact ⟨h.guarded, t, ht, h.sound hstart ht⟩

/-- An event in the table was there from the start or has been committed. -/
theorem Orderly.mem_eventsOf {start : Table} {past : List Event} {s : SharedStore}
    (h : Orderly start past s) (hstart : start.Sound) {log : String} (hlog : LogName.Valid log)
    {e : Event} (he : e ∈ s.store.eventsOf log) : e ∈ start.eventsOf log ∨ e ∈ past := by
  obtain ⟨t, ht, hrows⟩ := h.rows
  rw [Store.eventsOf_eq ht] at he
  obtain ⟨helog, r, hr, hentry⟩ := (Table.mem_eventsOf_iff (h.sound hstart ht) hlog).1 he
  rcases hrows r hr with hr | ⟨e', he', hentry'⟩
  · exact Or.inl ((Table.mem_eventsOf_iff hstart hlog).2 ⟨helog, r, hr, hentry⟩)
  · rw [hentry.unique hentry']
    exact Or.inr he'

/-! ### Runs -/

@[simp] theorem appended_nil (s : SharedStore) : s.appended [] = [] := rfl

theorem appended_cons (s : SharedStore) (client : Nat) (draw : Draw) (steps : List (Nat × Draw)) :
    s.appended ((client, draw) :: steps) =
      s.commits client ++ (s.step client draw).appended steps := rfl

theorem run_append (s : SharedStore) (steps more : List (Nat × Draw)) :
    s.run (steps ++ more) = (s.run steps).run more := List.foldl_append

theorem inRange_of_run : ∀ (steps : List (Nat × Draw)) {s : SharedStore},
    (s.run steps).store.generator.InRange → s.store.generator.InRange := by
  intro steps
  induction steps with
  | nil => intro s h; exact h
  | cons step steps ih =>
    intro s h
    exact inRange_of_step (ih h)

/-- An event in the table after a run was there before or has been committed. -/
theorem mem_eventsOf_run {log : String} (hlog : LogName.Valid log) {e : Event} :
    ∀ (steps : List (Nat × Draw)) {s : SharedStore}, s.Healthy →
      e ∈ (s.run steps).store.eventsOf log → e ∈ s.store.eventsOf log ∨ e ∈ s.appended steps := by
  intro steps
  induction steps with
  | nil => intro s _ he; exact Or.inl he
  | cons step steps ih =>
    intro s h he
    obtain ⟨client, draw⟩ := step
    obtain ⟨t, ht, hsound⟩ := h.table
    rw [appended_cons, List.mem_append]
    rcases ih (healthy_step h client draw) he with he | he
    · exact (mem_eventsOf_step h.guarded ht hsound hlog he).imp_right Or.inl
    · exact Or.inr (Or.inr he)

/-- **A run keeps the invariant.** -/
theorem orderly_run {start : Table} : ∀ (steps : List (Nat × Draw)) {past : List Event}
    {s : SharedStore}, Orderly start past s → (s.run steps).store.generator.InRange →
      Orderly start (past ++ s.appended steps) (s.run steps) := by
  intro steps
  induction steps with
  | nil =>
    intro past s h _
    rw [appended_nil, List.append_nil]
    exact h
  | cons step steps ih =>
    intro past s h hrange
    obtain ⟨client, draw⟩ := step
    have hnext := ih (orderly_step h client draw (inRange_of_run steps hrange)) hrange
    rw [appended_cons, ← List.append_assoc]
    exact hnext

end SharedStore

end Logbook
