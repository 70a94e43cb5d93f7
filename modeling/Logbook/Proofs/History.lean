import Logbook.Proofs.Observing

/-!
# Tables in time

From moment to moment the table changes by what is committed.  So whoever sees an event sees all that have been
committed before it, and no identifier ever belongs to two logs.

## Main definitions

* `Table.Distinct` — no identifier is in two logs.
* `Table.Kept` — nothing is removed.

## Main results

* `Observed.mem_of_newer` — whoever sees an event sees all that have been committed before it.
* `Observed.distinct_tables` — identifiers differ between logs, as one store mints them.
-/

namespace Logbook

/-- No identifier is in two of the logs, in whichever of the tables. -/
def Table.Distinct (logs : List String) (tables : List Table) : Prop :=
  ∀ log ∈ logs, ∀ log' ∈ logs, log ≠ log' → ∀ t ∈ tables, ∀ t' ∈ tables,
    ∀ e ∈ t.eventsOf log, ∀ e' ∈ t'.eventsOf log', e.id ≠ e'.id

instance (logs : List String) (tables : List Table) : Decidable (Table.Distinct logs tables) := by
  unfold Table.Distinct
  infer_instance

/-- No event of the logs is in one of the tables and no longer in a later one. -/
def Table.Kept (logs : List String) (tables : List Table) : Prop :=
  tables.Pairwise fun t t' => ∀ log ∈ logs, ∀ e ∈ t.eventsOf log, e ∈ t'.eventsOf log

instance (logs : List String) (tables : List Table) : Decidable (Table.Kept logs tables) := by
  unfold Table.Kept
  infer_instance

namespace Observed

variable {ω α : Type} [Observer ω α]

/-- The last table is the one that is there in the end. -/
theorem exists_tables_concat {t : Table} : ∀ (moments : List (Moment α)) {w : Observed ω},
    (w.run moments).shared.store.table? = some t → ∃ init, w.tables moments = init ++ [t] := by
  intro moments
  induction moments with
  | nil =>
    intro w ht
    refine ⟨[], ?_⟩
    rw [run_nil] at ht
    rw [tables, ht]
    rfl
  | cons moment rest ih =>
    intro w ht
    obtain ⟨init, hinit⟩ := ih ht
    refine ⟨w.shared.store.table?.toList ++ init, ?_⟩
    rw [tables, hinit, List.append_assoc]

/-- What is there once is there ever after. -/
theorem mem_of_kept {logs : List String} {w : Observed ω}
    {moments : List (Moment α)} (h : Table.Kept logs (w.tables moments)) {t t' : Table}
    (ht : w.shared.store.table? = some t) {log : String} (hlog : log ∈ logs) {e : Event}
    (he : e ∈ t.eventsOf log) (ht' : t' ∈ w.tables moments) : e ∈ t'.eventsOf log := by
  cases moments with
  | nil =>
    rw [tables, ht] at ht'
    rw [List.mem_singleton.1 ht']
    exact he
  | cons moment rest =>
    rw [tables_cons ht] at h ht'
    rcases List.mem_cons.1 ht' with rfl | ht'
    · exact he
    · exact (List.pairwise_cons.1 h).1 t' ht' log hlog e he

/-- **Whoever sees an event sees all that have been committed before it.** -/
theorem mem_of_newer {start : Table} (hstart : start.Sound) {logs : List String} {log : String}
    (hvalid : LogName.Valid log) {e f : Event} (helog : e.log ∈ logs)
    (hbelow : ∀ f ∈ start.eventsOf log, f.id < e.id) (hlt : e.id < f.id) {t : Table}
    (hf : f ∈ t.eventsOf log) : ∀ (moments : List (Moment α)) {past : List Event} {w : Observed ω},
      w.shared.Orderly start past → (w.run moments).shared.store.generator.InRange →
        Table.Kept logs (w.tables moments) → e ∈ w.appended moments → t ∈ w.tables moments →
          e ∈ t.eventsOf e.log := by
  intro moments
  induction moments with
  | nil =>
    intro past w _ _ _ he
    rw [appended_nil] at he
    cases he
  | cons moment rest ih =>
    intro past w h hrange hkept he ht
    obtain ⟨t₀, ht₀, -⟩ := h.rows
    rw [tables_cons ht₀] at hkept ht
    obtain ⟨-, hkept⟩ := List.pairwise_cons.1 hkept
    rcases List.mem_cons.1 ht with rfl | ht
    · -- what is there already has been committed before `e`
      have hall := SharedStore.orderly_run (Moment.steps (moment :: rest)) h (shared_run (moment :: rest) w ▸ hrange)
      rw [← Store.eventsOf_eq ht₀] at hf
      rcases h.mem_eventsOf hstart hvalid hf with hf | hf
      · exact absurd (hbelow f hf) (Nat.lt_asymm hlt)
      · exact absurd ((List.pairwise_append.1 hall.ascending).2.2 f hf e he) (Nat.lt_asymm hlt)
    · cases moment with
      | look aim => exact @ih past (w.act (.look aim)) h hrange hkept he ht
      | step client draw =>
        have hrange' := inRange_of_run rest hrange
        have hstep := SharedStore.orderly_step h client draw hrange'
        rw [appended_step, List.mem_append] at he
        rcases he with he | he
        · have hhealthy : w.shared.Healthy := ⟨h.guarded, t₀, ht₀, h.sound hstart ht₀⟩
          have hstored := SharedStore.mem_eventsOf_of_commits (h.healthy hstart) draw he
          obtain ⟨t₁, ht₁, -⟩ := hstep.rows
          rw [Store.eventsOf_eq ht₁] at hstored
          exact mem_of_kept hkept ht₁ helog hstored ht
        · exact ih hstep hrange hkept he ht

/-- The same of every event that is stored in the end, if it was there at first or is above all that was there from
the start. -/
theorem mem_of_newer_of_stored {start : Table} (hstart : start.Sound) {logs : List String}
    {log : String} (hvalid : LogName.Valid log) {e f : Event} (helog : e.log ∈ logs)
    (hevalid : LogName.Valid e.log) {w : Observed ω} {moments : List (Moment α)}
    {past : List Event} (horderly : w.shared.Orderly start past)
    (hrange : (w.run moments).shared.store.generator.InRange)
    (hkept : Table.Kept logs (w.tables moments))
    (hstored : e ∈ (w.run moments).shared.store.eventsOf e.log)
    (hnew : e ∈ w.shared.store.eventsOf e.log ∨ ∀ f ∈ start.eventsOf log, f.id < e.id)
    {t : Table} (ht : t ∈ w.tables moments) (hf : f ∈ t.eventsOf log) (hlt : e.id < f.id) :
    e ∈ t.eventsOf e.log := by
  have hhealthy := horderly.healthy hstart
  obtain ⟨t₀, ht₀, -⟩ := hhealthy.table
  have hfirst (hthere : e ∈ w.shared.store.eventsOf e.log) : e ∈ t.eventsOf e.log := by
    rw [Store.eventsOf_eq ht₀] at hthere
    exact mem_of_kept hkept ht₀ helog hthere ht
  rcases hnew with hthere | hbelow
  · exact hfirst hthere
  · rw [shared_run] at hstored
    rcases SharedStore.mem_eventsOf_run hevalid _ hhealthy hstored with hthere | happended
    · exact hfirst hthere
    · exact mem_of_newer hstart hvalid helog hbelow hlt hf moments horderly hrange hkept happended ht

/-- An event that is seen was there from the start or is committed at some time. -/
theorem known_of_mem_tables {start : Table} (hstart : start.Sound) {log : String}
    (hvalid : LogName.Valid log) {t : Table} {e : Event} (he : e ∈ t.eventsOf log) :
    ∀ (moments : List (Moment α)) {past : List Event} {w : Observed ω},
      w.shared.Orderly start past → (w.run moments).shared.store.generator.InRange →
        t ∈ w.tables moments →
          e.log = log ∧ (e ∈ start.eventsOf log ∨ e ∈ past ++ w.appended moments) := by
  have hhere {past : List Event} {w : Observed ω} (h : w.shared.Orderly start past)
      (ht : w.shared.store.table? = some t) :
      e.log = log ∧ (e ∈ start.eventsOf log ∨ e ∈ past) := by
    refine ⟨Table.log_of_mem_eventsOf (h.sound hstart ht) hvalid he, h.mem_eventsOf hstart hvalid ?_⟩
    rw [Store.eventsOf_eq ht]
    exact he
  intro moments
  induction moments with
  | nil =>
    intro past w h _ ht
    obtain ⟨t₀, ht₀, -⟩ := h.rows
    rw [tables, ht₀] at ht
    rw [← List.mem_singleton.1 ht] at ht₀
    rw [appended_nil, List.append_nil]
    exact hhere h ht₀
  | cons moment rest ih =>
    intro past w h hrange ht
    obtain ⟨t₀, ht₀, -⟩ := h.rows
    rw [tables_cons ht₀] at ht
    rcases List.mem_cons.1 ht with rfl | ht
    · obtain ⟨helog, hknown⟩ := hhere h ht₀
      exact ⟨helog, hknown.imp_right (List.mem_append_left _)⟩
    · cases moment with
      | look aim => exact @ih past (w.act (.look aim)) h hrange ht
      | step client draw =>
        have hstep := SharedStore.orderly_step h client draw (inRange_of_run rest hrange)
        have hrest := ih hstep hrange ht
        rw [List.append_assoc] at hrest
        exact hrest

/-- **Identifiers differ between logs**, where they did from the start and none of them is minted again. -/
theorem distinct_tables {start : Table} (hstart : start.Sound) {logs : List String}
    (hvalid : ∀ log ∈ logs, LogName.Valid log) {moments : List (Moment α)} {past : List Event}
    {w : Observed ω} (h : w.shared.Orderly start past)
    (hrange : (w.run moments).shared.store.generator.InRange) (hold : Table.Distinct logs [start])
    (hnew : ∀ e ∈ past ++ w.appended moments, ∀ log ∈ logs, ∀ f ∈ start.eventsOf log, e.id ≠ f.id) :
    Table.Distinct logs (w.tables moments) := by
  intro log hlog log' hlog' hne t ht t' ht' e he e' he'
  obtain ⟨helog, hknown⟩ := known_of_mem_tables hstart (hvalid log hlog) he moments h hrange ht
  obtain ⟨helog', hknown'⟩ := known_of_mem_tables hstart (hvalid log' hlog') he' moments h hrange ht'
  rcases hknown with hfirst | hminted
  · rcases hknown' with hfirst' | hminted'
    · exact hold log hlog log' hlog' hne start List.mem_cons_self start List.mem_cons_self e hfirst e' hfirst'
    · exact (hnew e' hminted' log hlog e hfirst).symm
  · rcases hknown' with hfirst' | hminted'
    · exact hnew e hminted log' hlog' e' hfirst'
    · -- both have been committed, so they are the same event where the identifiers are
      rw [shared_run] at hrange
      have hascending := (SharedStore.orderly_run _ h hrange).ascending
      rcases rel_or_eq_or_rel hascending hminted hminted' with hlt | rfl | hlt
      · exact fun heq => Nat.ne_of_lt hlt (congrArg EventId.value heq)
      · exact absurd (helog.symm.trans helog') hne
      · exact fun heq => Nat.ne_of_gt hlt (congrArg EventId.value heq)

/-- Where a store was empty when it was opened, nothing can be in two logs. -/
theorem distinct_tables_of_empty {s : SharedStore} (hfresh : s.Fresh .empty) {logs : List String}
    (hvalid : ∀ log ∈ logs, LogName.Valid log) (before : List (Nat × Draw)) (observer : ω)
    (moments : List (Moment α))
    (hrange : ((⟨s.run before, observer⟩ : Observed ω).run moments).shared.store.generator.InRange) :
    Table.Distinct logs ((⟨s.run before, observer⟩ : Observed ω).tables moments) := by
  have horderly := SharedStore.orderly_run before hfresh.orderly (inRange_of_run moments hrange)
  refine distinct_tables Table.sound_empty hvalid horderly hrange ?_ ?_
  · intro log _ log' _ _ t ht _ _ e he
    rw [List.mem_singleton.1 ht, Table.eventsOf_empty] at he
    cases he
  · intro _ _ log _ f hf
    rw [Table.eventsOf_empty] at hf
    cases hf

end Observed

end Logbook
