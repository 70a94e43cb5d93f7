import Logbook.Proofs.CommitOrder
import Logbook.Store.Observing

/-!
# What an observer leaves alone

Looks change nothing in a store, so what is known of the steps of its clients holds whoever looks on.

## Main results

* `Observed.shared_run` — the store goes on as if nobody looked.
-/

namespace Logbook

namespace Observed

variable {ω α : Type}

theorem appended_nil (w : Observed ω) : w.appended ([] : List (Moment α)) = [] := rfl

variable [Observer ω α]

/-- The store goes on as if nobody looked. -/
theorem shared_run : ∀ (moments : List (Moment α)) (w : Observed ω),
    (w.run moments).shared = w.shared.run (Moment.steps moments) := by
  intro moments
  induction moments with
  | nil => intro w; rfl
  | cons moment rest ih =>
    intro w
    cases moment with
    | step client draw => exact ih _
    | look aim => exact ih _

theorem appended_step (w : Observed ω) (client : Nat) (draw : Draw) (rest : List (Moment α)) :
    w.appended (.step client draw :: rest) =
      w.shared.commits client ++ (w.act (.step client draw)).appended rest := rfl

theorem appended_look (w : Observed ω) (aim : α) (rest : List (Moment α)) :
    w.appended (.look aim :: rest) = (w.act (.look aim)).appended rest := rfl

theorem run_append (w : Observed ω) (moments more : List (Moment α)) :
    w.run (moments ++ more) = (w.run moments).run more := List.foldl_append

theorem tables_cons {w : Observed ω} {t : Table} (ht : w.shared.store.table? = some t)
    (moment : Moment α) (rest : List (Moment α)) :
    w.tables (moment :: rest) = t :: (w.act moment).tables rest := by
  rw [tables, ht]
  rfl

theorem mem_tables_start {w : Observed ω} {t : Table} (ht : w.shared.store.table? = some t)
    (moments : List (Moment α)) : t ∈ w.tables moments := by
  cases moments with
  | nil =>
    rw [tables, ht]
    exact List.mem_cons_self
  | cons moment rest =>
    rw [tables_cons ht]
    exact List.mem_cons_self

theorem inRange_of_run (moments : List (Moment α)) {w : Observed ω}
    (h : (w.run moments).shared.store.generator.InRange) : w.shared.store.generator.InRange := by
  rw [shared_run] at h
  exact SharedStore.inRange_of_run _ h

end Observed

end Logbook
