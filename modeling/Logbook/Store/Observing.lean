import Logbook.Store.Sharing

/-!
# Looking at a store at work

Someone looks at a store again and again while its clients are at work.  Each look sees the table as it was last
committed, and looks and steps of clients come in any order.

## Main definitions

* `Observer` — someone who looks at a store, and what comes of a look.
* `Moment` — a step of a client or a look.
* `Observed` — a shared store and an observer.
* `Observed.run` — moments one after another.
* `Observed.appended`, `Observed.tables` — what is committed meanwhile.
-/

namespace Logbook

/-- Someone who looks at a store.  Each look may have something in mind. -/
class Observer (ω : Type) (α : outParam Type) where
  /-- What has become of the observer after a look. -/
  look : ω → Store → α → ω

/-- What happens next to a store and an observer. -/
inductive Moment (α : Type)
  /-- A client takes a step. -/
  | step (client : Nat) (draw : Draw)
  /-- The observer looks at the store. -/
  | look (aim : α)

namespace Moment

variable {α : Type}

/-- The steps of the clients. -/
def steps : List (Moment α) → List (Nat × Draw)
  | [] => []
  | .step client draw :: rest => (client, draw) :: steps rest
  | .look _ :: rest => steps rest

/-- What the observer has in mind, look by look. -/
def aims : List (Moment α) → List α
  | [] => []
  | .step _ _ :: rest => aims rest
  | .look aim :: rest => aim :: aims rest

end Moment

/-- A shared store and an observer. -/
structure Observed (ω : Type) where
  /-- The store and its clients. -/
  shared : SharedStore
  /-- The observer. -/
  observer : ω

namespace Observed

variable {ω α : Type} [Observer ω α]

/-- What happens in a moment. -/
def act (w : Observed ω) : Moment α → Observed ω
  | .step client draw => { w with shared := w.shared.step client draw }
  | .look aim => { w with observer := Observer.look w.observer w.shared.store aim }

/-- What happens in moments one after another. -/
def run (w : Observed ω) (moments : List (Moment α)) : Observed ω := moments.foldl act w

/-- The events that are committed meanwhile. -/
def appended (w : Observed ω) (moments : List (Moment α)) : List Event :=
  w.shared.appended (Moment.steps moments)

/-- The tables that are committed, as they stand from moment to moment. -/
def tables (w : Observed ω) : List (Moment α) → List Table
  | [] => w.shared.store.table?.toList
  | moment :: rest => w.shared.store.table?.toList ++ (w.act moment).tables rest

@[simp] theorem run_nil (w : Observed ω) : w.run [] = w := rfl

@[simp] theorem run_cons (w : Observed ω) (moment : Moment α) (rest : List (Moment α)) :
    w.run (moment :: rest) = (w.act moment).run rest := rfl

end Observed

end Logbook
