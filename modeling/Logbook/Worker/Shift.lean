import Logbook.Worker

/-!
# A worker at work

A worker takes its steps while others use the store to which it appends, and at any time it may be told to stop.  What
it has appended is read back from the store, under the identifiers that the store has answered.

## Main definitions

* `Shift` — a worker and the store to which it appends.
* `Shift.Move`, `Shift.after`, `Shift.run` — what the worker and the others do, in any order.
* `Shift.appended`, `Shift.refused` — the events that the worker appends, and whether an append fails.
-/

namespace Logbook

/-- The event that stands in a log under an identifier. -/
def Store.event? (s : Store) (log : String) (id : EventId) : Option Event := do
  let t ← s.table?
  let value ← t.find? (Entry.key log id)
  (Entry.decode (Entry.key log id) value).toOption

/-- A worker and the store to which it appends. -/
structure Shift where
  /-- The worker. -/
  worker : Worker
  /-- The store. -/
  store : Store

namespace Shift

/-- A worker that has not begun. -/
def start (log source : String) (maxSize : Nat) (store : Store) : Shift := ⟨.new log source maxSize, store⟩

/-- What happens at a time. -/
inductive Move
  /-- The worker takes a step, on the disk and with the draw of that moment. -/
  | work (disk : Disk) (draw : Draw)
  /-- The worker is told to stop. -/
  | cancel
  /-- Others change the store. -/
  | change (store : Store)

/-- Whether the worker takes a step. -/
def Move.isWork : Move → Bool
  | .work _ _ => true
  | _ => false

/-- What is after a move.  A worker that waits or has come to an end stays as it is. -/
def after (s : Shift) : Move → Shift
  | .work disk draw =>
    match s.worker.step disk s.store draw with
    | some (worker, store) => { worker, store }
    | none => s
  | .cancel => { s with worker := s.worker.cancel }
  | .change store => { s with store }

/-- What is after some moves, one after another. -/
def run (s : Shift) (moves : List Move) : Shift := moves.foldl after s

/-- What the store answers to the append that is made in a move. -/
def answer? (s : Shift) : Move → Option (Except StoreError EventId)
  | .work _ draw =>
    match s.worker.progress with
    | .appending line _ => some (s.store.add s.worker.log draw.now line.bytes draw).1
    | _ => none
  | _ => none

/-- The event that is appended in a move, as it stands in the store afterwards. -/
def appends (s : Shift) (move : Move) : List Event :=
  match s.answer? move with
  | some (.ok id) => ((s.after move).store.event? s.worker.log id).toList
  | _ => []

/-- Whether the store refuses the append that is made in a move. -/
def refuses (s : Shift) (move : Move) : Bool :=
  match s.answer? move with
  | some (.error _) => true
  | _ => false

/-- The events that the worker appends in some moves, in the order in which it does. -/
def appended (s : Shift) : List Move → List Event
  | [] => []
  | move :: rest => s.appends move ++ (s.after move).appended rest

/-- Whether an append fails in some moves. -/
def refused (s : Shift) : List Move → Bool
  | [] => false
  | move :: rest => s.refuses move || (s.after move).refused rest

@[simp] theorem run_nil (s : Shift) : s.run [] = s := rfl

@[simp] theorem run_cons (s : Shift) (move : Move) (rest : List Move) :
    s.run (move :: rest) = (s.after move).run rest := rfl

@[simp] theorem appended_nil (s : Shift) : s.appended [] = [] := rfl

@[simp] theorem appended_cons (s : Shift) (move : Move) (rest : List Move) :
    s.appended (move :: rest) = s.appends move ++ (s.after move).appended rest := rfl

@[simp] theorem refused_nil (s : Shift) : s.refused [] = false := rfl

@[simp] theorem refused_cons (s : Shift) (move : Move) (rest : List Move) :
    s.refused (move :: rest) = (s.refuses move || (s.after move).refused rest) := rfl

end Shift

end Logbook
