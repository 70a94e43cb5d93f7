import Logbook.Crew

/-!
# Callers

Several clients add and remove logs at a time.  What a call does to the crew is done at one go, for one caller after
the other.  But who has removed a log goes on to wait for the worker of the log, and meanwhile others are served and
workers take their steps.

## Main definitions

* `Caller` — a client that adds or removes a log, and how far it has come.
* `Traffic` — a crew with its callers, and the store and the disk that they share.
* `Traffic.Move`, `Traffic.after`, `Traffic.run` — what callers and workers do, in any order.
* `Crew.unfinished`, `Traffic.awaited` — the workers of a log that have not come to an end, and those for which callers
  wait.
-/

namespace Logbook

/-- A client that adds or removes a log. -/
inductive Caller
  /-- It is to be served, and wants to add a log. -/
  | adding (name source : String)
  /-- It is to be served, and wants to remove a log. -/
  | removing (name : String)
  /-- It has removed a log, and waits for the worker with a number. -/
  | waiting (name : String) (number : Nat)
  /-- It has got its answer. -/
  | answered (answer : Except CollectorError Unit)

namespace Caller

/-- What a caller that is to be served does to the crew and the disk, and how it goes on. -/
def serve (caller : Caller) (trouble : Option Disk.Trouble) (crew : Crew) (d : Disk) : Caller × Crew × Disk :=
  match caller with
  | .adding name source =>
    let (answer, crew, d) := crew.add name source trouble d
    (.answered answer, crew, d)
  | .removing name =>
    match crew.remove name trouble d with
    | (.ok (some number), crew, d) => (.waiting name number, crew, d)
    | (.ok none, crew, d) => (.answered (.ok ()), crew, d)
    | (.error error, crew, d) => (.answered (.error error), crew, d)
  | caller => (caller, crew, d)

/-- A caller that waits looks whether its worker has come to an end. -/
def resume (crew : Crew) : Caller → Caller
  | .waiting name number => if crew.isBusy number then .waiting name number else .answered (.ok ())
  | caller => caller

/-- The worker of a log for which a caller waits. -/
def awaits (name : String) : Caller → Option Nat
  | .waiting log number => if log = name then some number else none
  | _ => none

end Caller

/-- The numbers of the workers of a log that have not come to an end. -/
def Crew.unfinished (c : Crew) (name : String) : List Nat :=
  (List.range c.workers.length).filter fun number =>
    match c.workers[number]? with
    | some w => decide (w.log = name) && !w.isFinished
    | none => false

/-- A crew with its callers. -/
structure Traffic where
  /-- The crew. -/
  crew : Crew
  /-- The store to which the workers append. -/
  store : Store
  /-- The disk with the sources and the state file. -/
  disk : Disk
  /-- All who have ever called, by number. -/
  callers : List Caller := []

namespace Traffic

/-- A crew that has been started, before anyone calls. -/
def start (statePath : String) (maxSize : Nat) (roster : Roster) (store : Store) (disk : Disk) : Traffic :=
  { crew := .start statePath maxSize roster, store, disk }

/-- What happens at a time. -/
inductive Move
  /-- A client calls to add a log. -/
  | add (name source : String)
  /-- A client calls to remove a log. -/
  | remove (name : String)
  /-- The caller with a number is served; an operation on the disk may fail. -/
  | serve (number : Nat) (trouble : Option Disk.Trouble)
  /-- The caller with a number looks whether its worker has come to an end. -/
  | resume (number : Nat)
  /-- The worker with a number takes a step. -/
  | work (number : Nat) (draw : Draw)
  /-- Bytes come through a pipe. -/
  | arrive (path : String) (bytes : Bytes)
  /-- Others change the store and the disk. -/
  | change (store : Store) (disk : Disk)

/-- What is after a move. -/
def after (s : Traffic) : Move → Traffic
  | .add name source => { s with callers := s.callers ++ [.adding name source] }
  | .remove name => { s with callers := s.callers ++ [.removing name] }
  | .serve number trouble =>
    match s.callers[number]? with
    | some caller =>
      let (caller, crew, disk) := caller.serve trouble s.crew s.disk
      { s with crew, disk, callers := s.callers.set number caller }
    | none => s
  | .resume number => { s with callers := s.callers.modify number (Caller.resume s.crew) }
  | .work number draw =>
    let (crew, store) := s.crew.step number s.disk s.store draw
    { s with crew, store }
  | .arrive path bytes => { s with crew := s.crew.deliver path bytes s.disk }
  | .change store disk => { s with store, disk }

/-- What is after some moves, one after another. -/
def run (s : Traffic) (moves : List Move) : Traffic := moves.foldl after s

/-- The workers of a log for which callers wait. -/
def awaited (s : Traffic) (name : String) : List Nat := s.callers.filterMap (Caller.awaits name)

end Traffic

end Logbook
