import Logbook.StateFile
import Logbook.Worker

/-!
# The crew

A running collector keeps a roster of its logs, in memory and in the state file, and a worker for each of
them.  A log is added or removed by saving the new roster first; only when that has succeeded the roster
changes and a worker is started or cancelled.

A worker that has been cancelled may still be at its last append.  It has a number then, but no log holds
it any more.

## Main definitions

* `Crew` — the roster, the workers and which worker fills which log.
* `Crew.start`, `Crew.add`, `Crew.remove` — what changes a crew.
* `Crew.targets`, `Crew.pageLogs`, `Crew.active` — what can be asked about one.
-/

namespace Logbook

/-- The logs of a running collector and the workers that fill them. -/
structure Crew where
  /-- The path of the state file. -/
  statePath : String
  /-- The greatest size of a message. -/
  maxSize : Nat
  /-- The registered logs. -/
  roster : Roster
  /-- The number of the worker that fills a log. -/
  holders : SortedMap String Nat := .empty
  /-- All workers that were ever started, by number. -/
  workers : List Worker := []
  deriving DecidableEq

namespace Crew

/-- Starts a worker for a log. -/
def hire (c : Crew) (log source : String) : Crew :=
  { c with
    holders := c.holders.insert log c.workers.length
    workers := c.workers ++ [.new log source c.maxSize] }

/-- Starts a worker for each of some logs. -/
def hireAll (c : Crew) (logs : List (String × Feed)) : Crew :=
  logs.foldl (fun c log => c.hire log.1 log.2.source) c

/-- The crew of a roster, with a new worker for each log. -/
def start (statePath : String) (maxSize : Nat) (roster : Roster) : Crew :=
  hireAll { statePath, maxSize, roster } roster.entries

/-- Tells a worker to stop. -/
def dismiss (c : Crew) (number : Nat) : Crew :=
  { c with workers := c.workers.modify number Worker.cancel }

/-- Tells all workers to stop. -/
def dismissAll (c : Crew) : Crew := { c with workers := c.workers.map Worker.cancel }

/-! ### Changes -/

/-- Why a log cannot be added, if it cannot. -/
def objection (c : Crew) (name source : String) : Option CollectorError :=
  if ¬ LogName.Valid name then some (.invalidLogName name)
  else if source = "" then some (.missingSource name)
  else if c.roster.contains name then some (.duplicateLog name)
  else none

/-- Adds a log and starts its worker. -/
def add (c : Crew) (name source : String) (trouble : Option Disk.Trouble) (d : Disk) :
    Except CollectorError Unit × Crew × Disk :=
  match c.objection name source with
  | some error => (.error error, c, d)
  | none =>
    let roster := c.roster.insert name ⟨source⟩
    match StateFile.save c.statePath roster trouble d with
    | (.error error, d) => (.error error, c, d)
    | (.ok (), d) => (.ok (), { c with roster }.hire name source, d)

/-- Removes a log and tells its worker to stop.  The answer is the number of the worker, which has yet to
finish; a log that is not there is removed already. -/
def remove (c : Crew) (name : String) (trouble : Option Disk.Trouble) (d : Disk) :
    Except CollectorError (Option Nat) × Crew × Disk :=
  match c.roster.find? name with
  | none => (.ok none, c, d)
  | some _ =>
    let roster := c.roster.erase name
    match StateFile.save c.statePath roster trouble d with
    | (.error error, d) => (.error error, c, d)
    | (.ok (), d) =>
      let freed := { c with roster, holders := c.holders.erase name }
      match c.holders.find? name with
      | some number => (.ok (some number), freed.dismiss number, d)
      | none => (.ok none, freed, d)

/-! ### Questions -/

/-- Some logs with their sources, where they have one; without names, all logs. -/
def targets (c : Crew) (names : List String) : List (String × Option String) :=
  match names with
  | [] => c.roster.entries.map fun e => (e.1, some e.2.source)
  | _ => names.map fun name => (name, (c.roster.find? name).map (·.source))

/-- The logs that a page is made of, each once and in ascending order; without names, all logs. -/
def pageLogs (c : Crew) (names : List String) : List String :=
  match names with
  | [] => c.roster.keys
  | _ => (SortedMap.ofEntries (names.map fun name => (name, ()))).keys

/-- Whether the worker with a number has not come to an end. -/
def isBusy (c : Crew) (number : Nat) : Bool :=
  match c.workers[number]? with
  | some w => !w.isFinished
  | none => false

/-- The logs whose workers are still reading. -/
def active (c : Crew) : List String := (c.holders.entries.filter fun e => c.isBusy e.2).map (·.1)

/-! ### The workers' steps -/

/-- One step of a worker, if it takes one. -/
def step (c : Crew) (number : Nat) (d : Disk) (store : Store) (draw : Draw) : Crew × Store :=
  match c.workers[number]? with
  | some w => match w.step d store draw with
    | some (w, store) => ({ c with workers := c.workers.set number w }, store)
    | none => (c, store)
  | none => (c, store)

/-- Lets a worker take its steps until it waits or has finished. -/
def settle (c : Crew) (number : Nat) (d : Disk) (store : Store) (supply : Supply) :
    Crew × Store × Supply :=
  match c.workers[number]? with
  | some w =>
    let (w, store, supply) := w.settle d store supply
    ({ c with workers := c.workers.set number w }, store, supply)
  | none => (c, store, supply)

/-- Lets all workers take their steps until they wait or have finished. -/
def settleAll (c : Crew) (d : Disk) (store : Store) (supply : Supply) : Crew × Store × Supply :=
  let (workers, store, supply) := Worker.settleAll d store supply c.workers
  ({ c with workers }, store, supply)

/-- Bytes that come through a pipe.  They go to the workers that read it. -/
def deliver (c : Crew) (path : String) (bytes : Bytes) (d : Disk) : Crew :=
  match d.locate path with
  | .error _ => c
  | .ok location =>
    { c with workers := c.workers.map fun w =>
        match d.locate w.source with
        | .ok l => if l = location then w.deliver bytes else w
        | .error _ => w }

end Crew

end Logbook
