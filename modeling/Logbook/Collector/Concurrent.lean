import Logbook.Collector.Command
import Logbook.Inbox

/-!
# Calls at the same time

Everything that concerns the crew of a collector goes through one inbox.  A single call finds the inbox
empty and is served at once.  Of calls that come together, as many find room as the inbox holds; these
are served in the order in which they came, and only then their callers go on, to wait for a worker or to
look into the store.

## Main definitions

* `Call` — a call that goes through the inbox.
* `Collector.concurrently` — the answers to calls that come together.
-/

namespace Logbook

/-- A call that goes through the inbox. -/
inductive Call
  /-- To add a log. -/
  | addLog (name source : String)
  /-- To remove a log. -/
  | removeLog (name : String)
  /-- To describe some logs. -/
  | describe (names : List String)
  /-- To list the logs whose workers are still reading. -/
  | activeWorkers
  deriving DecidableEq, Repr

/-- What the inbox answers to a call. -/
inductive Reply
  /-- The call is done. -/
  | done
  /-- The call is done when a worker has finished. -/
  | removed (number : Option Nat)
  /-- The logs to describe. -/
  | targets (logs : List (String × Option String))
  /-- The logs whose workers are still reading. -/
  | active (logs : List String)
  deriving DecidableEq, Repr

namespace Call

/-- Why a call does not get to the inbox, if it does not. -/
def check : Call → Except CollectorError Unit
  | .describe names => (LogName.checkAll names).mapError .ofEventError
  | _ => .ok ()

/-- What a call does to the crew and the disk. -/
def act (call : Call) (state : Crew × Disk) : Except CollectorError Reply × (Crew × Disk) :=
  let (crew, d) := state
  match call with
  | .addLog name source =>
    let (result, crew, d) := crew.add name source none d
    (result.map fun _ => .done, crew, d)
  | .removeLog name =>
    let (result, crew, d) := crew.remove name none d
    (result.map .removed, crew, d)
  | .describe names => (.ok (.targets (crew.targets names)), crew, d)
  | .activeWorkers => (.ok (.active crew.active), crew, d)

/-- A call as a request to the inbox. -/
def request (call : Call) : Request (Crew × Disk) (Except CollectorError Reply) := { act := call.act }

end Call

namespace Collector

/-- What the inbox answers, as the caller sees it. -/
def received : Outcome (Except CollectorError Reply) → Except CollectorError Reply
  | .served reply => reply
  | .refused error => .error (.inbox error)
  | .waiting => .error (.inbox .cancelled)

/-- What the caller does with the answer of the inbox. -/
def conclude (crew : Crew) (store : Store) (w : World) :
    Except CollectorError Reply → Except CollectorError Answer × Crew × Store × World
  | .error error => (.error error, crew, store, w)
  | .ok .done | .ok (.removed none) => (.ok .done, crew, store, w)
  | .ok (.removed (some number)) =>
    let (crew, store, supply) := crew.settle number w.disk store w.supply
    (.ok .done, crew, store, { w with supply })
  | .ok (.targets logs) =>
    (((describeEach store logs).mapError .store).map .described, crew, store, w)
  | .ok (.active logs) => (.ok (.active logs), crew, store, w)

/-- What the callers do with the answers of the inbox, one after another. -/
def concludeAll (crew : Crew) (store : Store) (w : World) :
    List (Except CollectorError Reply) →
      List (Except CollectorError Answer) × Crew × Store × World
  | [] => ([], crew, store, w)
  | reply :: rest =>
    let (answer, crew, store, w) := conclude crew store w reply
    let (answers, crew, store, w) := concludeAll crew store w rest
    (answer :: answers, crew, store, w)

/-- Puts the answers to those calls that got to the inbox among the errors of those that did not. -/
def weave : List (Except CollectorError Unit) → List (Except CollectorError α) →
    List (Except CollectorError α)
  | [], _ => []
  | .error error :: checks, answers => .error error :: weave checks answers
  | .ok () :: checks, answer :: answers => answer :: weave checks answers
  | .ok () :: checks, [] => .error (.inbox .cancelled) :: weave checks []

/-- The answers to calls that come together. -/
def concurrently (c : Collector) (calls : List Call) (w : World) :
    List (Except CollectorError Answer) × Collector × World :=
  match c.service with
  | .error error =>
    (calls.map fun call => do
      call.check
      throw error, c, w)
  | .ok (crew, store) =>
    let checks := calls.map Call.check
    let admitted := calls.filter fun call => call.check.isOk
    let (outcomes, crew, disk) :=
      Inbox.burst c.settings.inboxCapacity (crew, w.disk) (admitted.map Call.request)
    let (answers, crew, store, w) :=
      concludeAll crew store { w with disk } (outcomes.map received)
    (weave checks answers, { c with phase := .running crew store }, w)

end Collector

end Logbook
