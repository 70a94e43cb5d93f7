import Logbook.Crew
import Logbook.Inbox
import Logbook.Page
import Logbook.Settings.Collector

/-!
# The collector

A collector fills logs from their sources and answers questions about their events.  It is started and
stopped, and may be started again; what it knows about its logs survives in the state file and their
events in the store.

A call that finds its arguments unacceptable fails before it does anything.

A start can fail where the home folder is made, the roster loaded or the store opened, before there are
any workers.  The inbox is made last, when the workers have begun.  If there can be no inbox of the
capacity that is set, the start breaks off and the workers go on, although the collector does not run.

## Main definitions

* `Collector` — the settings of a collector, whether it runs, and what a start may have left behind.
* `World` — what surrounds a collector: the disk and what is drawn for identifiers.
* `Collector.start`, `Collector.stop` — from one state to another.
* `Collector.leave` — workers that go on although the collector does not run.
* `Collector.addLog`, `Collector.withdraw`, `Collector.removeLog`, `Collector.describe`,
  `Collector.activeWorkers` — about logs.
* `Collector.addEvent`, `Collector.getEvents`, `Collector.clear`, `Collector.evict` — about events.
-/

namespace Logbook

/-- What a collector is doing. -/
inductive Phase
  /-- It has never run. -/
  | idle
  /-- It runs, with a crew and a store. -/
  | running (crew : Crew) (store : Store)
  /-- It has been stopped. -/
  | stopped
  deriving DecidableEq

/-- A collector. -/
structure Collector where
  /-- Its settings. -/
  settings : CollectorSettings
  /-- What it is doing. -/
  phase : Phase := .idle
  /-- The workers that a start left behind when it broke off, and the store that they keep open. -/
  strays : Option (Crew × Store) := none
  deriving DecidableEq

/-- What surrounds a collector. -/
structure World where
  /-- The disk. -/
  disk : Disk
  /-- What is drawn for identifiers. -/
  supply : Supply

namespace Collector

/-- Whether the collector runs. -/
def isStarted (c : Collector) : Bool :=
  match c.phase with
  | .running _ _ => true
  | _ => false

/-- The crew and the store of a collector that runs. -/
def service (c : Collector) : Except CollectorError (Crew × Store) :=
  match c.phase with
  | .running crew store => .ok (crew, store)
  | _ => .error .notStarted

/-! ### Starting and stopping -/

/-- Loads the roster and opens the store. -/
def loadAndOpen (s : CollectorSettings) (d : Disk) : Except CollectorError (Roster × Store) × Disk :=
  match StateFile.load s.statePath d with
  | .error error => (.error error, d)
  | .ok roster => match Store.open s.store d with
    | (.error error, d) => (.error (.store error), d)
    | (.ok store, d) => (.ok (roster, store), d)

/-- Makes the home folder, loads the roster and opens the store.  Trouble may come to any of the three
steps. -/
def prepare (s : CollectorSettings) (trouble : Option Disk.Trouble) (d : Disk) :
    Except CollectorError (Roster × Store) × Disk :=
  match d.performAll trouble [.makeFolders s.home] with
  | (.error error, d) => (.error (.io error.message), d)
  | (.ok (), d) => match trouble with
    | some ⟨1, _, reason⟩ => (.error (.io reason), d)
    | some ⟨2, _, reason⟩ => (.error (.store (.database reason)), d)
    | _ => loadAndOpen s d

/-- Leaves workers behind.  They keep their store open until the last of them has finished. -/
def leave (c : Collector) (crew : Crew) (store : Store) (w : World) : Collector × World :=
  if crew.workers.all Worker.isFinished then
    ({ c with strays := none }, { w with disk := (store.close w.disk).2 })
  else ({ c with strays := some (crew, store) }, w)

/-- Starts a collector, with a new worker for each of its logs.  The workers have begun when the inbox is made.  None
are left of an earlier start then, for they would have the database open. -/
def start (c : Collector) (trouble : Option Disk.Trouble) (w : World) :
    Except CollectorError Unit × Collector × World :=
  if c.isStarted then (.error .alreadyStarted, c, w)
  else match prepare c.settings trouble w.disk with
    | (.error error, disk) => (.error error, c, { w with disk })
    | (.ok (roster, store), disk) =>
      let crew := Crew.start c.settings.statePath c.settings.maxMessageSize roster
      if c.settings.inboxCapacity ≤ Inbox.largestCapacity then
        (.ok (), { c with phase := .running crew store }, { w with disk })
      else
        (.error (.broken s!"a semaphore may not have more than MAX_PERMITS permits ({Inbox.largestCapacity})"),
          c.leave crew store { w with disk })

/-- Stops a collector that runs: all workers finish, and then the store is closed. -/
def stop (c : Collector) (w : World) : Collector × World :=
  match c.phase with
  | .running crew store =>
    let (_, store, supply) := crew.dismissAll.settleAll w.disk store w.supply
    let (_, disk) := store.close w.disk
    ({ c with phase := .stopped }, { disk, supply })
  | _ => (c, w)

/-- Lets all workers of a collector take their steps until they wait or have finished. -/
def settle (c : Collector) (w : World) : Collector × World :=
  match c.phase, c.strays with
  | .running crew store, _ =>
    let (crew, store, supply) := crew.settleAll w.disk store w.supply
    ({ c with phase := .running crew store }, { w with supply })
  | _, some (crew, store) =>
    let (crew, store, supply) := crew.settleAll w.disk store w.supply
    c.leave crew store { w with supply }
  | _, none => (c, w)

/-- Bytes that come through a pipe to the workers that read it. -/
def deliver (c : Collector) (path : String) (bytes : Bytes) (d : Disk) : Collector :=
  match c.phase with
  | .running crew store => { c with phase := .running (crew.deliver path bytes d) store }
  | _ => { c with strays := c.strays.map fun (crew, store) => (crew.deliver path bytes d, store) }

/-! ### Logs -/

/-- Adds a log and starts to fill it from a source. -/
def addLog (c : Collector) (name source : String) (trouble : Option Disk.Trouble) (w : World) :
    Except CollectorError Unit × Collector × World :=
  match c.service with
  | .error error => (.error error, c, w)
  | .ok (crew, store) =>
    let (result, crew, disk) := crew.add name source trouble w.disk
    (result, { c with phase := .running crew store }, { w with disk })

/-- Takes a log off the roster and tells its worker to stop.  The answer is the number of the worker, which
has yet to finish. -/
def withdraw (c : Collector) (name : String) (trouble : Option Disk.Trouble) (w : World) :
    Except CollectorError (Option Nat) × Collector × World :=
  match c.service with
  | .error error => (.error error, c, w)
  | .ok (crew, store) =>
    let (result, crew, disk) := crew.remove name trouble w.disk
    (result, { c with phase := .running crew store }, { w with disk })

/-- Lets a worker of a collector take its steps until it waits or has finished. -/
def settleOne (c : Collector) (number : Nat) (w : World) : Collector × World :=
  match c.phase with
  | .running crew store =>
    let (crew, store, supply) := crew.settle number w.disk store w.supply
    ({ c with phase := .running crew store }, { w with supply })
  | _ => (c, w)

/-- Removes a log and waits until its worker has finished; its events stay. -/
def removeLog (c : Collector) (name : String) (trouble : Option Disk.Trouble) (w : World) :
    Except CollectorError Unit × Collector × World :=
  match c.withdraw name trouble w with
  | (.error error, c, w) => (.error error, c, w)
  | (.ok none, c, w) => (.ok (), c, w)
  | (.ok (some number), c, w) =>
    let (c, w) := c.settleOne number w
    (.ok (), c, w)

/-- Describes some logs with their sources. -/
def describeEach (store : Store) :
    List (String × Option String) → Except StoreError (List LogDescription)
  | [] => .ok []
  | (name, source) :: rest => do
    let last ← store.lastEvent name
    let more ← describeEach store rest
    return { name, source, lastEventAt := last.map (·.timestamp) } :: more

/-- Describes some logs; without names, all that are registered. -/
def describe (c : Collector) (names : List String) : Except CollectorError (List LogDescription) := do
  (LogName.checkAll names).mapError .ofEventError
  let (crew, store) ← c.service
  (describeEach store (crew.targets names)).mapError .store

/-- The logs whose workers are still reading. -/
def activeWorkers (c : Collector) : Except CollectorError (List String) := do
  let (crew, _) ← c.service
  return crew.active

/-! ### Events -/

/-- Why an event cannot be added, if it cannot. -/
def checkEvent (log : String) (timestamp : Instant) : Except CollectorError Unit := do
  (LogName.check log).mapError .ofEventError
  if timestamp.nanos? = none then throw (.invalidTimestamp timestamp.shown)

/-- Adds an event to a log, with its message cut to the greatest size. -/
def addEvent (c : Collector) (log : String) (timestamp : Instant) (message : Bytes) (w : World) :
    Except CollectorError EventId × Collector × World :=
  match checkEvent log timestamp, c.service with
  | .error error, _ => (.error error, c, w)
  | .ok (), .error error => (.error error, c, w)
  | .ok (), .ok (crew, store) =>
    let (result, store) :=
      store.add log timestamp (truncate c.settings.maxMessageSize message) w.supply.head
    (result.mapError .store, { c with phase := .running crew store },
      { w with supply := w.supply.tail })

/-- What a request asks for, once it has been checked. -/
structure Search where
  /-- The place to go on from. -/
  cursor : Option Cursor
  /-- The greatest number of events. -/
  limit : Nat
  /-- The names of the logs. -/
  logs : List String
  /-- A text that the messages have to hold. -/
  filter : Option String
  deriving DecidableEq

/-- The greatest number of events that a request asks for, if it may. -/
def checkLimit (s : CollectorSettings) (limit : Option UInt64) : Except CollectorError Nat :=
  let limit := (limit.map UInt64.toNat).getD s.defaultLimit
  if limit = 0 ∨ s.maxLimit < limit then .error (.invalidLimit limit s.maxLimit) else .ok limit

/-- The cursor of a request; an empty text is none. -/
def checkCursor : Option String → Except CollectorError (Option Cursor)
  | none => .ok none
  | some text =>
    if text = "" then .ok none
    else match Cursor.parse text with
      | .ok cursor => .ok (some cursor)
      | .error fault => .error (.ofEventError (.invalidCursor fault.message))

/-- Checks a request: first the limit, then the cursor, then the names. -/
def checkRequest (s : CollectorSettings) (r : PageRequest) : Except CollectorError Search := do
  let limit ← checkLimit s r.limit
  let cursor ← checkCursor r.cursor
  (LogName.checkAll r.logs).mapError .ofEventError
  return { cursor, limit, logs := r.logs, filter := r.filter }

/-- The page that answers a request. -/
def getEvents (c : Collector) (r : PageRequest) : Except CollectorError Page := do
  let search ← checkRequest c.settings r
  let (crew, store) ← c.service
  let t ← store.table.mapError .store
  (Page.read (fun _ => t) (crew.pageLogs search.logs) search.cursor search.limit
    search.filter).mapError .store

/-- Changes the store of a collector that runs. -/
def changeStore (c : Collector) (change : Store → Except StoreError α × Store) :
    Except CollectorError α × Collector :=
  match c.service with
  | .error error => (.error error, c)
  | .ok (crew, store) =>
    let (result, store) := change store
    (result.mapError .store, { c with phase := .running crew store })

/-- Removes all events of some logs, and counts them. -/
def clear (c : Collector) (logs : List String) : Except CollectorError Nat × Collector :=
  match LogName.checkAll logs with
  | .error error => (.error (.ofEventError error), c)
  | .ok () => c.changeStore fun store => store.clearEach logs

/-- Removes the events of all logs that are too many, and counts them. -/
def evict (c : Collector) : Except CollectorError Nat × Collector := c.changeStore Store.evictAll

end Collector

end Logbook
