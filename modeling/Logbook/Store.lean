import Logbook.Disk
import Logbook.EventId.Generator
import Logbook.LogName
import Logbook.Settings.Store

/-!
# The store

A store keeps the events of all logs in one table and mints their identifiers.  It takes the table of
its database off the disk when it is opened and puts it back when it is closed; in between nobody else
can open the database.

Changes are made by write transactions, of which at most one is open at a time: a transaction starts
from the table as it stands, changes a draft of it, and replaces the table when it is committed.  The
identifier of a new event is minted inside the transaction, so events are committed in the order of
their identifiers.

## Main definitions

* `Store.open`, `Store.close` — the database taken off the disk, and put back.
* `Store.begin`, `Store.mint`, `Draft.insert`, `Store.commit` — the steps of an append.
* `Store.add` — an append.
* `Store.read`, `Store.lastEvent`, `Store.lastCursor`, `Store.count`, `Store.logNames` — reads.
* `Store.trim`, `Store.evict`, `Store.evictAll`, `Store.clear` — removal of events.
-/

namespace Logbook

/-- A store of events. -/
structure Store where
  /-- Where the database lies and how it is kept. -/
  settings : StoreSettings
  /-- The source of identifiers. -/
  generator : Generator := .new
  /-- The table, until the store is closed. -/
  table? : Option Table
  deriving DecidableEq

/-- A table in the hands of a write transaction. -/
structure Draft where
  /-- The table as it will be after the transaction. -/
  table : Table
  deriving DecidableEq

namespace Store

/-! ### The database -/

/-- Whether the store has not been closed. -/
def isOpen (s : Store) : Bool := s.table?.isSome

/-- The table that a store takes off a location of the disk, and the disk without it.  A database that is
missing, or a file without content, starts as an empty table. -/
def takeTable (location : List String) (d : Disk) : Except StoreError (Table × Disk) :=
  match d.node? location with
  | some (.database (some t)) => .ok (t, d.put location (.database none))
  | some (.database none) => .error (.database "Database already open. Cannot acquire lock.")
  | some (.file []) | none => .ok (.empty, d.put location (.database none))
  | some _ => .error (.database "Not a database")

/-- The table that a store takes off the disk where a path leads, and the disk without it. -/
def acquire (path : String) (d : Disk) : Except StoreError (Table × Disk) :=
  match d.locate path with
  | .ok location =>
    if Path.asksForFolder path then .error (.database "Not a database") else takeTable location d
  | .error error => .error (.database error.message)

/-- Opens a store, with the folders that its database needs. -/
def «open» (settings : StoreSettings) (d : Disk) : Except StoreError Store × Disk :=
  match d.perform (.makeFolders (Path.parent settings.path)) with
  | (.error error, d) => (.error (.io error.message), d)
  | (.ok (), d) => match acquire settings.path d with
    | .ok (t, d) => (.ok { settings, table? := some t }, d)
    | .error error => (.error error, d)

/-- Closes a store; closing it again changes nothing. -/
def close (s : Store) (d : Disk) : Store × Disk :=
  match s.table? with
  | some t => ({ s with table? := none }, d.place s.settings.path (.database (some t)))
  | none => (s, d)

/-- The table, as long as the store is open. -/
def table (s : Store) : Except StoreError Table :=
  match s.table? with
  | some t => .ok t
  | none => .error .closed

/-- How the store is shown in diagnostics. -/
def shown (s : Store) : String :=
  "Store \x7b db_path: " ++ Quoted.string s.settings.path ++
    ", open: " ++ (if s.isOpen then "true" else "false") ++ " \x7d"

/-! ### Write transactions -/

/-- Opens a write transaction. -/
def begin (s : Store) : Except StoreError Draft := do
  let t ← s.table
  return ⟨t⟩

/-- Mints an identifier. -/
def mint (s : Store) (draw : Draw) : Except StoreError EventId × Store :=
  let (result, g) := s.generator.next draw.now.millis draw.entropy
  (result.mapError .event, { s with generator := g })

/-- Puts a draft in the place of the table. -/
def commit (s : Store) (d : Draft) : Store := { s with table? := some d.table }

end Store

namespace Draft

/-- Adds a row. -/
def insert (d : Draft) (key value : Bytes) : Draft := ⟨d.table.insert key value⟩

/-- Removes the events of a log but for the newest `keep`, and counts them. -/
def trim (d : Draft) (log : String) (keep : Nat) : Draft × Nat :=
  let (t, removed) := d.table.trim log keep
  (⟨t⟩, removed)

end Draft

namespace Store

/-! ### Appending -/

/-- The value of a new event of a log, if it can be stored. -/
def valueOf (log : String) (timestamp : Instant) (message : Bytes) : Except StoreError Bytes := do
  (LogName.check log).mapError .event
  Entry.value timestamp message

/-- Adds an event to a log.  The identifier is minted with what the world supplies at that moment. -/
def add (s : Store) (log : String) (timestamp : Instant) (message : Bytes) (draw : Draw) :
    Except StoreError EventId × Store :=
  match valueOf log timestamp message, s.begin with
  | .error error, _ => (.error error, s)
  | .ok _, .error error => (.error error, s)
  | .ok value, .ok draft => match s.mint draw with
    | (.error error, s) => (.error error, s)
    | (.ok id, s) => (.ok id, s.commit (draft.insert (Entry.key log id) value))

/-! ### Reading -/

/-- The events of a log that answer a query, in ascending order; a query for none is answered even by
a store that has been closed. -/
def read (s : Store) (log : String) (q : Query) : Except StoreError (List Event) :=
  if q.limit = 0 then .ok [] else do
    let t ← s.table
    t.read log q

/-- The newest event of a log. -/
def lastEvent (s : Store) (log : String) : Except StoreError (Option Event) := do
  let t ← s.table
  t.lastEvent? log

/-- The cursor from which only later events than the newest of a log are read. -/
def lastCursor (s : Store) (log : String) : Except StoreError (Option Cursor) := do
  let e ← s.lastEvent log
  return e.map Event.after

/-- The number of rows of a log. -/
def count (s : Store) (log : String) : Except StoreError Nat := do
  let t ← s.table
  return t.count log

/-- The names of the logs that own a row. -/
def logNames (s : Store) : Except StoreError (List String) := do
  let t ← s.table
  t.logNames

/-! ### Removal -/

/-- Removes, in one transaction, the events of a log but for the newest `keep`, and counts them. -/
def trim (s : Store) (log : String) (keep : Nat) : Except StoreError Nat × Store :=
  match s.begin with
  | .error error => (.error error, s)
  | .ok draft =>
    let (draft, removed) := draft.trim log keep
    (.ok removed, s.commit draft)

/-- Removes all events of a log, and counts them. -/
def clear (s : Store) (log : String) : Except StoreError Nat × Store := s.trim log 0

/-- Whether a look at a table shows more events of a log than are kept. -/
def overfull (r : Retention) (t : Table) (log : String) : Bool := r.excess (t.count log) != 0

/-- Removes the events of a log that are too many, and counts them.  A look at the table decides
whether there are any; only then a transaction is opened. -/
def evict (s : Store) (log : String) : Except StoreError Nat × Store :=
  match s.table with
  | .error error => (.error error, s)
  | .ok t =>
    if overfull s.settings.retention t log then s.trim log s.settings.retention.keep
    else (.ok 0, s)

/-- Evicts each of the logs, up to the first that fails, and counts the events. -/
def evictEach (s : Store) : List String → Except StoreError Nat × Store
  | [] => (.ok 0, s)
  | log :: rest => match s.evict log with
    | (.error error, s) => (.error error, s)
    | (.ok removed, s) =>
      let (more, s) := s.evictEach rest
      (more.map (removed + ·), s)

/-- Evicts all logs of the store, registered or not. -/
def evictAll (s : Store) : Except StoreError Nat × Store :=
  match s.logNames with
  | .error error => (.error error, s)
  | .ok logs => s.evictEach logs

/-- Clears each of the logs, up to the first that fails, and counts the events. -/
def clearEach (s : Store) : List String → Except StoreError Nat × Store
  | [] => (.ok 0, s)
  | log :: rest => match s.clear log with
    | (.error error, s) => (.error error, s)
    | (.ok removed, s) =>
      let (more, s) := s.clearEach rest
      (more.map (removed + ·), s)

end Store

end Logbook
