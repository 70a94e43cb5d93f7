import Logbook.Json.Record
import Logbook.Retention

/-!
# Settings of a store

## Main definitions

* `Retention.toJson`, `Retention.ofJson?` — a policy in documents.
* `StoreSettings` — where the database lies and how it is kept.
-/

namespace Logbook

namespace Retention

/-- A policy in documents. -/
def toJson (r : Retention) : Json := .ofFields [("max_events_per_log", .ofNat r.maxEvents.toNat)]

/-- Reads a policy, which is taken as it is. -/
def ofJson? (j : Json) : Option Retention := do
  let fields ← Json.Fields.of? ["max_events_per_log"] j
  let maxEvents ← fields.required "max_events_per_log" Json.word?
  return { maxEvents }

end Retention

/-- The settings of a store. -/
structure StoreSettings where
  /-- The path of the database. -/
  path : String := "./data/logs/events.redb"
  /-- Whether each write waits until it has reached the disk. -/
  syncOnWrite : Bool := true
  /-- How many events are kept. -/
  retention : Retention := default
  deriving DecidableEq, Repr

namespace StoreSettings

/-- Settings in documents. -/
def toJson (s : StoreSettings) : Json :=
  .ofFields [("db_path", .string s.path), ("sync_on_write", .bool s.syncOnWrite),
    ("retention", s.retention.toJson)]

/-- Reads settings. -/
def ofJson? (j : Json) : Option StoreSettings := do
  let fields ← Json.Fields.of? ["db_path", "sync_on_write", "retention"] j
  let path ← fields.required "db_path" Json.text?
  let syncOnWrite ← fields.required "sync_on_write" Json.flag?
  let retention ← fields.required "retention" Retention.ofJson?
  return { path, syncOnWrite, retention }

end StoreSettings

end Logbook
