import Logbook.Json.Record
import Logbook.Table
import Logbook.Time.Reading

/-!
# Pages of events

A reader asks for the events of several logs at once and gets a page of them, in the order of their
identifiers, with two cursors from which to go on.

## Main definitions

* `PageRequest` — what a reader asks for, also in documents.
* `Page` — some events and the cursors on their two sides.
* `Page.ofEvents` — the page of the events that were found in each log.
* `Page.read` — the page that answers a request about some logs.
* `LogDescription` — a log as it is described to clients.
-/

namespace Logbook

/-- What a reader asks for. -/
structure PageRequest where
  /-- The names of the logs; without any, all that are registered. -/
  logs : List String := []
  /-- The text of the cursor to go on from. -/
  cursor : Option String := none
  /-- The greatest number of events. -/
  limit : Option UInt64 := none
  /-- A text that the messages have to hold. -/
  filter : Option String := none
  deriving DecidableEq, Repr

namespace PageRequest

/-- A request in documents. -/
def toJson (r : PageRequest) : Json :=
  .ofFields [("logs", .array (r.logs.map .string)), ("cursor", .ofOption .string r.cursor),
    ("limit", .ofOption (fun n => .ofNat n.toNat) r.limit), ("filter", .ofOption .string r.filter)]

/-- Reads a request; any of its fields may be absent. -/
def ofJson? (j : Json) : Option PageRequest := do
  let fields ← Json.Fields.of? ["logs", "cursor", "limit", "filter"] j
  let logs ← fields.orElse "logs" [] (Json.list? Json.text?)
  let cursor ← fields.orElse "cursor" none (Json.nullable? Json.text?)
  let limit ← fields.orElse "limit" none (Json.nullable? Json.word?)
  let filter ← fields.orElse "filter" none (Json.nullable? Json.text?)
  return { logs, cursor, limit, filter }

end PageRequest

/-- Some events in ascending order, and the cursors from which to go on. -/
structure Page where
  /-- The events. -/
  items : List Event
  /-- The cursor that leads back over the page. -/
  prev : Cursor
  /-- The cursor that leads on in the direction of the request. -/
  next : Cursor
  deriving DecidableEq

namespace Page

/-- The direction of a request: backward from the end where there is no cursor. -/
def directionOf (cursor : Option Cursor) : Direction :=
  match cursor with
  | some c => c.direction
  | none => .backward

/-- The first events of a list in ascending order, or the last, as the direction starts. -/
def cut (direction : Direction) (limit : Nat) (events : List Event) : List Event :=
  match direction with
  | .forward => events.take limit
  | .backward => events.drop (events.length - limit)

/-- The cursors of a page.  An empty page leads on from where the request stood, and back from there. -/
def cursors (cursor : Option Cursor) (items : List Event) : Cursor × Cursor :=
  match items.head?, items.getLast? with
  | some first, some last =>
    match directionOf cursor with
    | .forward => (first.before, last.after)
    | .backward => (last.after, first.before)
  | _, _ =>
    match cursor with
    | some c => (c.reversed, c)
    | none => (.start, .start)

/-- The page of the events that were found in each log. -/
def ofEvents (cursor : Option Cursor) (limit : Nat) (found : List Event) : Page :=
  let sorted := found.mergeSort fun a b => decide (a.id ≤ b.id)
  let items := cut (directionOf cursor) limit sorted
  let (prev, next) := cursors cursor items
  { items, prev, next }

/-- The events that each of the logs, looked at in a table of its own, gives to a request. -/
def find (tableOf : String → Table) (q : Query) : List String → Except StoreError (List Event)
  | [] => .ok []
  | log :: rest => do
    let found ← (tableOf log).read log q
    let more ← find tableOf q rest
    return found ++ more

/-- The query that a request makes of each log. -/
def queryOf (cursor : Option Cursor) (limit : Nat) (filter : Option String) : Query where
  cursor := cursor.map (·.id)
  limit := limit
  direction := directionOf cursor
  filter := filter

/-- The page that answers a request about some logs.  Each log is read at a time of its own, so each
may be looked at in another table. -/
def read (tableOf : String → Table) (logs : List String) (cursor : Option Cursor) (limit : Nat)
    (filter : Option String) : Except StoreError Page := do
  let found ← find tableOf (queryOf cursor limit filter) logs
  return ofEvents cursor limit found

end Page

/-- A log as it is described to clients. -/
structure LogDescription where
  /-- The name of the log. -/
  name : String
  /-- Where its lines come from, if it is registered. -/
  source : Option String
  /-- The time of its newest event. -/
  lastEventAt : Option Instant
  deriving DecidableEq

namespace LogDescription

/-- A description in documents. -/
def toJson (d : LogDescription) : Json :=
  .ofFields [("name", .string d.name), ("source", .ofOption .string d.source),
    ("lastEventAt", .ofOption (fun t => .string t.document) d.lastEventAt)]

/-- Reads an instant, in any of the loose forms of timestamps. -/
def instant? (j : Json) : Option Instant := do
  let text ← j.text?
  let stamp ← (Stamp.readLoosely text).toOption
  return stamp.instant

/-- Reads a description. -/
def ofJson? (j : Json) : Option LogDescription := do
  let fields ← Json.Fields.of? ["name", "source", "lastEventAt"] j
  let name ← fields.required "name" Json.text?
  let source ← fields.optional "source" Json.text?
  let lastEventAt ← fields.optional "lastEventAt" instant?
  return { name, source, lastEventAt }

end LogDescription

/-! ### Other values in documents -/

namespace Direction

/-- The name of a direction in documents. -/
def name : Direction → String
  | .forward => "forward"
  | .backward => "backward"

/-- The direction with a name. -/
def named? (name : String) : Option Direction :=
  if name = "forward" then some .forward
  else if name = "backward" then some .backward
  else none

/-- A direction in documents. -/
def toJson (d : Direction) : Json := .string d.name

/-- Reads a direction. -/
def ofJson? (j : Json) : Option Direction := Json.choice? named? j

end Direction

namespace EventId

/-- An identifier in documents. -/
def toJson (i : EventId) : Json := .string i.text

/-- Reads an identifier. -/
def ofJson? (j : Json) : Option EventId := do
  let text ← j.text?
  (parse text).toOption

end EventId

namespace Event

/-- An event in documents, with its message as text. -/
def toJson (e : Event) : Json :=
  .ofFields [("id", e.id.toJson), ("log", .string e.log),
    ("timestamp", .string e.timestamp.document), ("message", .string e.text)]

end Event

end Logbook
