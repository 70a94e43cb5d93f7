import Logbook.Entry
import Logbook.SortedMap
import Logbook.Text.LowerCase
import Logbook.Text.Search

/-!
# The table of events

All events of a store stand in one table from keys to values.  The events of one log are the rows
between two bounds; a read walks through them in either direction from a place between rows.

## Main definitions

* `Table` — rows in ascending order of keys.
* `Query` — what a reader asks for.
* `Table.read` — the events of a log that answer a query, in ascending order.
* `Table.trim`, `Table.clear` — removal of the oldest events of a log, or of all.
* `Table.logNames` — the names of the logs that own a row.
-/

namespace Logbook

/-- Rows in ascending order of keys. -/
abbrev Table := SortedMap Bytes Bytes

/-- A key and its value. -/
abbrev Row := Bytes × Bytes

/-- What a reader asks for. -/
structure Query where
  /-- The place from which to read; without one, from the end that the direction starts at. -/
  cursor : Option EventId := none
  /-- The greatest number of events. -/
  limit : Nat
  /-- The direction of the walk. -/
  direction : Direction
  /-- A text that the message has to hold, in either case. -/
  filter : Option String := none
  deriving DecidableEq

/-! ### Filters -/

namespace Filter

/-- The characters to search for; an empty filter is none. -/
def needle? (filter : Option String) : Option (List Char) :=
  match filter with
  | none => none
  | some text => if text.toList = [] then none else some (LowerCase.lower text.toList)

/-- Whether a message, read as text in lower case, holds the needle. -/
def accepts (needle : Option (List Char)) (e : Event) : Bool :=
  match needle with
  | none => true
  | some chars => Search.occurs chars (LowerCase.lower e.text.toList)

end Filter

namespace Table

/-! ### The rows of a log -/

/-- Whether `a` comes before `b`. -/
def precedes (a b : Bytes) : Bool := (compare a b).isLT

/-- Whether a key lies between the bounds of a log. -/
def owns (log : String) (key : Bytes) : Bool :=
  !precedes key (Entry.keysFrom log) && precedes key (Entry.keysTo log)

/-- The rows of a log, in ascending order. -/
def rowsOf (t : Table) (log : String) : List Row := t.entries.filter fun r => owns log r.1

/-- The number of rows of a log. -/
def count (t : Table) (log : String) : Nat := (t.rowsOf log).length

/-! ### Reading -/

/-- Whether a key lies between the bounds of a log and on the side of the cursor to which the
direction leads. -/
def onSide (log : String) (cursor : Option EventId) (direction : Direction) (key : Bytes) : Bool :=
  match cursor, direction with
  | none, _ => owns log key
  | some id, .forward => precedes (Entry.key log id) key && precedes key (Entry.keysTo log)
  | some id, .backward =>
    !precedes key (Entry.keysFrom log) && precedes key (Entry.key log id)

/-- The rows that a query walks through, in the order of the walk. -/
def walk (t : Table) (log : String) (q : Query) : List Row :=
  let rows := t.entries.filter fun r => onSide log q.cursor q.direction r.1
  match q.direction with
  | .forward => rows
  | .backward => rows.reverse

/-- The first `limit` accepted events of a walk.  It stops at the last of them, or at a row that is no
event. -/
def collect (accepts : Event → Bool) : (limit : Nat) → List Row → Except StoreError (List Event)
  | _, [] => .ok []
  | 0, _ :: _ => .ok []
  | limit + 1, (key, value) :: rest => do
    let e ← Entry.decode key value
    if accepts e then
      let more ← collect accepts limit rest
      return e :: more
    else collect accepts (limit + 1) rest

/-- The events of a log that answer a query, in ascending order. -/
def read (t : Table) (log : String) (q : Query) : Except StoreError (List Event) := do
  let found ← collect (Filter.accepts (Filter.needle? q.filter)) q.limit (t.walk log q)
  match q.direction with
  | .forward => return found
  | .backward => return found.reverse

/-- The newest event of a log. -/
def lastEvent? (t : Table) (log : String) : Except StoreError (Option Event) := do
  let found ← t.read log { limit := 1, direction := .backward }
  return found.getLast?

/-! ### Removal -/

/-- The table without some keys. -/
def eraseAll (t : Table) (keys : List Bytes) : Table := keys.foldl (fun t k => t.erase k) t

/-- The keys of a log but for the newest `keep`, newest first. -/
def surplus (t : Table) (log : String) (keep : Nat) : List Bytes :=
  ((t.rowsOf log).reverse.map (·.1)).drop keep

/-- Removes the events of a log but for the newest `keep`, and counts them. -/
def trim (t : Table) (log : String) (keep : Nat) : Table × Nat :=
  let keys := t.surplus log keep
  (t.eraseAll keys, keys.length)

/-- Removes all events of a log, and counts them. -/
def clear (t : Table) (log : String) : Table × Nat := t.trim log 0

/-! ### Names of logs -/

/-- The names of the logs in rows that are not below `start`.  From the first such row the search jumps
to the first row beyond the bounds of that row's log. -/
def namesFrom (start : Bytes) : List Row → Except StoreError (List String)
  | [] => .ok []
  | (key, _) :: rest =>
    if precedes key start then namesFrom start rest
    else match Entry.decodeKey key with
      | .error fault => .error (.malformedKey fault.message)
      | .ok (log, _) => do
        let more ← namesFrom (Entry.keysTo log) rest
        return log :: more

/-- The names of the logs that own a row, in ascending order. -/
def logNames (t : Table) : Except StoreError (List String) := namesFrom [] t.entries

end Table

end Logbook
