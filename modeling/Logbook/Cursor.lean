import Logbook.Base64
import Logbook.EventId

/-!
# Cursors

A cursor is a place between events, next to an identifier, together with the direction in which a
reader goes on from it.  Its text is the base64 spelling of the identifier's bytes and a tag byte; a text
without the tag means the forward cursor.

## Main definitions

* `Direction`, `Cursor` — a direction, and a place with a direction.
* `Cursor.text`, `Cursor.parse` — the form in which clients keep a cursor.
-/

namespace Logbook

/-- The direction of a reader. -/
inductive Direction
  /-- Towards later events. -/
  | forward
  /-- Towards earlier events. -/
  | backward
  deriving DecidableEq, Repr

/-- The other direction. -/
def Direction.reverse : Direction → Direction
  | .forward => .backward
  | .backward => .forward

@[simp] theorem Direction.reverse_reverse (d : Direction) : d.reverse.reverse = d := by
  cases d <;> rfl

/-- A place in the order of events and the direction in which to go on. -/
structure Cursor where
  /-- The identifier at which the reader stands, itself left out. -/
  id : EventId
  /-- The direction in which the reader goes on. -/
  direction : Direction
  deriving DecidableEq

namespace Cursor

/-- The cursor that goes on to later events. -/
def forward (id : EventId) : Cursor := ⟨id, .forward⟩

/-- The cursor that goes on to earlier events. -/
def backward (id : EventId) : Cursor := ⟨id, .backward⟩

/-- The cursor before all events but one at the least identifier. -/
def start : Cursor := forward .least

/-- The cursor at the same place in the other direction. -/
def reversed (c : Cursor) : Cursor := ⟨c.id, c.direction.reverse⟩

@[simp] theorem reversed_reversed (c : Cursor) : c.reversed.reversed = c := by
  simp [reversed]

/-- The tag byte of a direction. -/
def tag : Direction → UInt8
  | .forward => 1
  | .backward => 0

/-- The bytes of a cursor: those of the identifier and the tag. -/
def toBytes (c : Cursor) : Bytes := c.id.toBytes ++ [tag c.direction]

/-- The text of a cursor. -/
def text (c : Cursor) : String := Base64.encode c.toBytes

instance : ToString Cursor := ⟨text⟩

/-- Why a text is no cursor. -/
inductive Fault
  /-- The text is not base64. -/
  | spelling (fault : Base64.Fault)
  /-- The tag byte stands for no direction. -/
  | tag (byte : UInt8)
  /-- The text spells a byte string of another length. -/
  | length (length : Nat)
  deriving DecidableEq, Repr

/-- The wording of a fault. -/
def Fault.message : Fault → String
  | .spelling fault => s!"decoding cursor: {fault.message}"
  | .tag byte => s!"unknown direction tag {byte}"
  | .length n => s!"expected {EventId.byteLength} or {EventId.byteLength + 1} bytes, got {n}"

/-- The cursor of a byte string. -/
def ofBytes (b : Bytes) : Except Fault Cursor :=
  if b.length = EventId.byteLength then .ok (forward (.ofNat b.toNat))
  else if b.length = EventId.byteLength + 1 then
    let id := EventId.ofNat (Bytes.toNat (b.take EventId.byteLength))
    match b.getLastD 0 with
    | 1 => .ok (forward id)
    | 0 => .ok (backward id)
    | byte => .error (.tag byte)
  else .error (.length b.length)

/-- The cursor that a text of bytes spells. -/
def parseBytes (b : Bytes) : Except Fault Cursor :=
  match Base64.decode b with
  | .ok payload => ofBytes payload
  | .error fault => .error (.spelling fault)

/-- The cursor that a text spells. -/
def parse (text : String) : Except Fault Cursor := parseBytes (Utf8.encode text)

end Cursor

end Logbook
