import Logbook.Event
import Logbook.Time.Writing

/-!
# Entries of the table

How an event is stored.  A key is the name of the log, a NUL and the sixteen bytes of the identifier,
so keys are ordered by name and then by identifier.  A value is a version byte, the nanoseconds since
1970 in eight bytes and the message.

## Main definitions

* `Entry.key`, `Entry.value` — the key and the value of an event.
* `Entry.keysFrom`, `Entry.keysTo` — the bounds between which the keys of a log lie.
* `Entry.decodeKey`, `Entry.decodeValue`, `Entry.decode` — the way back.
-/

namespace Logbook.Entry

/-- The byte between the name and the identifier. -/
def separator : UInt8 := 0

/-- The version byte of values. -/
def version : UInt8 := 1

/-- The number of bytes of a value before the message. -/
def headerLength : Nat := 9

/-! ### Writing -/

/-- The least byte string that may start a key of the log. -/
def keysFrom (log : String) : Bytes := Utf8.encode log ++ [separator]

/-- The least byte string beyond all keys of the log. -/
def keysTo (log : String) : Bytes := Utf8.encode log ++ [separator + 1]

/-- The key of an event. -/
def key (log : String) (id : EventId) : Bytes := Utf8.encode log ++ separator :: id.toBytes

/-- The value of an event, if its time can be stored. -/
def value (timestamp : Instant) (message : Bytes) : Except StoreError Bytes :=
  match timestamp.nanos? with
  | some n => .ok (version :: Bytes.ofNat 8 n ++ message)
  | none => .error (.invalidTimestamp timestamp.shown)

/-! ### Reading -/

/-- Why a byte string is no key. -/
inductive KeyFault
  /-- There is no room for a separator and an identifier. -/
  | tooShort (length : Nat)
  /-- Another byte stands before the identifier. -/
  | separator
  /-- The name is no text. -/
  | name (error : Utf8.Error)
  deriving DecidableEq, Repr

/-- The wording of a fault in a key. -/
def KeyFault.message : KeyFault → String
  | .tooShort n => s!"{n} bytes is shorter than separator and id"
  | .separator => "missing separator"
  | .name error => s!"log name is not utf-8: {error.message}"

/-- The name and the identifier of a key. -/
def decodeKey (key : Bytes) : Except KeyFault (String × EventId) :=
  if key.length < EventId.byteLength + 1 then .error (.tooShort key.length)
  else
    let split := key.length - EventId.byteLength - 1
    if key.getD split 0 ≠ separator then .error .separator
    else match Utf8.decode (key.take split) with
      | .ok name => .ok (name, .ofNat (Bytes.toNat (key.drop (split + 1))))
      | .error error => .error (.name error)

/-- The time and the message of a value. -/
def decodeValue : Bytes → Except StoreError (Instant × Bytes)
  | [] => .error (.malformedValue "empty value")
  | b :: rest =>
    if b ≠ version then .error (.unsupportedVersion b)
    else if rest.length + 1 < headerLength then
      .error (.malformedValue s!"{rest.length + 1} bytes is shorter than the header")
    else .ok (.ofNanos (Bytes.toNat (rest.take 8)), rest.drop 8)

/-- The event of a key and a value; a fault of the key comes first. -/
def decode (key value : Bytes) : Except StoreError Event := do
  let (log, id) ← (decodeKey key).mapError fun fault => .malformedKey fault.message
  let (timestamp, message) ← decodeValue value
  return { id, log, timestamp, message }

end Logbook.Entry
