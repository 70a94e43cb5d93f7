import Logbook.Syslog.Message
import Logbook.Time.Reading

/-!
# Reading packets

A packet is `<PRI>VERSION TIMESTAMP HOSTNAME APP-NAME PROCID MSGID STRUCTURED-DATA`, and possibly a
blank and a text.  It is read from left to right, and the first fault ends the reading.

## Main definitions

* `Syslog.Fault` — the ways in which a packet is no message.
* `Syslog.scanData` — the extent of structured data.
* `Syslog.read` — the message of a packet.
-/

namespace Logbook.Syslog

/-- Why a packet is no message. -/
inductive Fault
  /-- Another byte is expected at an offset. -/
  | expected (byte : UInt8) (place : String) (offset : Nat)
  /-- A field is not a number of one to three digits. -/
  | notNumber (field : String)
  /-- The priority is greater than 191. -/
  | priority (n : Nat)
  /-- A field is empty. -/
  | missing (field : String)
  /-- A field is too long. -/
  | tooLong (field : String) (max : Nat)
  /-- A field holds something other than visible ASCII characters. -/
  | notVisible (field : String)
  /-- The timestamp is none. -/
  | timestamp (text : String) (fault : Stamp.Fault)
  /-- The structured data do not start. -/
  | noData
  /-- The structured data do not end. -/
  | openData
  /-- The structured data are no text. -/
  | dataNotText (error : Utf8.Error)
  deriving DecidableEq, Repr

/-- The wording of a fault. -/
def Fault.message : Fault → String
  | .expected byte place offset =>
    s!"expected {Quoted.char (Char.ofNat byte.toNat)} {place} at offset {offset}"
  | .notNumber field => s!"invalid {field}"
  | .priority n => s!"PRI {n} out of range"
  | .missing field => s!"missing {field}"
  | .tooLong field max => s!"{field} longer than {max} bytes"
  | .notVisible field => s!"{field} is not printable ASCII"
  | .timestamp text fault => s!"invalid TIMESTAMP {Quoted.string text}: {fault.message}"
  | .noData => "expected STRUCTURED-DATA"
  | .openData => "unterminated STRUCTURED-DATA"
  | .dataNotText error => s!"STRUCTURED-DATA: {error.message}"

/-- A reader takes a start of the packet off and leaves the rest. -/
abbrev Reader := StateT Bytes (Except Fault)

/-! ### Bytes with a meaning -/

/-- The byte before the priority. -/
def opening : UInt8 := 0x3C

/-- The byte behind the priority. -/
def closing : UInt8 := 0x3E

/-- The byte between fields. -/
def blank : UInt8 := 0x20

/-- The byte of a field that is nil. -/
def nil : UInt8 := 0x2D

/-- The byte that opens an element of structured data. -/
def bracket : UInt8 := 0x5B

/-- The byte that closes an element of structured data. -/
def closingBracket : UInt8 := 0x5D

/-- The byte around values of structured data. -/
def quote : UInt8 := 0x22

/-- The byte that hides the next one in values of structured data. -/
def backslash : UInt8 := 0x5C

/-- The bytes that may mark a text as UTF-8. -/
def byteOrderMark : Bytes := [0xEF, 0xBB, 0xBF]

/-- Whether a byte is a numeral. -/
def isDigit (b : UInt8) : Bool := 0x30 ≤ b && b ≤ 0x39

/-- Whether a byte is a visible ASCII character. -/
def isVisible (b : UInt8) : Bool := 33 ≤ b && b ≤ 126

/-! ### Pieces -/

/-- Reads one byte, in a packet of `total` bytes. -/
def expect (total : Nat) (byte : UInt8) (place : String) : Reader Unit := do
  let rest ← get
  match rest with
  | b :: after => if b = byte then set after else throw (.expected byte place (total - rest.length))
  | [] => throw (.expected byte place total)

/-- Reads a number of one to three digits. -/
def number (name : String) : Reader Nat := do
  let bytes ← get
  let digits := bytes.takeWhile isDigit
  if digits.isEmpty ∨ 3 < digits.length then throw (.notNumber name)
  set (bytes.dropWhile isDigit)
  return Positional.value 10 (digits.map fun b => b.toNat - 0x30)

/-- Reads a field up to the next blank. -/
def field (name : String) (max : Nat) : Reader (Option String) := do
  let bytes ← get
  let token := bytes.takeWhile (· ≠ blank)
  if token.isEmpty then throw (.missing name)
  set (bytes.dropWhile (· ≠ blank))
  if token = [nil] then return none
  if max < token.length then throw (.tooLong name max)
  if ¬ token.all isVisible then throw (.notVisible name)
  return some (String.ofList (token.map fun b => Char.ofNat b.toNat))

/-- Reads the timestamp. -/
def timestamp : Reader (Option Stamp) := do
  match ← field "TIMESTAMP" 64 with
  | none => return none
  | some text =>
    match Stamp.read text.toList with
    | .ok stamp => return some stamp
    | .error fault => throw (.timestamp text fault)

/-! ### Structured data -/

/-- Where in structured data a byte stands. -/
inductive DataState
  /-- Before or between elements. -/
  | outside
  /-- In an element, but not in a value. -/
  | inside
  /-- In a value. -/
  | quoted
  /-- Behind a backslash in a value. -/
  | hidden
  deriving DecidableEq, Repr

/-- The state behind a byte, or none where the byte stands behind the elements. -/
def DataState.next : DataState → UInt8 → Option DataState
  | .outside, b => if b = bracket then some .inside else none
  | .inside, b => some (if b = quote then .quoted else if b = closingBracket then .outside else .inside)
  | .quoted, b => some (if b = backslash then .hidden else if b = quote then .inside else .quoted)
  | .hidden, _ => some .quoted

/-- The longest run of elements at the start of the bytes, and what follows it; none if an element does
not end.  In a value, a backslash hides the next byte; a bracket in a value is not an end. -/
def scanData : DataState → Bytes → Option (Bytes × Bytes)
  | state, [] => if state = .outside then some ([], []) else none
  | state, b :: rest =>
    match state.next b with
    | some state => (fun r => (b :: r.1, r.2)) <$> scanData state rest
    | none => some ([], b :: rest)

/-- Reads structured data: a dash, or one element or more. -/
def structuredData : Reader (Option String) := do
  match ← get with
  | [] => throw .noData
  | b :: rest =>
    if b = nil then
      set rest
      return none
    else if b = bracket then
      match scanData .outside (b :: rest) with
      | none => throw .openData
      | some (data, after) =>
        set after
        match Utf8.decode data with
        | .ok text => return some text
        | .error error => throw (.dataNotText error)
    else throw .noData

/-! ### The whole packet -/

/-- The text without a mark at its start. -/
def withoutMark (body : Bytes) : Bytes :=
  if byteOrderMark.isPrefixOf body then body.drop byteOrderMark.length else body

/-- Reads what follows the structured data: nothing, or a blank and a text. -/
def body (total : Nat) : Reader (Option Bytes) := do
  if (← get).isEmpty then return none
  expect total blank "before MSG"
  return some (withoutMark (← get))

/-- Reads the priority and the version. -/
def start (total : Nat) : Reader (Nat × Nat) := do
  expect total opening "to open PRI"
  let priority ← number "PRI"
  if 191 < priority then throw (.priority priority)
  expect total closing "to close PRI"
  if (← get).head? = some 0x30 then throw (.notNumber "VERSION")
  let version ← number "VERSION"
  return (priority, version)

/-- Reads a blank, which comes after the field `previous`, and the field behind it. -/
def nextField (total : Nat) (previous name : String) (max : Nat) : Reader (Option String) := do
  expect total blank s!"after {previous}"
  field name max

/-- Reads a packet of `total` bytes. -/
def packet (total : Nat) : Reader Message := do
  let (priority, version) ← start total
  expect total blank "after VERSION"
  let timestamp ← timestamp
  let hostname ← nextField total "TIMESTAMP" "HOSTNAME" 255
  let appName ← nextField total "HOSTNAME" "APP-NAME" 48
  let procId ← nextField total "APP-NAME" "PROCID" 128
  let msgId ← nextField total "PROCID" "MSGID" 32
  expect total blank "after MSGID"
  let structuredData ← structuredData
  let message ← body total
  return {
    facility := UInt8.ofNat (priority / 8)
    severity := UInt8.ofNat (priority % 8)
    version := UInt16.ofNat version
    timestamp, hostname, appName, procId, msgId, structuredData, message }

/-- The message of a packet. -/
def read (bytes : Bytes) : Except SyslogError Message :=
  match (packet bytes.length).run bytes with
  | .ok (message, _) => .ok message
  | .error fault => .error (.malformed fault.message)

end Logbook.Syslog
