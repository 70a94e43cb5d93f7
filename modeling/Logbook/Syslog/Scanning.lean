import Logbook.Syslog.Reading

/-!
# Scanning packets in place

The reader takes a packet apart from its start.  A scanner leaves the packet as it is and moves an offset through it;
the texts of fields are slices of the packet.  An offset may lie beyond the end, and a slice may reach beyond it, which
stops the scan like a fault.

## Main definitions

* `Syslog.Halt` — the ways in which a scan stops.
* `Syslog.Scanner.slice` — the bytes between two offsets.
* `Syslog.Scanner.elementEnd` — the end of an element of structured data.
* `Syslog.scan` — the message of a packet.
-/

namespace Logbook.Syslog

/-- Why a scan stops. -/
inductive Halt
  /-- The packet is no message. -/
  | fault (fault : Fault)
  /-- A slice reaches beyond the packet, or ends before it starts. -/
  | beyond (start stop : Nat)
  deriving DecidableEq, Repr

/-- A scanner moves an offset. -/
abbrev Scanner := StateT Nat (Except Halt)

namespace Scanner

variable (input : Bytes)

/-! ### Pieces -/

/-- The byte at the offset. -/
def peek : Scanner (Option UInt8) := return input[← get]?

/-- The bytes between two offsets. -/
def slice (start stop : Nat) : Scanner Bytes :=
  if start ≤ stop ∧ stop ≤ input.length then return (input.drop start).take (stop - start)
  else throw (.beyond start stop)

/-- Passes over one byte. -/
def expect (byte : UInt8) (place : String) : Scanner Unit := do
  if (← peek input) ≠ some byte then throw (.fault (.expected byte place (← get)))
  modify (· + 1)

/-- The offset behind the run of bytes with `p` that starts at an offset. -/
def runEnd (p : UInt8 → Bool) (pos : Nat) : Nat :=
  if h : pos < input.length then
    if p input[pos] then runEnd p (pos + 1) else pos
  else pos
termination_by input.length - pos

/-- Passes over a run of bytes with `p`. -/
def takeWhile (p : UInt8 → Bool) : Scanner Bytes := do
  let start ← get
  let stop := runEnd input p start
  set stop
  slice input start stop

/-- Scans a number of one to three digits. -/
def number (name : String) : Scanner Nat := do
  let digits ← takeWhile input isDigit
  if digits.isEmpty ∨ 3 < digits.length then throw (.fault (.notNumber name))
  return Positional.value 10 (digits.map fun b => b.toNat - 0x30)

/-- Scans a field up to the next blank. -/
def field (name : String) (max : Nat) : Scanner (Option String) := do
  let token ← takeWhile input (· ≠ blank)
  if token.isEmpty then throw (.fault (.missing name))
  if token = [nil] then return none
  if max < token.length then throw (.fault (.tooLong name max))
  if ¬ token.all isVisible then throw (.fault (.notVisible name))
  return some (String.ofList (token.map fun b => Char.ofNat b.toNat))

/-- Scans the timestamp. -/
def timestamp : Scanner (Option Stamp) := do
  match ← field input "TIMESTAMP" 64 with
  | none => return none
  | some text =>
    match Stamp.read text.toList with
    | .ok stamp => return some stamp
    | .error fault => throw (.fault (.timestamp text fault))

/-! ### Structured data -/

/-- The offset behind the bracket that closes an element, from an offset in it.  A backslash in a value passes over the
next byte, whether there is one or not. -/
def elementEnd (quoted : Bool) (pos : Nat) : Option Nat :=
  if h : pos < input.length then
    if input[pos] = backslash ∧ quoted then elementEnd quoted (pos + 2)
    else if input[pos] = quote then elementEnd (!quoted) (pos + 1)
    else if input[pos] = closingBracket ∧ ¬ quoted then some (pos + 1)
    else elementEnd quoted (pos + 1)
  else none
termination_by input.length - pos

theorem lt_of_elementEnd {input : Bytes} {quoted : Bool} {pos stop : Nat}
    (h : elementEnd input quoted pos = some stop) : pos < stop ∧ stop ≤ input.length := by
  fun_induction elementEnd input quoted pos with
  | case1 quoted pos hlt hbackslash ih =>
    obtain ⟨hpos, hstop⟩ := ih h
    exact ⟨by omega, hstop⟩
  | case2 quoted pos hlt hbackslash hquote ih =>
    obtain ⟨hpos, hstop⟩ := ih h
    exact ⟨by omega, hstop⟩
  | case3 quoted pos hlt hbackslash hquote hbracket =>
    obtain rfl := Option.some.inj h
    exact ⟨Nat.lt_succ_self pos, hlt⟩
  | case4 quoted pos hlt hbackslash hquote hbracket ih =>
    obtain ⟨hpos, hstop⟩ := ih h
    exact ⟨by omega, hstop⟩
  | case5 => cases h

/-- The offset behind the last element of those that start at an offset. -/
def elementsEnd (pos : Nat) : Option Nat :=
  if input[pos]? = some bracket then
    match _ : elementEnd input false (pos + 1) with
    | some stop => elementsEnd stop
    | none => none
  else some pos
termination_by input.length - pos
decreasing_by
  have := lt_of_elementEnd ‹_›
  omega

/-- Scans structured data: a dash, or one element or more. -/
def structuredData : Scanner (Option String) := do
  match ← peek input with
  | none => throw (.fault .noData)
  | some b =>
    if b = nil then
      modify (· + 1)
      return none
    else if b = bracket then
      let start ← get
      match elementsEnd input start with
      | none => throw (.fault .openData)
      | some stop =>
        set stop
        match Utf8.decode (← slice input start stop) with
        | .ok text => return some text
        | .error error => throw (.fault (.dataNotText error))
    else throw (.fault .noData)

/-! ### The whole packet -/

/-- Scans what follows the structured data: nothing, or a blank and a text. -/
def body : Scanner (Option Bytes) := do
  if (← peek input).isNone then return none
  expect input blank "before MSG"
  return some (withoutMark (← slice input (← get) input.length))

/-- Scans the priority and the version. -/
def start : Scanner (Nat × Nat) := do
  expect input opening "to open PRI"
  let priority ← number input "PRI"
  if 191 < priority then throw (.fault (.priority priority))
  expect input closing "to close PRI"
  if (← peek input) = some 0x30 then throw (.fault (.notNumber "VERSION"))
  let version ← number input "VERSION"
  return (priority, version)

/-- Scans a blank, which comes after the field `previous`, and the field behind it. -/
def nextField (previous name : String) (max : Nat) : Scanner (Option String) := do
  expect input blank s!"after {previous}"
  field input name max

/-- Scans a packet. -/
def packet : Scanner Message := do
  let (priority, version) ← start input
  expect input blank "after VERSION"
  let timestamp ← timestamp input
  let hostname ← nextField input "TIMESTAMP" "HOSTNAME" 255
  let appName ← nextField input "HOSTNAME" "APP-NAME" 48
  let procId ← nextField input "APP-NAME" "PROCID" 128
  let msgId ← nextField input "PROCID" "MSGID" 32
  expect input blank "after MSGID"
  let structuredData ← structuredData input
  let message ← body input
  return {
    facility := UInt8.ofNat (priority / 8)
    severity := UInt8.ofNat (priority % 8)
    version := UInt16.ofNat version
    timestamp, hostname, appName, procId, msgId, structuredData, message }

end Scanner

/-- The message of a packet. -/
def scan (bytes : Bytes) : Except Halt Message := (·.1) <$> (Scanner.packet bytes).run 0

end Logbook.Syslog
