import Logbook.Text.Quoted
import Logbook.Text.Utf8
import Logbook.Time.Writing

/-!
# Syslog messages

The messages of RFC 5424 and the packets that they are sent in.

## Main definitions

* `Syslog.Message` — a message; fields that are nil are missing.
* `Syslog.Message.encode` — the packet of a message.
* `Syslog.Message.ofLine` — the message that a line of a program's output is sent in.
* `SyslogError` — why a packet is not taken in.
-/

namespace Logbook

/-- Why a packet is not taken in. -/
inductive SyslogError
  /-- The packet is no message. -/
  | malformed (reason : String)
  /-- The message lacks a field. -/
  | missingField (field : String)
  /-- The message names neither a stream nor its program. -/
  | unexpectedMsgId (msgId : String)
  /-- The time of the message cannot be stored. -/
  | timestampOutOfRange (shown : String)
  deriving DecidableEq, Repr

/-- The wording of an error. -/
def SyslogError.message : SyslogError → String
  | .malformed reason => s!"malformed syslog message: {reason}"
  | .missingField field => s!"expected {field}"
  | .unexpectedMsgId msgId => s!"unexpected MSGID: {Quoted.string msgId}"
  | .timestampOutOfRange shown => s!"TIMESTAMP {shown} out of range"

namespace Syslog

/-- A syslog message. -/
structure Message where
  /-- The facility, at most 23 in packets. -/
  facility : UInt8 := 1
  /-- The severity, at most 7 in packets. -/
  severity : UInt8 := 6
  /-- The version of the protocol. -/
  version : UInt16 := 1
  /-- When the message was made. -/
  timestamp : Option Stamp := none
  /-- The host that made it. -/
  hostname : Option String := none
  /-- The program that made it. -/
  appName : Option String := none
  /-- The process that made it. -/
  procId : Option String := none
  /-- The kind of the message. -/
  msgId : Option String := none
  /-- The structured data as they stand in the packet. -/
  structuredData : Option String := none
  /-- The text, in any encoding. -/
  message : Option Bytes := none
  deriving DecidableEq

namespace Message

/-- The message that a line of a program's output is sent in. -/
def ofLine (appName msgId : String) (timestamp : Instant) (line : Bytes) : Message where
  timestamp := some (.utc timestamp)
  appName := some appName
  msgId := some msgId
  message := some line

/-- The priority, which stands for the facility and the severity. -/
def priority (m : Message) : Nat := m.facility.toNat * 8 + m.severity.toNat

/-- The bytes of a field, or a dash for nil. -/
def field (value : Option String) : Bytes :=
  match value with
  | some text => Utf8.encode text
  | none => [0x2D]

/-- The bytes of a number. -/
def number (n : Nat) : Bytes := (Decimal.natural n).map fun c => UInt8.ofNat c.toNat

/-- The fields of the header that follow the version, in their order. -/
def headerFields (m : Message) : List (Option String) :=
  [m.timestamp.map (·.write .packet), m.hostname, m.appName, m.procId, m.msgId, m.structuredData]

/-- The packet of a message.  Nothing is checked; a message whose fields are not fit for packets gives
a packet that reads otherwise. -/
def encode (m : Message) : Bytes :=
  0x3C :: number m.priority ++ 0x3E :: number m.version.toNat ++
    m.headerFields.flatMap (fun value => 0x20 :: field value) ++
    match m.message with
    | some body => 0x20 :: body
    | none => []

end Message

end Syslog

end Logbook
