import Logbook.Event
import Logbook.Syslog.Message

/-!
# Routing messages to logs

A message belongs to the log of its program, or to the log of one of the program's streams when it was
one line of it.

## Main definitions

* `Syslog.Entry` — what a message adds to a log.
* `Syslog.route` — the entry of a message.
-/

namespace Logbook.Syslog

/-- What a message adds to a log. -/
structure Entry where
  /-- The name of the log. -/
  log : String
  /-- When the message was made. -/
  timestamp : Instant
  /-- The text of the message. -/
  message : Bytes
  deriving DecidableEq

/-- A text without the line feed at its end. -/
def withoutLineFeed (body : Bytes) : Bytes :=
  if body.getLast? = some 0x0A then body.dropLast else body

/-- The log of a program's message: that of the stream that the message names, or that of the program
if it names the program. -/
def logOf (appName msgId : String) : Except SyslogError String :=
  if msgId = "out" ∨ msgId = "err" then .ok (appName ++ ":" ++ msgId)
  else if msgId = appName then .ok appName
  else .error (.unexpectedMsgId msgId)

/-- A field that a message must not lack. -/
def present (field : String) (value : Option α) : Except SyslogError α :=
  match value with
  | some a => .ok a
  | none => .error (.missingField field)

/-- What a message adds to a log. -/
def route (m : Message) : Except SyslogError Entry := do
  let appName ← present "APP-NAME" m.appName
  let msgId ← present "MSGID" m.msgId
  let stamp ← present "TIMESTAMP" m.timestamp
  let timestamp := stamp.instant
  if timestamp.nanos? = none then throw (.timestampOutOfRange timestamp.shown)
  let log ← logOf appName msgId
  return { log, timestamp, message := withoutLineFeed (m.message.getD []) }

end Logbook.Syslog
