import Logbook.Cursor

/-!
# Errors

What can go wrong, layer by layer, with the wording of each error.  A store passes errors about events
on, and the collector passes errors of the store and of its inbox on.

## Main definitions

* `EventError`, `StoreError`, `InboxError`, `CollectorError` — the causes.
* `CollectorError.isValidation` — whether the caller's arguments are to blame.
* `CollectorError.ofEventError` — how an error about events reads in the collector.
-/

namespace Logbook

/-- What can be wrong with identifiers, cursors and names of logs. -/
inductive EventError
  /-- The source of randomness failed. -/
  | entropy (reason : String)
  /-- A text or a byte string is no identifier. -/
  | invalidId (reason : String)
  /-- A text is no cursor. -/
  | invalidCursor (reason : String)
  /-- A text cannot name a log. -/
  | invalidLogName (name : String)
  deriving DecidableEq, Repr

/-- The wording of an error about events. -/
def EventError.message : EventError → String
  | .entropy reason => s!"Entropy source failed: {reason}"
  | .invalidId reason => s!"Invalid event ID: {reason}"
  | .invalidCursor reason => s!"Invalid cursor: {reason}"
  | .invalidLogName name => s!"Invalid log name: {Quoted.string name}"

/-- The identifier that a text spells, with the error of the layer. -/
def EventId.ofText (text : String) : Except EventError EventId :=
  (EventId.parse text).mapError fun fault => .invalidId fault.message

/-- What can go wrong in a store. -/
inductive StoreError
  /-- The file system failed. -/
  | io (reason : String)
  /-- The database failed. -/
  | database (reason : String)
  /-- A stored value has an unknown version. -/
  | unsupportedVersion (version : UInt8)
  /-- A stored key has another form than the store gives to keys. -/
  | malformedKey (reason : String)
  /-- A stored value has another form than the store gives to values. -/
  | malformedValue (reason : String)
  /-- An instant lies outside of the times that can be stored. -/
  | invalidTimestamp (shown : String)
  /-- The store has been closed. -/
  | closed
  /-- An error about events. -/
  | event (error : EventError)
  deriving DecidableEq, Repr

/-- The wording of an error of the store. -/
def StoreError.message : StoreError → String
  | .io reason => s!"I/O error: {reason}"
  | .database reason => s!"Database error: {reason}"
  | .unsupportedVersion version => s!"unsupported event version: {version}"
  | .malformedKey reason => s!"Malformed key: {reason}"
  | .malformedValue reason => s!"Malformed value: {reason}"
  | .invalidTimestamp shown => s!"Invalid timestamp: {shown}"
  | .closed => "Store is closed"
  | .event error => error.message

/-- Why an inbox gives no answer to a request. -/
inductive InboxError
  /-- As many requests wait as the inbox holds. -/
  | full
  /-- Nobody serves the inbox any more. -/
  | cancelled
  deriving DecidableEq, Repr

/-- The wording of an error of an inbox. -/
def InboxError.message : InboxError → String
  | .full => "agent inbox full"
  | .cancelled => "agent cancelled"

/-- What can go wrong in the collector. -/
inductive CollectorError
  /-- A text cannot name a log. -/
  | invalidLogName (name : String)
  /-- A log is to be added without a source. -/
  | missingSource (name : String)
  /-- A log is to be added that is there already. -/
  | duplicateLog (name : String)
  /-- More events than allowed, or none, are asked for at once. -/
  | invalidLimit (limit max : Nat)
  /-- An instant lies outside of the times that can be stored. -/
  | invalidTimestamp (shown : String)
  /-- A text is no cursor. -/
  | invalidCursor (reason : String)
  /-- The file system failed, or the source of randomness. -/
  | io (reason : String)
  /-- The worker of a log failed. -/
  | worker (log reason : String)
  /-- The state file is no document of the collector. -/
  | state (reason : String)
  /-- The collector is not running. -/
  | notStarted
  /-- The collector is running already. -/
  | alreadyStarted
  /-- An error of the store. -/
  | store (error : StoreError)
  /-- An error of the inbox. -/
  | inbox (error : InboxError)
  /-- The call broke off, and nothing was answered. -/
  | broken (reason : String)
  deriving DecidableEq, Repr

namespace CollectorError

/-- The wording of an error of the collector. -/
def message : CollectorError → String
  | .invalidLogName name => s!"invalid log name: {Quoted.string name}"
  | .missingSource name => s!"log source path is required for {Quoted.string name}"
  | .duplicateLog name => s!"already have log {Quoted.string name}"
  | .invalidLimit limit max => s!"limit {limit} is out of range 1..={max}"
  | .invalidTimestamp shown => s!"timestamp {shown} cannot be stored"
  | .invalidCursor reason => s!"parsing cursor: {reason}"
  | .io reason => s!"IO error: {reason}"
  | .worker log reason => s!"worker {Quoted.string log}: {reason}"
  | .state reason => s!"state file: {reason}"
  | .notStarted => "collector not started"
  | .alreadyStarted => "collector already started"
  | .store error => s!"storage error: {error.message}"
  | .inbox error => error.message
  | .broken reason => reason

/-- Whether an error says that the arguments of a call are not acceptable. -/
def isValidation : CollectorError → Bool
  | .invalidLogName _ | .missingSource _ | .duplicateLog _ | .invalidLimit _ _
  | .invalidTimestamp _ | .invalidCursor _ => true
  | _ => false

/-- An error about events as an error of the collector. -/
def ofEventError : EventError → CollectorError
  | .invalidLogName name => .invalidLogName name
  | .invalidCursor reason | .invalidId reason => .invalidCursor reason
  | .entropy reason => .io reason

end CollectorError

end Logbook
