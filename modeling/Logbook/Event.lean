import Logbook.Error
import Logbook.Time.Instant

/-!
# Events

## Main definitions

* `Event` — an event of a log.
* `Event.before`, `Event.after` — the cursors on its two sides.
* `truncate` — a message cut to a greatest size.
-/

namespace Logbook

/-- An event of a log. -/
structure Event where
  /-- The identifier, unique within a store. -/
  id : EventId
  /-- The name of the log. -/
  log : String
  /-- When the event happened. -/
  timestamp : Instant
  /-- What happened. -/
  message : Bytes
  deriving DecidableEq

namespace Event

/-- The message as text, whatever its bytes. -/
def text (e : Event) : String := Utf8.lossy e.message

/-- The cursor that goes on to the events before this one. -/
def before (e : Event) : Cursor := .backward e.id

/-- The cursor that goes on to the events after this one. -/
def after (e : Event) : Cursor := .forward e.id

end Event

/-- The greatest size of a message where nothing else is set. -/
def defaultMessageSize : Nat := 8192

/-- The first `max` bytes of a message. -/
def truncate (max : Nat) (message : Bytes) : Bytes := message.take max

end Logbook
