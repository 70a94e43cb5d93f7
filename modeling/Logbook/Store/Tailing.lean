import Logbook.Store.Observing

/-!
# Following a log

A client reads a log forward again and again, each time from behind the last event that it has received, while other
clients of the store are at work.

## Main definitions

* `Tail` — a client that follows a log.
* `Tail.poll` — its next read.
-/

namespace Logbook

/-- A client that follows a log. -/
structure Tail where
  /-- The name of the log. -/
  log : String
  /-- The identifier behind which it goes on; without one, it starts at the first event. -/
  position : Option EventId
  /-- All that it has received. -/
  received : List Event := []
  deriving DecidableEq

namespace Tail

/-- What is asked for next. -/
def query (w : Tail) (limit : Nat) : Query :=
  { cursor := w.position, limit, direction := .forward }

/-- Takes what a read has found. -/
def take (w : Tail) (events : List Event) : Tail where
  log := w.log
  position := (events.getLast?.map (·.id)).or w.position
  received := w.received ++ events

/-- Reads up to `limit` events from behind the last; a read that fails changes nothing. -/
def poll (w : Tail) (store : Store) (limit : Nat) : Tail :=
  match store.read w.log (w.query limit) with
  | .ok events => w.take events
  | .error _ => w

/-- Each look reads as many events as it has in mind. -/
instance : Observer Tail Nat := ⟨poll⟩

theorem look_eq (w : Tail) (store : Store) (limit : Nat) :
    Observer.look w store limit = w.poll store limit := rfl

end Tail

end Logbook
