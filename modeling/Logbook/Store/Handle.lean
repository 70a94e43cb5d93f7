import Logbook.Store

/-!
# Handles of logs

Whoever has opened a store hands out handles, one for each log and as many as are wanted.  All that is asked
through them comes to the one store, in some order.

## Main definitions

* `HandleCall`, `HandleAnswer` — what is asked of a handle, and what it answers.
* `HandleRequest` — a call on the handle of a log, with what the world supplies at that moment.
* `Store.serve`, `Store.serveAll` — one request, and requests one after another.
-/

namespace Logbook

/-- What is asked of the handle of a log. -/
inductive HandleCall
  /-- To add an event. -/
  | add (timestamp : Instant) (message : Bytes)
  /-- To show the newest event. -/
  | last
  /-- To count the events. -/
  | count
  /-- To remove the events that are too many. -/
  | evict
  /-- To remove all events. -/
  | clear
  /-- To read up to `limit` events from the end that the direction starts at. -/
  | read (direction : Direction) (limit : Nat)
  deriving DecidableEq

/-- What a handle answers. -/
inductive HandleAnswer
  /-- The identifier of the new event. -/
  | added (id : EventId)
  /-- The newest event, if there is one. -/
  | last (event : Option Event)
  /-- The number of events. -/
  | counted (count : Nat)
  /-- The number of events that were removed. -/
  | removed (count : Nat)
  /-- The events that were read, in ascending order. -/
  | events (events : List Event)
  deriving DecidableEq

/-- A call on the handle of a log. -/
structure HandleRequest where
  /-- The name of the log. -/
  log : String
  /-- What is asked. -/
  call : HandleCall
  /-- What the world supplies at that moment. -/
  draw : Draw

namespace Store

/-- Carries out a request. -/
def serve (s : Store) (r : HandleRequest) : Except StoreError HandleAnswer × Store :=
  match r.call with
  | .add timestamp message =>
    let (result, s) := s.add r.log timestamp message r.draw
    (result.map .added, s)
  | .last => ((s.lastEvent r.log).map .last, s)
  | .count => ((s.count r.log).map .counted, s)
  | .evict =>
    let (result, s) := s.evict r.log
    (result.map .removed, s)
  | .clear =>
    let (result, s) := s.clear r.log
    (result.map .removed, s)
  | .read direction limit => ((s.read r.log { limit, direction }).map .events, s)

/-- Carries out requests one after another. -/
def serveAll (s : Store) : List HandleRequest → List (Except StoreError HandleAnswer) × Store
  | [] => ([], s)
  | r :: rest =>
    let (answer, s) := s.serve r
    let (answers, s) := s.serveAll rest
    (answer :: answers, s)

end Store

end Logbook
