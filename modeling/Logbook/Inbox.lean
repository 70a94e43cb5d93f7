import Logbook.Error

/-!
# Inboxes

One keeper owns a state and serves requests to it, one at a time and in the order in which they came.
Clients leave requests in the keeper's inbox, which holds only so many; a request that finds it full is
refused at once.  The keeper leaves when it is cancelled, when a failure has been reported, or when all
handles to the inbox are gone and nothing waits any more.  Whoever still waits then, or comes later, is
told that the inbox is cancelled, and its request is never served.

## Main definitions

* `Request` — what a client wants done to the state.
* `Inbox` — an inbox with its keeper and the state.
* `Inbox.send`, `Inbox.fail`, `Inbox.cancel`, `Inbox.clone`, `Inbox.release` — what clients do.
* `Inbox.turn`, `Inbox.drain` — what the keeper does.
* `Inbox.Move`, `Inbox.after` — all of this in one type, for runs in any order.
* `Inbox.burst` — the outcomes of requests that come all at once.
-/

namespace Logbook

/-- What a request does beside changing the state. -/
inductive Signal
  /-- It cancels the inbox. -/
  | cancel
  /-- It reports a failure. -/
  | fail (reason : String)
  deriving DecidableEq, Repr

/-- What a client wants done to the state, with the answer that it wants to have. -/
structure Request (σ α : Type) where
  /-- The answer and the new state. -/
  act : σ → α × σ
  /-- What the request does beside. -/
  signal : Option Signal := none

/-- What has become of a request. -/
inductive Outcome (α : Type)
  /-- It waits in the inbox. -/
  | waiting
  /-- It has been served. -/
  | served (answer : α)
  /-- It has not been served and never will be. -/
  | refused (error : InboxError)
  deriving DecidableEq, Repr

/-- What the keeper looks for next. -/
inductive Watch
  /-- Whether it is cancelled. -/
  | cancellation
  /-- Whether a failure has been reported. -/
  | failure
  /-- Whether a request waits. -/
  | request
  deriving DecidableEq, Repr

/-- What the keeper is at. -/
inductive Keeper
  /-- It serves, or will do so. -/
  | serving (next : Watch)
  /-- It has closed the inbox, perhaps because of a failure, and refuses the requests that still wait. -/
  | closing (failure : Option String)
  /-- It has left and handed the state back, perhaps because of a failure. -/
  | left (failure : Option String)
  /-- It was dropped together with the state. -/
  | dropped
  deriving DecidableEq, Repr

/-- An inbox with its keeper. -/
structure Inbox (σ α : Type) where
  /-- The state that the keeper owns. -/
  state : σ
  /-- The number of requests that may wait. -/
  capacity : Nat
  /-- The number of handles to the inbox. -/
  handles : Nat := 1
  /-- The requests that wait, oldest first, each with its number. -/
  queue : List (Nat × Request σ α) := []
  /-- What has become of each request, by number. -/
  outcomes : List (Outcome α) := []
  /-- The failure that was reported first. -/
  failure : Option String := none
  /-- Whether the keeper is to leave. -/
  cancelled : Bool := false
  /-- What the keeper is at. -/
  keeper : Keeper := .serving .cancellation

namespace Inbox

variable {σ α : Type}

/-- The greatest number of requests that there can be an inbox for. -/
def largestCapacity : Nat := 0x1fffffffffffffff

/-- An inbox for `capacity` requests, and for one at least. -/
def new (state : σ) (capacity : Nat) : Inbox σ α := { state, capacity := max capacity 1 }

/-! ### Clients -/

/-- Whether requests are no longer taken. -/
def isClosed (b : Inbox σ α) : Bool :=
  match b.keeper with
  | .serving _ => false
  | _ => true

/-- Why a request is not taken, if it is not. -/
def refusal (b : Inbox σ α) : Option InboxError :=
  if b.isClosed then some .cancelled
  else if b.capacity ≤ b.queue.length then some .full
  else none

/-- Leaves a request in the inbox.  Requests are numbered in the order in which they come, those that
are refused included. -/
def send (b : Inbox σ α) (r : Request σ α) : Inbox σ α :=
  match b.refusal with
  | some error => { b with outcomes := b.outcomes ++ [.refused error] }
  | none => { b with
      queue := b.queue ++ [(b.outcomes.length, r)]
      outcomes := b.outcomes ++ [.waiting] }

/-- Reports a failure; only the first is kept. -/
def fail (b : Inbox σ α) (reason : String) : Inbox σ α :=
  { b with failure := b.failure.or (some reason) }

/-- Cancels the inbox. -/
def cancel (b : Inbox σ α) : Inbox σ α := { b with cancelled := true }

/-- Makes another handle. -/
def clone (b : Inbox σ α) : Inbox σ α := { b with handles := b.handles + 1 }

/-- Drops a handle. -/
def release (b : Inbox σ α) : Inbox σ α := { b with handles := b.handles - 1 }

/-! ### The keeper -/

/-- Notes what has become of a request. -/
def settle (b : Inbox σ α) (number : Nat) (outcome : Outcome α) : Inbox σ α :=
  { b with outcomes := b.outcomes.set number outcome }

/-- What a request does beside changing the state. -/
def signalled (b : Inbox σ α) : Option Signal → Inbox σ α
  | none => b
  | some .cancel => b.cancel
  | some (.fail reason) => b.fail reason

/-- Serves a request. -/
def serve (b : Inbox σ α) (number : Nat) (r : Request σ α) : Inbox σ α :=
  let (answer, state) := r.act b.state
  ({ b with state }.settle number (.served answer)).signalled r.signal

/-- Refuses the request that has waited longest. -/
def refuse (b : Inbox σ α) : Inbox σ α :=
  match b.queue with
  | (number, _) :: rest => { b with queue := rest }.settle number (.refused .cancelled)
  | [] => b

/-- The keeper closes the inbox, because it is about to leave. -/
def close (b : Inbox σ α) (failure : Option String) : Inbox σ α :=
  { b with keeper := .closing failure }

/-- The keeper is dropped.  It can be dropped only where it waits, and it waits for nothing once it has
closed the inbox. -/
def drop (b : Inbox σ α) : Inbox σ α :=
  if b.isClosed then b else b.queue.length.repeat refuse { b with keeper := .dropped }

/-- One step of the keeper.  To leave when it is cancelled comes before a failure, and that before the
next request. -/
def turn (b : Inbox σ α) : Inbox σ α :=
  match b.keeper with
  -- From the decision to leave up to the closing the keeper looks at nothing that a client can change.  So
  -- the two are one step, and a request that comes in between counts as one that came just before.
  | .serving .cancellation =>
    if b.cancelled then b.close none else { b with keeper := .serving .failure }
  | .serving .failure =>
    match b.failure with
    | some reason => b.close (some reason)
    | none => { b with keeper := .serving .request }
  | .serving .request =>
    match b.queue with
    | (number, r) :: rest => { b with queue := rest, keeper := .serving .cancellation }.serve number r
    | [] => if b.handles = 0 then b.close none else { b with keeper := .serving .cancellation }
  | .closing failure => if b.queue.isEmpty then { b with keeper := .left failure } else b.refuse
  | .left _ | .dropped => b

/-- A number of turns. -/
def turns : Nat → Inbox σ α → Inbox σ α
  | 0, b => b
  | n + 1, b => turns n b.turn

/-- Turns until nothing waits or the keeper has left.  It takes three to serve a request, three more to
find that none waits, and at most one for each request, and one more, to leave. -/
def drain (b : Inbox σ α) : Inbox σ α := turns (3 * (b.queue.length + 2)) b

/-! ### Runs -/

/-- Anything that happens to an inbox. -/
inductive Move (σ α : Type)
  /-- A client leaves a request. -/
  | send (r : Request σ α)
  /-- A client reports a failure. -/
  | fail (reason : String)
  /-- Somebody cancels the inbox. -/
  | cancel
  /-- A handle is made. -/
  | clone
  /-- A handle is dropped. -/
  | release
  /-- The keeper takes a turn. -/
  | turn
  /-- The keeper is dropped. -/
  | drop

/-- The inbox after a move. -/
def after (b : Inbox σ α) : Move σ α → Inbox σ α
  | .send r => b.send r
  | .fail reason => b.fail reason
  | .cancel => b.cancel
  | .clone => b.clone
  | .release => b.release
  | .turn => b.turn
  | .drop => b.drop

/-- The inbox after some moves. -/
def run (b : Inbox σ α) (moves : List (Move σ α)) : Inbox σ α := moves.foldl after b

/-- The outcomes of requests that come all at once to an empty inbox, before its keeper takes a turn, and
the state when all are served that found room. -/
def burst (capacity : Nat) (state : σ) (requests : List (Request σ α)) : List (Outcome α) × σ :=
  let b := (requests.foldl send (new state capacity)).drain
  (b.outcomes, b.state)

end Inbox

end Logbook
