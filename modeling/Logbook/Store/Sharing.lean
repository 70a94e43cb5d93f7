import Logbook.Store

/-!
# A store with several clients

Clients of one store work at the same time, each on an errand of its own, and the steps of their errands
come in any order.  A write transaction is held by one client at a time; who wants one waits until it is
free.  What a client reads is the table as it was last committed.

## Main definitions

* `Errand`, `Stage` — what a client wants, and how far it has come.
* `SharedStore` — a store and its clients.
* `SharedStore.step` — the next step of one client.
* `SharedStore.run` — steps of clients in any order.
* `SharedStore.appended` — the events that they commit.
-/

namespace Logbook

/-- What a client wants of a store. -/
inductive Errand
  /-- To add an event to a log. -/
  | add (log : String) (timestamp : Instant) (message : Bytes)
  /-- To remove the events of a log but for the newest `keep`. -/
  | trim (log : String) (keep : Nat)
  /-- To remove the events of a log that are too many. -/
  | evict (log : String)
  deriving DecidableEq

/-- What is changed within a write transaction. -/
inductive Change
  /-- A new event of a log, with its value. -/
  | append (log : String) (value : Bytes)
  /-- The events of a log go but for the newest `keep`. -/
  | trim (log : String) (keep : Nat)
  deriving DecidableEq

/-- What a client has got. -/
inductive Gain
  /-- The identifier of the new event. -/
  | added (id : EventId)
  /-- The number of events that were removed. -/
  | removed (count : Nat)
  deriving DecidableEq

/-- How far a client has come with its errand. -/
inductive Stage
  /-- It has not begun. -/
  | ready (errand : Errand)
  /-- It waits for the write transaction. -/
  | waiting (change : Change)
  /-- It holds the write transaction, and nothing has been changed yet. -/
  | holding (change : Change) (draft : Draft)
  /-- It has minted the identifier of a new event. -/
  | minted (log : String) (value : Bytes) (id : EventId) (draft : Draft)
  /-- It has added the row of the new event. -/
  | inserted (log : String) (value : Bytes) (id : EventId) (draft : Draft)
  /-- It has removed events. -/
  | trimmed (count : Nat) (draft : Draft)
  /-- It is through with its errand. -/
  | finished (result : Except StoreError Gain)

/-- A store and its clients. -/
structure SharedStore where
  /-- The store, with the table that was committed last. -/
  store : Store
  /-- The client that holds the write transaction. -/
  holder : Option Nat := none
  /-- The clients, by number. -/
  clients : List Stage

namespace SharedStore

/-- The store with another stage of one client. -/
def moveTo (s : SharedStore) (client : Nat) (stage : Stage) : SharedStore :=
  { s with clients := s.clients.set client stage }

/-- The store when a client that holds the write transaction gives it back. -/
def giveBack (s : SharedStore) (client : Nat) (result : Except StoreError Gain) : SharedStore :=
  { s.moveTo client (.finished result) with holder := none }

/-- The first stage of an errand: what can be said before a write transaction is wanted. -/
def firstStage (store : Store) : Errand → Stage
  | .add log timestamp message => match Store.valueOf log timestamp message with
    | .ok value => .waiting (.append log value)
    | .error error => .finished (.error error)
  | .trim log keep => .waiting (.trim log keep)
  | .evict log => match store.table with
    | .error error => .finished (.error error)
    | .ok t =>
      if Store.overfull store.settings.retention t log then
        .waiting (.trim log store.settings.retention.keep)
      else .finished (.ok (.removed 0))

/-- The next step of a client, with what the world supplies at that moment.  A client that has to wait, or
that is through, stays as it is. -/
def step (s : SharedStore) (client : Nat) (draw : Draw) : SharedStore :=
  match s.clients[client]? with
  | none | some (.finished _) => s
  | some (.ready errand) => s.moveTo client (firstStage s.store errand)
  | some (.waiting change) =>
    if s.holder.isSome then s
    else match s.store.begin with
      | .ok draft => { s.moveTo client (.holding change draft) with holder := some client }
      | .error error => s.moveTo client (.finished (.error error))
  | some (.holding (.append log value) draft) =>
    match s.store.mint draw with
    | (.ok id, store) => { s.moveTo client (.minted log value id draft) with store }
    | (.error error, store) => { s.giveBack client (.error error) with store }
  | some (.holding (.trim log keep) draft) =>
    let (draft, removed) := draft.trim log keep
    s.moveTo client (.trimmed removed draft)
  | some (.minted log value id draft) =>
    s.moveTo client (.inserted log value id (draft.insert (Entry.key log id) value))
  | some (.inserted _ _ id draft) =>
    { s.giveBack client (.ok (.added id)) with store := s.store.commit draft }
  | some (.trimmed count draft) =>
    { s.giveBack client (.ok (.removed count)) with store := s.store.commit draft }

/-- The event that the next step of a client commits, if it commits one. -/
def commits (s : SharedStore) (client : Nat) : List Event :=
  match s.clients[client]? with
  | some (.inserted log value id _) => (Entry.decode (Entry.key log id) value).toOption.toList
  | _ => []

/-- Steps of clients in any order, each with what the world supplies at that moment. -/
def run (s : SharedStore) (steps : List (Nat × Draw)) : SharedStore :=
  steps.foldl (fun s n => s.step n.1 n.2) s

/-- The events that are committed by steps of clients, in the order in which they are. -/
def appended (s : SharedStore) : List (Nat × Draw) → List Event
  | [] => []
  | (client, draw) :: steps => s.commits client ++ (s.step client draw).appended steps

@[simp] theorem run_nil (s : SharedStore) : s.run [] = s := rfl

@[simp] theorem run_cons (s : SharedStore) (client : Nat) (draw : Draw)
    (steps : List (Nat × Draw)) : s.run ((client, draw) :: steps) = (s.step client draw).run steps :=
  rfl

end SharedStore

end Logbook
