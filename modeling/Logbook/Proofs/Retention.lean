import Logbook.Json.Reading
import Logbook.Proofs.Eviction

/-!
# What evictions spare

An eviction leaves the newest event of a log as long as anything is to be kept.  A policy that is given as a number
keeps one event at least, and where nothing is said many events are kept.  But a policy that is read from a document is
taken as it is, and a document may say that nothing is kept.

## Main definitions

* `Retention.Origin` — where a policy comes from.
* `Retention.Spares` — evictions under a policy leave the newest event of each log.

## Main results

* `Retention.spares_iff` — they do unless nothing is kept.
* `Retention.Origin.spares_unless_none_kept` — **only a document can give a policy under which logs are emptied.**
-/

namespace Logbook

open LogName (Valid)

/-! ### What is left -/

/-- Where anything is kept of a list, its last element is. -/
theorem getLast?_drop_keep {α : Type} (l : List α) {keep : Nat} (h : 0 < keep) :
    (l.drop (l.length - keep)).getLast? = l.getLast? := by
  rw [List.getLast?_drop]
  split
  · cases l with
    | nil => rfl
    | cons a l =>
      rw [List.length_cons] at *
      omega
  · rfl

namespace Retention

/-! ### Policies that spare the newest events -/

/-- Whatever is evicted under the policy, the newest event of each log stays. -/
def Spares (r : Retention) : Prop :=
  ∀ (s : Store) (t : Table) (log : String) (e : Event), s.settings.retention = r → s.table? = some t → t.Sound →
    Valid log → (t.eventsOf log).getLast? = some e →
      ((s.evict log).2.eventsOf log).getLast? = some e ∧ (s.evictAll.2.eventsOf log).getLast? = some e

theorem spares_of_keep_pos {r : Retention} (h : 0 < r.keep) : r.Spares := by
  intro s t log e hr ht hsound hlog he
  subst hr
  rw [Store.eventsOf_evict ht hsound, Store.eventsOf_evictAll ht hsound hlog, getLast?_drop_keep _ h]
  exact ⟨he, he⟩

/-- The events that are kept may be none. -/
theorem keep_eq_zero_iff {r : Retention} : r.keep = 0 ↔ r.maxEvents = 0 :=
  UInt64.toNat_inj (b := 0)

/-- A table with one event. -/
def oneEvent : Table := SortedMap.empty.insert (Entry.key "a" .least) (Entry.payload 5 [104])

theorem isEntry_oneEvent :
    Entry.IsEntry (Entry.key "a" .least, Entry.payload 5 [104]) ⟨.least, "a", .ofNanos 5, [104]⟩ := by
  have hnanos : (Instant.ofNanos 5).nanos? = some 5 := rfl
  exact Entry.isEntry_key (by decide) .least hnanos [104]

theorem sound_oneEvent : oneEvent.Sound := Table.sound_empty.insert isEntry_oneEvent

theorem eventsOf_oneEvent : oneEvent.eventsOf "a" = [⟨.least, "a", .ofNanos 5, [104]⟩] := by
  have hnone : ∀ e ∈ Table.eventsOf .empty "a", e.id < EventId.least := by
    rw [Table.eventsOf_empty]
    exact nofun
  have hinsert := Table.eventsOf_insert Table.sound_empty isEntry_oneEvent hnone
  rwa [Table.eventsOf_empty] at hinsert

/-- **The newest events are spared unless nothing is kept.** -/
theorem spares_iff {r : Retention} : r.Spares ↔ r.maxEvents ≠ 0 := by
  rw [ne_eq, ← keep_eq_zero_iff, ← ne_eq, ← Nat.pos_iff_ne_zero]
  refine ⟨fun h => Nat.pos_of_ne_zero fun hzero => ?_, spares_of_keep_pos⟩
  -- without anything to keep, an eviction empties a log of one event
  let s : Store := { settings := { retention := r }, table? := some oneEvent }
  obtain ⟨hlast, -⟩ := h s oneEvent "a" _ rfl rfl sound_oneEvent (by decide) (by rw [eventsOf_oneEvent]; rfl)
  rw [Store.eventsOf_evict rfl sound_oneEvent, show s.settings.retention.keep = 0 from hzero, Nat.sub_zero,
    List.drop_length] at hlast
  cases hlast

/-! ### Where policies come from -/

/-- Where a policy comes from. -/
inductive Origin
  /-- A number is given. -/
  | given (max : UInt64)
  /-- Nothing is said. -/
  | unsaid
  /-- A document holds the policy. -/
  | document (text : String)
  /-- A document holds the settings of a store. -/
  | settings (text : String)
  deriving DecidableEq

/-- The policy that comes from there, if one does. -/
def Origin.policy? : Origin → Option Retention
  | .given max => some (.atMost max)
  | .unsaid => some default
  | .document text => Json.readText text >>= Retention.ofJson?
  | .settings text => (Json.readText text >>= StoreSettings.ofJson?).map (·.retention)

/-- A policy under which nothing is kept comes from a document. -/
theorem Origin.of_maxEvents_eq_zero {origin : Origin} {r : Retention} (h : origin.policy? = some r)
    (hzero : r.maxEvents = 0) : ∃ text, origin = .document text ∨ origin = .settings text := by
  cases origin with
  | given max =>
    obtain rfl := Option.some.inj h
    rw [atMost] at hzero
    split at hzero
    · cases hzero
    · contradiction
  | unsaid =>
    obtain rfl := Option.some.inj h
    cases hzero
  | document text => exact ⟨text, Or.inl rfl⟩
  | settings text => exact ⟨text, Or.inr rfl⟩

/-- **Only a document can give a policy under which logs are emptied**, and it does where it says that nothing is kept.
Under any other policy each log keeps its newest event, whether it is evicted by itself or with all logs. -/
theorem Origin.spares_unless_none_kept {origin : Origin} {r : Retention} (h : origin.policy? = some r) :
    (r.Spares ↔ r.maxEvents ≠ 0) ∧
      (r.maxEvents = 0 → ∃ text, origin = .document text ∨ origin = .settings text) :=
  ⟨spares_iff, of_maxEvents_eq_zero h⟩

/-- A document that says that two events are kept. -/
theorem Origin.spares_document_two :
    (Origin.document "\x7b\"max_events_per_log\":2\x7d").policy? = some ⟨2⟩ ∧ Retention.Spares ⟨2⟩ := by
  have h : (Origin.document "\x7b\"max_events_per_log\":2\x7d").policy? = some ⟨2⟩ := by decide +kernel
  exact ⟨h, (Origin.spares_unless_none_kept h).1.2 (by decide)⟩

/-- A document that says that nothing is kept.  An eviction empties a log of one event, by itself or with all logs. -/
theorem Origin.empties_document_zero :
    let s : Store := { settings := { retention := ⟨0⟩ }, table? := some oneEvent }
    (Origin.document "\x7b\"max_events_per_log\":0\x7d").policy? = some s.settings.retention ∧
      s.eventsOf "a" = [⟨.least, "a", .ofNanos 5, [104]⟩] ∧ (s.evict "a").2.eventsOf "a" = [] ∧
        s.evictAll.2.eventsOf "a" = [] := by
  intro s
  have hevents : (oneEvent.eventsOf "a").drop ((oneEvent.eventsOf "a").length - s.settings.retention.keep) = [] := by
    rw [eventsOf_oneEvent]
    rfl
  refine ⟨by decide +kernel, eventsOf_oneEvent, ?_, ?_⟩
  · rw [Store.eventsOf_evict rfl sound_oneEvent, hevents]
  · rw [Store.eventsOf_evictAll rfl sound_oneEvent (by decide), hevents]

end Retention
end Logbook
