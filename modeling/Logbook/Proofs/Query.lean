import Logbook.Proofs.Cursor
import Logbook.Proofs.Filter
import Logbook.Proofs.Reference
import Logbook.Proofs.Store

/-!
# What is read from one log

A read walks through a range of keys, from one of its ends, and stops at the last event that there is room for.  What it
finds is said without keys: of all events in the table, those of the log that match are put in order, and as many as
there is room for are kept at the end where the walk starts.  Neither the rows of other logs nor those that do not match
take up any room.

## Main definitions

* `Table.Encoded` — a table of the entries of events.
* `Query.Matches` — what a query asks of an event.

## Main results

* `Table.events_filter_log` — the events of a log are those with its name.
* `Store.read_answers` — **what is read from one log.**
-/

namespace Logbook

/-- Every row of a table is the entry of an event of a log. -/
def Table.Encoded (t : Table) : Prop :=
  ∀ r ∈ t.entries, ∃ (log : String) (id : EventId) (timestamp : Instant) (message : Bytes),
    LogName.Valid log ∧ r.1 = Entry.key log id ∧ Entry.value timestamp message = .ok r.2

/-- What a query asks of an event: it stands on the side of the cursor to which the direction leads, and its message
holds the text of the filter, in lower case. -/
structure Query.Matches (q : Query) (e : Event) : Prop where
  /-- The event lies beyond the cursor. -/
  beyond : ∀ id ∈ q.cursor, q.direction.Before id e.id
  /-- The message holds the text. -/
  holds : ∀ text ∈ q.filter, LowerCase.lower text.toList <:+: LowerCase.lower e.text.toList

namespace Query

variable {q : Query} {e : Event}

theorem matches_iff : q.Matches e ↔ q.admits e = true ∧ q.accepts e = true := by
  rw [admits_iff, accepts, Filter.accepts_iff]
  exact ⟨fun h => ⟨h.beyond, h.holds⟩, fun h => ⟨h.1, h.2⟩⟩

instance (q : Query) (e : Event) : Decidable (q.Matches e) := decidable_of_iff' _ matches_iff

theorem select_eq (q : Query) (events : List Event) : q.select events = events.filter fun e => q.Matches e := by
  apply List.filter_congr
  intro e _
  rw [Bool.eq_iff_iff, Bool.and_eq_true, decide_eq_true_iff, matches_iff]

end Query

namespace Table

variable {t : Table} {log : String}

theorem Encoded.sound (h : t.Encoded) : t.Sound := by
  intro r hr
  obtain ⟨log, id, timestamp, message, hlog, hkey, hvalue⟩ := h r hr
  obtain ⟨stored, hdecode, -⟩ := Entry.decode_of_value log id hvalue
  refine ⟨{ id, log, timestamp := stored, message }, hlog, hkey, ?_⟩
  rw [hkey]
  exact hdecode

theorem encoded_empty : Encoded .empty := nofun

/-- The entry of an event may be put into a table. -/
theorem Encoded.insert (h : t.Encoded) (hlog : LogName.Valid log) (id : EventId) (timestamp : Instant)
    {message value : Bytes} (hvalue : Entry.value timestamp message = .ok value) :
    Encoded (t.insert (Entry.key log id) value) := by
  intro r hr
  rcases mem_entries_insert.1 hr with rfl | ⟨-, hr⟩
  · exact ⟨log, id, timestamp, message, hlog, rfl, hvalue⟩
  · exact h r hr

/-- **The events of a log are those with its name.** -/
theorem events_filter_log (h : t.Sound) (hlog : LogName.Valid log) :
    t.events.filter (fun e => e.log = log) = t.eventsOf log := by
  have howns : ∀ r ∈ t.entries, ∀ e, Entry.event? r = some e → owns log r.1 = decide (e.log = log) := by
    intro r hr e he
    obtain ⟨e', hentry⟩ := h r hr
    obtain rfl : e' = e := Option.some.inj (hentry.event?_eq.symm.trans he)
    rw [Bool.eq_iff_iff, hentry.owns_iff hlog, decide_eq_true_iff, eq_comm]
  exact (filterMap_filter_comm howns).symm

end Table

namespace Store

variable {s : Store} {t : Table} {log : String}

/-- **What is read from one log.**  In a table of entries of any logs, a read of one of them finds the events of that
log that match, in the order of their identifiers: the first ones for a walk forward, the last ones for a walk
backward, and no more than the limit.  The cursors of each event stand at its own identifier. -/
theorem read_answers (htable : s.table? = some t) (hencoded : t.Encoded) (hlog : LogName.Valid log) (q : Query) :
    ∃ found, s.read log q = .ok found ∧
      found = Page.ofAll q.direction q.limit (t.events.filter fun e => e.log = log ∧ q.Matches e) ∧
      (found.Pairwise fun a b => a.id < b.id) ∧
      ∀ e ∈ found, Cursor.parse e.before.text = .ok (.backward e.id) ∧
        Cursor.parse e.after.text = .ok (.forward e.id) := by
  have hsound := hencoded.sound
  have hwanted : t.events.filter (fun e => e.log = log ∧ q.Matches e) = q.select (t.eventsOf log) := by
    rw [Query.select_eq, ← Table.events_filter_log hsound hlog, List.filter_filter]
    apply List.filter_congr
    intro e _
    rw [Bool.decide_and, Bool.and_comm]
  have hascending : (q.select (t.eventsOf log)).Pairwise fun a b => a.id < b.id :=
    (Table.pairwise_eventsOf hsound hlog).filter _
  have hsorted : (q.select (t.eventsOf log)).mergeSort (fun a b => decide (a.id ≤ b.id)) =
      q.select (t.eventsOf log) := by
    apply List.mergeSort_of_pairwise
    exact hascending.imp fun hlt => decide_eq_true (Nat.le_of_lt hlt)
  refine ⟨q.answer (t.eventsOf log), read_eq htable hsound hlog q, ?_, ?_, fun e _ => ⟨?_, ?_⟩⟩
  · rw [hwanted, Page.ofAll_eq_cut, hsorted, Query.answer]
  · exact hascending.sublist (Page.cut_sublist _ _ _)
  · exact Cursor.parse_text e.before
  · exact Cursor.parse_text e.after

/-- The cursor stands at an event of another log, whose name goes on with the byte behind the separator.  Of the events
beyond it the first one does not match, and for the last one there is no room. -/
theorem read_answers_neighbour :
    let one : Bytes := [111, 110, 101]
    let upper : Bytes := [79, 78, 69]
    let two : Bytes := [116, 119, 111]
    let id (n : Nat) : EventId := .ofParts n 0
    let t : Table := ((((SortedMap.empty.insert (Entry.key "a" (id 1)) (Entry.payload 1 one)).insert
      (Entry.key "a\x01" (id 2)) (Entry.payload 2 one)).insert (Entry.key "a" (id 3)) (Entry.payload 3 two)).insert
      (Entry.key "a" (id 4)) (Entry.payload 4 upper)).insert (Entry.key "a" (id 5)) (Entry.payload 5 one)
    let s : Store := { settings := {}, table? := some t }
    let q : Query := { cursor := some (id 2), limit := 1, direction := .forward, filter := some "one" }
    t.Encoded ∧ LogName.Valid "a" ∧ s.read "a" q = .ok [⟨id 4, "a", .ofNanos 4, upper⟩] := by
  intro one upper two id t s q
  have ha : LogName.Valid "a" := by decide
  have hvalue (n : Nat) (message : Bytes) (hn : (Instant.ofNanos n).nanos? = some n) :
      Entry.value (.ofNanos n) message = .ok (Entry.payload n message) := Entry.value_eq_ok_iff.2 ⟨n, hn, rfl⟩
  have hencoded : t.Encoded :=
    ((((Table.encoded_empty.insert ha (id 1) _ (hvalue 1 one rfl)).insert (by decide) (id 2) _
      (hvalue 2 one rfl)).insert ha (id 3) _ (hvalue 3 two rfl)).insert ha (id 4) _
      (hvalue 4 upper rfl)).insert ha (id 5) _ (hvalue 5 one rfl)
  obtain ⟨found, hread, hfound, -, -⟩ := read_answers (s := s) rfl hencoded ha q
  have hwanted : t.events.filter (fun e => e.log = "a" ∧ q.Matches e) =
      [⟨id 4, "a", .ofNanos 4, upper⟩, ⟨id 5, "a", .ofNanos 5, one⟩] := by
    decide +kernel
  have hsorted : ([⟨id 4, "a", .ofNanos 4, upper⟩, ⟨id 5, "a", .ofNanos 5, one⟩] : List Event).mergeSort
      (fun a b => decide (a.id ≤ b.id)) = [⟨id 4, "a", .ofNanos 4, upper⟩, ⟨id 5, "a", .ofNanos 5, one⟩] :=
    List.mergeSort_of_pairwise (by decide)
  have hone : Page.ofAll q.direction q.limit [⟨id 4, "a", .ofNanos 4, upper⟩, ⟨id 5, "a", .ofNanos 5, one⟩] =
      [⟨id 4, "a", .ofNanos 4, upper⟩] := by
    rw [Page.ofAll, hsorted]
    rfl
  rw [hfound, hwanted, hone] at hread
  exact ⟨hencoded, ha, hread⟩

end Store

end Logbook
