import Logbook.Proofs.Routing
import Logbook.Proofs.Store

/-!
# What a listener adds to a collector

Whatever a packet holds, it does not stop the listener.  A packet is dropped without a trace, or its entry becomes one
event: the reader and the router admit only names and instants that the collector and the store accept as well, so
neither of them turns an entry down.  Only a listener that finds no buffer for its packets stops, before it has received
any.

## Main definitions

* `Syslog.entriesOf` — the entries of packets.
* `Syslog.Entry.toEvent`, `Table.recordAll` — the event of an entry, and a table with the rows of events.
* `Generator.Mints` — the identifiers that a generator mints one after another.

## Main results

* `Syslog.accepts_entryOf` — collector and store accept what packets add.
* `Generator.Mints.ascending` — what is minted ascends.
* `Table.eventsOf_recordAll` — events with ascending identifiers are appended to their logs.
* `Syslog.receive_eq`, `Syslog.receiveAll_eq` — one packet, and several.
* `Syslog.listen_records` — **packets one after another.**
* `Syslog.listen_of_large` — a listener without a buffer.
-/

namespace Logbook

/-! ### Minting one after another -/

namespace Generator

/-- With entropy, a generator mints. -/
theorem next_ok (g : Generator) (now : Nat) (entropy : Fin entropyBound) :
    ∃ id g', g.next now (.ok entropy) = (.ok id, g') := by
  rw [next]
  split
  · exact ⟨_, _, rfl⟩
  · split
    · split
      · exact ⟨_, _, rfl⟩
      · exact ⟨_, _, rfl⟩
    · exact ⟨_, _, rfl⟩

/-- Whether a generator mints identifiers, each with the next draw, and is left as another. -/
inductive Mints : Generator → Supply → List EventId → Generator → Prop
  /-- Nothing is minted. -/
  | nil {g : Generator} {s : Supply} : Mints g s [] g
  /-- An identifier before others. -/
  | cons {g g' g'' : Generator} {s : Supply} {id : EventId} {ids : List EventId} :
      g.next s.head.now.millis s.head.entropy = (.ok id, g') → Mints g' s.tail ids g'' → Mints g s (id :: ids) g''

theorem Mints.inRange {g g' : Generator} {s : Supply} {ids : List EventId} (h : Mints g s ids g')
    (hrange : g'.InRange) : g.InRange := by
  induction h with
  | nil => exact hrange
  | @cons g g₁ g₂ s id ids hnext hrest ih =>
    have hminted : (g.next s.head.now.millis s.head.entropy).2.InRange := by
      rw [hnext]
      exact ih hrange
    exact inRange_of_next hminted

/-- **What is minted ascends**, and is above what was minted before. -/
theorem Mints.ascending {g g' : Generator} {s : Supply} {ids : List EventId} (h : Mints g s ids g')
    (hrange : g'.InRange) : ids.Pairwise (· < ·) ∧ ∀ i ∈ g.lastId?, ∀ id ∈ ids, i < id := by
  induction h with
  | nil => exact ⟨List.Pairwise.nil, fun i hi id hid => nomatch hid⟩
  | @cons g g₁ g₂ s id ids hnext hrest ih =>
    obtain ⟨hpairwise, habove⟩ := ih hrange
    have hid := habove id (lastId?_of_next hnext)
    refine ⟨List.pairwise_cons.2 ⟨hid, hpairwise⟩, fun i hi => ?_⟩
    have hlt := lt_of_next hnext (hrest.inRange hrange) i hi
    intro id' hid'
    rcases List.mem_cons.1 hid' with rfl | hid'
    · exact hlt
    · exact Nat.lt_trans hlt (hid id' hid')

end Generator

/-! ### Rows of events -/

/-- The row that an event is stored in. -/
def Event.row (e : Event) : Row :=
  (Entry.key e.log e.id, Entry.payload e.timestamp.totalNanos.toNat e.message)

/-- An event of a log with an instant that is read back is read back. -/
theorem Event.isEntry_row {id : EventId} {log : String} (hlog : LogName.Valid log) {timestamp : Instant} {n : Nat}
    (hn : timestamp.nanos? = some n) (message : Bytes) :
    Entry.IsEntry (Event.row ⟨id, log, .ofNanos n, message⟩) ⟨id, log, .ofNanos n, message⟩ := by
  have hrow := Entry.isEntry_key hlog id hn message
  rw [Event.row, Instant.totalNanos_ofNanos]
  exact hrow

namespace Table

/-- The table with the row of an event. -/
def record (t : Table) (e : Event) : Table := t.insert e.row.1 e.row.2

/-- The table with the rows of events, one after another. -/
def recordAll (t : Table) (events : List Event) : Table := events.foldl record t

section Record

variable {t : Table} {e : Event} (hsound : t.Sound) (he : Entry.IsEntry e.row e)
include he

include hsound in
theorem Sound.record : (t.record e).Sound := hsound.insert he

include hsound in
theorem eventsOf_record (hids : ∀ e' ∈ t.eventsOf e.log, e'.id < e.id) :
    (t.record e).eventsOf e.log = t.eventsOf e.log ++ [e] := eventsOf_insert hsound he hids

theorem eventsOf_record_of_ne {log : String} (hlog : LogName.Valid log) (hne : log ≠ e.log) :
    (t.record e).eventsOf log = t.eventsOf log := eventsOf_insert_of_ne he hlog hne

end Record

/-- **Events with ascending identifiers are appended to their logs**, if those in the table are below. -/
theorem eventsOf_recordAll {events : List Event} : ∀ {t : Table}, t.Sound →
    (∀ e ∈ events, Entry.IsEntry e.row e) → events.Pairwise (fun e e' => e.id < e'.id) →
      (∀ log, LogName.Valid log → ∀ e ∈ t.eventsOf log, ∀ e' ∈ events, e.id < e'.id) →
        ∀ {log : String}, LogName.Valid log →
          (t.recordAll events).eventsOf log = t.eventsOf log ++ events.filter fun e => e.log = log := by
  induction events with
  | nil =>
    intro t _ _ _ _ log _
    exact (List.append_nil _).symm
  | cons e events ih =>
    intro t hsound hentries hascending habove log hlog
    obtain ⟨he, hentries⟩ := List.forall_mem_cons.1 hentries
    obtain ⟨hfirst, hascending⟩ := List.pairwise_cons.1 hascending
    have hself := eventsOf_record hsound he fun e' he' => habove e.log he.valid e' he' e List.mem_cons_self
    -- the events to come stay above those in the table, now with the first among them
    have hbelow : ∀ log, LogName.Valid log → ∀ e' ∈ (t.record e).eventsOf log, ∀ e'' ∈ events, e'.id < e''.id := by
      intro log hlog e' he' e'' he''
      by_cases heq : log = e.log
      · rw [heq, hself, List.mem_append, List.mem_singleton] at he'
        rcases he' with he' | rfl
        · exact habove e.log he.valid e' he' e'' (List.mem_cons_of_mem _ he'')
        · exact hfirst e'' he''
      · rw [eventsOf_record_of_ne he hlog heq] at he'
        exact habove log hlog e' he' e'' (List.mem_cons_of_mem _ he'')
    show ((t.record e).recordAll events).eventsOf log = _
    rw [ih (hsound.record he) hentries hascending hbelow hlog]
    by_cases heq : log = e.log
    · rw [heq, hself, List.append_assoc, List.filter_cons_of_pos (by rw [decide_eq_true_iff]), List.singleton_append]
    · rw [eventsOf_record_of_ne he hlog heq, List.filter_cons_of_neg (by rw [decide_eq_true_iff]; exact Ne.symm heq)]

end Table

namespace Syslog

/-! ### Entries and their events -/

/-- The entries of packets, in the order in which these arrive, each as far as it is within the greatest size.  Packets
without one are left out. -/
def entriesOf (s : SyslogSettings) (packets : List Bytes) : List Entry :=
  packets.filterMap fun packet => (entryOf (packet.take (max s.maxPacketSize 1))).toOption

/-- The event that is stored for an entry, with as many bytes of its message as there may be. -/
def Entry.toEvent (maxSize : Nat) (e : Entry) (id : EventId) : Event where
  id := id
  log := e.log
  timestamp := .ofNanos e.timestamp.totalNanos.toNat
  message := e.message.take maxSize

/-- **Collector and store accept what packets add.** -/
theorem accepts_entryOf {packet : Bytes} {e : Entry} (h : entryOf packet = .ok e) (message : Bytes) :
    Collector.checkEvent e.log e.timestamp = .ok () ∧ ∃ v, Store.valueOf e.log e.timestamp message = .ok v := by
  obtain ⟨hlog, hnanos⟩ := entryOf_valid h
  obtain ⟨n, hn⟩ := Option.ne_none_iff_exists'.1 hnanos
  constructor
  · rw [Collector.checkEvent, LogName.check, if_pos hlog]
    show (if e.timestamp.nanos? = none then _ else _) = _
    rw [if_neg hnanos]
    rfl
  · exact ⟨_, (Store.valueOf_eq hlog _ _).trans (Logbook.Entry.value_eq_ok_iff.2 ⟨n, hn, rfl⟩)⟩

theorem isEntry_toEvent {packet : Bytes} {e : Entry} (h : entryOf packet = .ok e) (maxSize : Nat) (id : EventId) :
    Logbook.Entry.IsEntry (e.toEvent maxSize id).row (e.toEvent maxSize id) := by
  obtain ⟨hlog, hnanos⟩ := entryOf_valid h
  obtain ⟨n, hn⟩ := Option.ne_none_iff_exists'.1 hnanos
  have hcount := (Instant.nanos?_eq_some_iff.1 hn).1
  rw [Entry.toEvent, hcount]
  exact Event.isEntry_row hlog hn _

theorem exists_of_mem_entriesOf {s : SyslogSettings} {packets : List Bytes} {e : Entry}
    (h : e ∈ entriesOf s packets) : ∃ packet, entryOf packet = .ok e := by
  obtain ⟨packet, -, he⟩ := List.mem_filterMap.1 h
  cases hentry : entryOf (packet.take (max s.maxPacketSize 1)) with
  | error error => rw [hentry] at he; cases he
  | ok e' =>
    rw [hentry] at he
    obtain rfl : e' = e := Option.some.inj he
    exact ⟨_, hentry⟩

section Events

variable {maxSize : Nat} {entries : List Entry} {ids : List EventId}

theorem exists_of_mem_events {event : Event} (h : event ∈ List.zipWith (Entry.toEvent maxSize) entries ids) :
    ∃ e ∈ entries, ∃ id ∈ ids, event = e.toEvent maxSize id := by
  rw [← List.map_uncurry_zip_eq_zipWith] at h
  obtain ⟨⟨e, id⟩, hmem, rfl⟩ := List.mem_map.1 h
  obtain ⟨he, hid⟩ := List.of_mem_zip hmem
  exact ⟨e, he, id, hid, rfl⟩

theorem map_id_events (hlength : ids.length = entries.length) :
    (List.zipWith (Entry.toEvent maxSize) entries ids).map (·.id) = ids := by
  rw [← List.map_uncurry_zip_eq_zipWith, List.map_map]
  exact List.map_snd_zip (Nat.le_of_eq hlength)

end Events

/-! ### Packets -/

/-- A running collector when its generator and its table have become others. -/
def holding (c : Collector) (crew : Crew) (store : Store) (g : Generator) (t : Table) : Collector :=
  { c with phase := .running crew { store with generator := g, table? := some t } }

/-- The world when a number of identifiers have been minted. -/
def drawn (w : World) (count : Nat) : World := { w with supply := { w.supply with used := w.supply.used + count } }

section Packets

variable {s : SyslogSettings} {c : Collector} {crew : Crew} {store : Store} {t : Table} {w : World}

theorem receive_of_error {packet : Bytes} {error : SyslogError}
    (h : entryOf (packet.take (max s.maxPacketSize 1)) = .error error) : receive s packet c w = (.ok (), c, w) := by
  rw [receive, received, h]

/-- One packet with an entry adds one event. -/
theorem receive_eq (hphase : c.phase = .running crew store) (ht : store.table? = some t) {packet : Bytes} {e : Entry}
    (h : entryOf (packet.take (max s.maxPacketSize 1)) = .ok e) {entropy : Fin entropyBound}
    (hentropy : w.supply.head.entropy = .ok entropy) :
    ∃ id g, store.generator.next w.supply.head.now.millis w.supply.head.entropy = (.ok id, g) ∧
      receive s packet c w =
        (.ok (), holding c crew store g (t.record (e.toEvent c.settings.maxMessageSize id)), drawn w 1) := by
  obtain ⟨hlog, hnanos⟩ := entryOf_valid h
  have hcheck := (accepts_entryOf h []).1
  have hservice : c.service = .ok (crew, store) := by rw [Collector.service, hphase]
  rcases Store.add_cases ht hlog e.timestamp (e.message.take c.settings.maxMessageSize) w.supply.head with
    ⟨hnone, -⟩ | ⟨n, hn, ⟨error, hnext, -⟩ | ⟨id, g, hnext, hadd⟩⟩
  · exact absurd hnone hnanos
  · -- entropy is there
    obtain ⟨id, g, hok⟩ := store.generator.next_ok w.supply.head.now.millis entropy
    rw [hentropy, hok] at hnext
    cases hnext
  · refine ⟨id, g, hnext, ?_⟩
    have hcount : (Instant.ofNanos n).totalNanos.toNat = n := by rw [Instant.totalNanos_ofNanos]; rfl
    rw [receive, received, h]
    simp only [Collector.addEvent, hcheck, hservice, truncate, hadd]
    rw [Table.record, Event.row, Entry.toEvent, (Instant.nanos?_eq_some_iff.1 hn).1]
    simp only [Int.toNat_natCast, hcount]
    rfl

/-- Packets one after another. -/
theorem receiveAll_eq (hphase : c.phase = .running crew store) (ht : store.table? = some t)
    (hentropy : ∀ n, w.supply.used ≤ n → ∃ entropy, (w.supply.draws n).entropy = .ok entropy) (packets : List Bytes) :
    ∃ ids g, store.generator.Mints w.supply ids g ∧ ids.length = (entriesOf s packets).length ∧
      receiveAll s c w packets = (.ok (),
        holding c crew store g
          (t.recordAll (List.zipWith (Entry.toEvent c.settings.maxMessageSize) (entriesOf s packets) ids)),
        drawn w ids.length) := by
  induction packets generalizing c store t w with
  | nil =>
    refine ⟨[], store.generator, .nil, rfl, ?_⟩
    obtain ⟨settings, phase, strays⟩ := c
    obtain ⟨storeSettings, generator, table⟩ := store
    obtain rfl : phase = _ := hphase
    obtain rfl : table = _ := ht
    rfl
  | cons packet rest ih =>
    rw [receiveAll]
    cases hentry : entryOf (packet.take (max s.maxPacketSize 1)) with
    | error error =>
      have hentries : entriesOf s (packet :: rest) = entriesOf s rest :=
        List.filterMap_cons_none (by rw [hentry]; rfl)
      rw [receive_of_error hentry, hentries]
      exact ih hphase ht hentropy
    | ok e =>
      have hentries : entriesOf s (packet :: rest) = e :: entriesOf s rest :=
        List.filterMap_cons_some (by rw [hentry]; rfl)
      obtain ⟨entropy, hhead⟩ := hentropy _ (Nat.le_refl _)
      obtain ⟨id, g, hnext, hreceive⟩ := receive_eq hphase ht hentry hhead
      have hrest : ∀ n, (drawn w 1).supply.used ≤ n → ∃ entropy, ((drawn w 1).supply.draws n).entropy = .ok entropy :=
        fun n hn => hentropy n (Nat.le_of_succ_le hn)
      -- the rest reaches the collector that the first packet leaves behind
      obtain ⟨ids, g', hmints, hlength, hlisten⟩ :=
        ih (c := holding c crew store g (t.record (e.toEvent c.settings.maxMessageSize id))) rfl rfl hrest
      refine ⟨id :: ids, g', .cons hnext hmints, by rw [hentries, List.length_cons, List.length_cons, hlength], ?_⟩
      rw [hreceive, hentries]
      dsimp only
      rw [hlisten]
      have hdrawn : drawn (drawn w 1) ids.length = drawn w (id :: ids).length := by
        rw [drawn, drawn, drawn, List.length_cons, Nat.add_assoc, Nat.add_comm 1]
      rw [hdrawn]
      rfl

/-- **What packets add to a collector that runs**, if there can be a buffer for them.  None of them stops the listener.
Each packet with an entry adds one event, in the order in which they arrive, with as much of its message as there may be,
and the others do nothing.  The identifiers ascend as long as the clock is within its range, so events are appended to
their logs unless these hold later ones.  Neither the collector nor the store turns an entry down. -/
theorem listen_records (s : SyslogSettings) (hsize : s.maxPacketSize ≤ Worker.largestBuffer)
    (hphase : c.phase = .running crew store) (ht : store.table? = some t)
    (hentropy : ∀ n, w.supply.used ≤ n → ∃ entropy, (w.supply.draws n).entropy = .ok entropy) (packets : List Bytes) :
    (∃ ids g, store.generator.Mints w.supply ids g ∧ ids.length = (entriesOf s packets).length ∧
      let events := List.zipWith (Entry.toEvent c.settings.maxMessageSize) (entriesOf s packets) ids
      listen s c w packets = (.ok (), holding c crew store g (t.recordAll events), drawn w ids.length) ∧
      (g.InRange → ids.Pairwise (· < ·) ∧
        (t.Sound → (∀ log, LogName.Valid log → ∀ e ∈ t.eventsOf log, ∀ id ∈ ids, e.id < id) →
          ∀ log, LogName.Valid log →
            (t.recordAll events).eventsOf log = t.eventsOf log ++ events.filter fun e => e.log = log))) ∧
    ∀ packet e, entryOf packet = .ok e → ∀ message,
      Collector.checkEvent e.log e.timestamp = .ok () ∧ ∃ v, Store.valueOf e.log e.timestamp message = .ok v := by
  refine ⟨?_, fun packet e h message => accepts_entryOf h message⟩
  obtain ⟨ids, g, hmints, hlength, hreceive⟩ := receiveAll_eq (s := s) hphase ht hentropy packets
  have hroom : max s.maxPacketSize 1 ≤ Worker.largestBuffer := Nat.max_le.2 ⟨hsize, by decide⟩
  refine ⟨ids, g, hmints, hlength, by rw [listen, if_pos hroom, hreceive], fun hrange => ?_⟩
  have hascending := (hmints.ascending hrange).1
  refine ⟨hascending, fun hsound habove log hlog => Table.eventsOf_recordAll hsound ?_ ?_ ?_ hlog⟩
  · intro event hevent
    obtain ⟨e, he, id, -, rfl⟩ := exists_of_mem_events hevent
    obtain ⟨packet, hentry⟩ := exists_of_mem_entriesOf he
    exact isEntry_toEvent hentry _ id
  · rw [← map_id_events hlength, List.pairwise_map] at hascending
    exact hascending
  · intro log hlog e he event hevent
    obtain ⟨e', -, id, hid, rfl⟩ := exists_of_mem_events hevent
    exact habove log hlog e he id hid

/-- **A listener that finds no buffer breaks off**, and whatever is sent to it is lost. -/
theorem listen_of_large (h : Worker.largestBuffer < s.maxPacketSize) (packets : List Bytes) :
    listen s c w packets = (.error (.broken "capacity overflow"), c, w) :=
  if_neg fun hroom => Nat.not_le.2 h (Nat.le_trans (Nat.le_max_left _ _) hroom)

end Packets

/-- A line of a program in a packet that is too long, with a message that is too long, and an empty packet, where no log
holds events. -/
theorem listen_records_line :
    let t : Instant := .ofNanos 1709294400000250000
    let packet := (Message.ofLine "web" "out" t [0x68, 0x69, 0x68, 0x6F, 0x0A]).encode
    let crew : Crew := { statePath := "home/logd.json", maxSize := 8, roster := .empty }
    let store : Store := { settings := {}, table? := some .empty }
    let c : Collector := { settings := { CollectorSettings.inHome "home" with maxMessageSize := 2 }
                           phase := .running crew store }
    let w : World := { disk := .blank, supply := { draws := fun _ => ⟨t, .ok ⟨7, by decide⟩⟩, used := 0 } }
    ∃ g, listen { maxPacketSize := packet.length } c w [packet ++ [0x21], []] = (.ok (),
      holding c crew store g (Table.recordAll .empty [⟨.ofParts 1709294400000 7, "web:out", t, [0x68, 0x69]⟩]),
      drawn w 1) := by
  intro t packet crew store c w
  have hstorable : t.nanos? ≠ none := by decide
  have hlog : logOf "web" "out" = .ok "web:out" := by decide
  have hcut : (packet ++ [0x21]).take (max packet.length 1) = packet := by
    rw [Nat.max_eq_left (by decide +kernel), List.take_left]
  have hentry : entryOf packet = .ok ⟨"web:out", t, [0x68, 0x69, 0x68, 0x6F]⟩ :=
    entryOf_encode_ofLine fitsField_web (Or.inl rfl) hstorable (by decide) hlog _
  have hentries : entriesOf { maxPacketSize := packet.length } [packet ++ [0x21], []] =
      [⟨"web:out", t, [0x68, 0x69, 0x68, 0x6F]⟩] := by
    have hempty : (entryOf (List.take (max packet.length 1) [])).toOption = none := by
      rw [List.take_nil]
      rfl
    rw [entriesOf, List.filterMap_cons_some (by rw [hcut, hentry]; rfl)]
    exact congrArg (List.cons _) (List.filterMap_cons_none hempty)
  have hentropy : ∀ n, w.supply.used ≤ n → ∃ entropy, (w.supply.draws n).entropy = .ok entropy :=
    fun _ _ => ⟨⟨7, by decide⟩, rfl⟩
  have hsize : packet.length ≤ Worker.largestBuffer := by decide +kernel
  obtain ⟨⟨ids, g, hmints, hlength, hlisten, -⟩, -⟩ :=
    listen_records { maxPacketSize := packet.length } hsize (c := c) rfl rfl hentropy [packet ++ [0x21], []]
  rw [hentries] at hlength hlisten
  obtain ⟨id, rfl⟩ := List.length_eq_one_iff.1 hlength
  cases hmints with
  | cons hnext hrest =>
    cases hrest
    have hminted : Generator.new.fresh t.millis (.ok ⟨7, by decide⟩) = (.ok id, g) := hnext
    rw [show t.millis = 1709294400000 by decide, Generator.fresh] at hminted
    obtain rfl := Except.ok.inj (Prod.mk.inj hminted).1
    have hcount : t.totalNanos.toNat = 1709294400000250000 := by decide
    have hevent : Entry.toEvent c.settings.maxMessageSize ⟨"web:out", t, [0x68, 0x69, 0x68, 0x6F]⟩
        (.ofParts 1709294400000 7) = ⟨.ofParts 1709294400000 7, "web:out", t, [0x68, 0x69]⟩ := by
      rw [Entry.toEvent, hcount]
      rfl
    rw [List.zipWith_cons_cons, List.zipWith_nil_left, hevent] at hlisten
    exact ⟨g, hlisten⟩

/-- The packet of a line has an entry, but a listener that finds no buffer for packets adds nothing. -/
theorem listen_breaks_off :
    let t : Instant := .ofNanos 1709294400000250000
    let packet := (Message.ofLine "web" "out" t [0x68, 0x69]).encode
    let crew : Crew := { statePath := "home/logd.json", maxSize := 8, roster := .empty }
    let store : Store := { settings := {}, table? := some .empty }
    let c : Collector := { settings := .inHome "home", phase := .running crew store }
    let w : World := { disk := .blank, supply := { draws := fun _ => ⟨t, .ok ⟨7, by decide⟩⟩, used := 0 } }
    let s : SyslogSettings := { maxPacketSize := Worker.largestBuffer + 1 }
    entryOf packet = .ok ⟨"web:out", t, [0x68, 0x69]⟩ ∧ ∃ error, listen s c w [packet] = (.error error, c, w) := by
  intro t packet crew store c w s
  have hlog : logOf "web" "out" = .ok "web:out" := by decide
  exact ⟨entryOf_encode_ofLine fitsField_web (Or.inl rfl) (by decide) (by decide) hlog _, _,
    listen_of_large (Nat.lt_succ_self _) _⟩

end Syslog

end Logbook
