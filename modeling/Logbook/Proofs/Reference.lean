import Logbook.Proofs.Request
import Logbook.Proofs.Walk
import Mathlib.Data.List.DropRight

/-!
# The page of a request

A page is gathered log by log, each log giving no more events than there is room for.  What comes out is the page that
one would cut off all events that are asked for, put in order.

## Main definitions

* `Collector.Search.wants` — whether a search asks for an event.
* `Page.ofAll` — the events on the page that is cut off all events.
* `Page.Answers` — a page with such events and with the cursors that belong to them.

## Main results

* `Page.eq_of_shows` — there is one list of events that a page can show.
* `Crew.pageLogs_congr` — order and repetition of names do not matter.
* `Collector.getEvents_answers` — **the page of a request.**
-/

namespace Logbook

/-! ### What is asked for -/

/-- Whether an identifier lies beyond a cursor, in its direction; without a cursor every one does. -/
def Cursor.leadsTo : Option Cursor → EventId → Bool
  | none, _ => true
  | some ⟨id, .forward⟩, i => decide (id < i)
  | some ⟨id, .backward⟩, i => decide (i < id)

theorem Cursor.leadsTo_iff {cursor : Option Cursor} {i : EventId} :
    leadsTo cursor i = true ↔ ∀ c ∈ cursor, (Page.directionOf cursor).Before c.id i := by
  cases cursor with
  | none => simp [leadsTo]
  | some c =>
    obtain ⟨id, direction⟩ := c
    cases direction with
    | forward => simp [leadsTo, Page.directionOf, Direction.Before]
    | backward => simp [leadsTo, Page.directionOf, Direction.Before]

/-- Whether a search in some logs asks for an event. -/
def Collector.Search.wants (search : Collector.Search) (logs : List String) (e : Event) : Bool :=
  decide (e.log ∈ logs) && Cursor.leadsTo search.cursor e.id && search.accepts e

theorem Collector.Search.wants_congr (search : Collector.Search) {logs logs' : List String}
    (h : ∀ log, log ∈ logs ↔ log ∈ logs') : search.wants logs = search.wants logs' := by
  funext e
  rw [wants, wants, decide_eq_decide.2 (h e.log)]

namespace Page

/-- The first events in the order of the identifiers, or the last ones, as the direction starts. -/
def ofAll (direction : Direction) (limit : Nat) (events : List Event) : List Event :=
  let sorted := events.mergeSort fun a b => decide (a.id ≤ b.id)
  match direction with
  | .forward => sorted.take limit
  | .backward => sorted.rtake limit

/-- A page shows, of some events, those that a search asks for, and its cursors stand where they should. -/
structure Answers (search : Collector.Search) (logs : List String) (events : List Event)
    (page : Page) : Prop where
  /-- The events are in order. -/
  ascending : page.items.Pairwise fun a b => a.id < b.id
  /-- The events are cut off all that are asked for. -/
  items : page.items =
    ofAll (directionOf search.cursor) search.limit (events.filter (search.wants logs))
  /-- A forward page leads back from its least identifier and on from its greatest. -/
  forward : directionOf search.cursor = .forward → ∀ first ∈ page.items, ∀ last ∈ page.items,
    (∀ e ∈ page.items, first.id ≤ e.id ∧ e.id ≤ last.id) →
      Cursor.parse page.prev.text = .ok (.backward first.id) ∧
        Cursor.parse page.next.text = .ok (.forward last.id)
  /-- A backward page leads back from its greatest identifier and on from its least. -/
  backward : directionOf search.cursor = .backward → ∀ first ∈ page.items, ∀ last ∈ page.items,
    (∀ e ∈ page.items, first.id ≤ e.id ∧ e.id ≤ last.id) →
      Cursor.parse page.prev.text = .ok (.forward last.id) ∧
        Cursor.parse page.next.text = .ok (.backward first.id)
  /-- An empty page leads back from where the request stood, and on from there. -/
  empty : page.items = [] → ∀ c ∈ search.cursor,
    Cursor.parse page.prev.text = .ok c.reversed ∧ Cursor.parse page.next.text = .ok c
  /-- Where the request stood nowhere, it leads to the start. -/
  nowhere : page.items = [] → search.cursor = none →
    Cursor.parse page.prev.text = .ok .start ∧ Cursor.parse page.next.text = .ok .start

/-! ### What a page shows is determined -/

theorem ofAll_eq_cut (d : Direction) (n : Nat) (events : List Event) :
    ofAll d n events = cut d n (events.mergeSort fun a b => decide (a.id ≤ b.id)) := by
  cases d with
  | forward => rfl
  | backward => rfl

section Shows

variable {q : Query} {views : List (List Event)} {items items' : List Event}

/-- Of two lists that a page can show, each holds what the other does. -/
theorem Shows.subset (h : Shows q views items) (h' : Shows q views items')
    (hle : items.length ≤ q.limit) : items ⊆ items' := by
  intro e he
  by_cases hmem : e ∈ items'
  · exact hmem
  · obtain ⟨view, hview, hselect⟩ := h.found e he
    obtain ⟨hfull, hbeyond⟩ := h'.covered view hview e hselect hmem
    -- the other list is full without `e`, so it holds an event that this one lacks
    obtain ⟨f, hf, hnot⟩ := exists_notMem_of_length_le (nodup_of_ascending h'.ascending)
      (hfull ▸ hle) he hmem
    obtain ⟨view', hview', hselect'⟩ := h'.found f hf
    obtain ⟨-, hbeyond'⟩ := h.covered view' hview' f hselect' hnot
    exact absurd (hbeyond' e he) (hbeyond f hf).asymm

/-- There is one list of events that a page can show. -/
theorem eq_of_shows (h : Shows q views items) (h' : Shows q views items')
    (hle : items.length ≤ q.limit) (hle' : items'.length ≤ q.limit) : items = items' :=
  eq_of_ascending h.ascending h'.ascending fun _ =>
    ⟨fun he => h.subset h' hle he, fun he => h'.subset h hle' he⟩

end Shows

section Whole

variable {t : Table} {search : Collector.Search} {logs : List String}

/-- What a search asks for among all events is what it asks for in its logs. -/
theorem mem_wanted_iff (hsound : t.Sound) (hvalid : ∀ log ∈ logs, LogName.Valid log) {e : Event} :
    e ∈ t.events.filter (search.wants logs) ↔ ∃ log ∈ logs,
      e ∈ (queryOf search.cursor search.limit search.filter).select (t.eventsOf log) := by
  have hevents : e ∈ t.events ∧ e.log ∈ logs ↔ ∃ log ∈ logs, e ∈ t.eventsOf log := by
    constructor
    · rintro ⟨he, hlog⟩
      obtain ⟨row, hrow, hevent⟩ := List.mem_filterMap.1 he
      obtain ⟨e', hentry⟩ := hsound row hrow
      obtain rfl : e' = e := Option.some.inj (hentry.event?_eq.symm.trans hevent)
      exact ⟨e'.log, hlog,
        (Table.mem_eventsOf_iff hsound (hvalid _ hlog)).2 ⟨rfl, row, hrow, hentry⟩⟩
    · rintro ⟨log, hlog, he⟩
      rw [Table.log_of_mem_eventsOf hsound (hvalid log hlog) he]
      exact ⟨t.eventsOf_subset_events log he, hlog⟩
  have hwants : search.wants logs e = true ↔ e.log ∈ logs ∧
      (∀ c ∈ search.cursor, (directionOf search.cursor).Before c.id e.id) ∧
        Filter.accepts (Filter.needle? search.filter) e = true := by
    rw [Collector.Search.wants, Bool.and_eq_true, Bool.and_eq_true, decide_eq_true_iff,
      Cursor.leadsTo_iff, and_assoc]
    exact Iff.rfl
  simp only [List.mem_filter, hwants, mem_select]
  constructor
  · rintro ⟨he, hlog, hside, haccepts⟩
    obtain ⟨log, hmem, hview⟩ := hevents.1 ⟨he, hlog⟩
    exact ⟨log, hmem, hview, hside, haccepts⟩
  · rintro ⟨log, hmem, hview, hside, haccepts⟩
    obtain ⟨he, hlog⟩ := hevents.2 ⟨log, hmem, hview⟩
    exact ⟨he, hlog, hside, haccepts⟩

variable (search) in
/-- The page that is cut off all events shows what there is to be found in the logs. -/
theorem shows_ofAll (hsound : t.Sound) (hvalid : ∀ log ∈ logs, LogName.Valid log)
    (hdistinct : t.events.Pairwise fun a b => a.id ≠ b.id) :
    Shows (queryOf search.cursor search.limit search.filter) (logs.map t.eventsOf)
      (ofAll (directionOf search.cursor) search.limit (t.events.filter (search.wants logs))) := by
  have hsorted := ascending_sorted (hdistinct.filter (search.wants logs))
  have hmem (e : Event) : e ∈ (t.events.filter (search.wants logs)).mergeSort
      (fun a b => decide (a.id ≤ b.id)) ↔ ∃ log ∈ logs,
        e ∈ (queryOf search.cursor search.limit search.filter).select (t.eventsOf log) := by
    rw [List.mem_mergeSort, mem_wanted_iff hsound hvalid]
  rw [ofAll_eq_cut]
  refine ⟨hsorted.sublist (cut_sublist _ _ _), fun e he => ?_, fun view hview e he hnot => ?_⟩
  · obtain ⟨log, hlog, he⟩ := (hmem e).1 ((cut_sublist _ _ _).mem he)
    exact ⟨_, List.mem_map_of_mem hlog, he⟩
  · obtain ⟨log, hlog, rfl⟩ := List.mem_map.1 hview
    have hin := (hmem e).2 ⟨log, hlog, he⟩
    exact ⟨length_of_notMem_cut hin hnot, before_of_notMem_cut hsorted hin hnot⟩

end Whole

/-! ### Where the page leads -/

section Cursors

variable {items : List Event} {first last : Event}

/-- In a list in order, the least identifier comes first and the greatest last. -/
theorem head?_getLast?_of_bounds (h : items.Pairwise fun a b => a.id < b.id) (hfirst : first ∈ items)
    (hlast : last ∈ items) (hbounds : ∀ e ∈ items, first.id ≤ e.id ∧ e.id ≤ last.id) :
    items.head? = some first ∧ items.getLast? = some last := by
  constructor
  · cases items with
    | nil => cases hfirst
    | cons e rest =>
      rcases List.mem_cons.1 hfirst with rfl | hmem
      · rfl
      · exact absurd ((List.pairwise_cons.1 h).1 first hmem)
          (Nat.not_lt_of_le (hbounds e List.mem_cons_self).1)
  · have hne : items ≠ [] := List.ne_nil_of_mem hlast
    have hgreatest := List.getLast?_eq_some_getLast hne
    obtain ⟨init, hinit⟩ := List.getLast?_eq_some_iff.1 hgreatest
    have hle := (hbounds _ (List.getLast_mem hne)).2
    rw [hgreatest]
    generalize items.getLast hne = e at hinit hle
    rw [hinit, List.mem_append, List.mem_singleton] at hlast
    rw [hinit, List.pairwise_append] at h
    rcases hlast with hmem | rfl
    · exact absurd (h.2.2 last hmem e List.mem_cons_self) (Nat.not_lt_of_le hle)
    · rfl

/-- A page of events in order that are cut off all events, with the cursors of a page. -/
theorem answers_ofEvents {search : Collector.Search} {logs : List String} {events found : List Event}
    (hascending : (ofEvents search.cursor search.limit found).items.Pairwise fun a b => a.id < b.id)
    (hitems : (ofEvents search.cursor search.limit found).items =
      ofAll (directionOf search.cursor) search.limit (events.filter (search.wants logs))) :
    Answers search logs events (ofEvents search.cursor search.limit found) := by
  have hprev : (ofEvents search.cursor search.limit found).prev =
      (cursors search.cursor (ofEvents search.cursor search.limit found).items).1 := rfl
  have hnext : (ofEvents search.cursor search.limit found).next =
      (cursors search.cursor (ofEvents search.cursor search.limit found).items).2 := rfl
  constructor
  case ascending => exact hascending
  case items => exact hitems
  case forward =>
    intro hdirection first hfirst last hlast hbounds
    obtain ⟨hhead, hgetLast⟩ := head?_getLast?_of_bounds hascending hfirst hlast hbounds
    simp only [hprev, hnext, cursors, hhead, hgetLast, hdirection, Cursor.parse_text]
    exact ⟨rfl, rfl⟩
  case backward =>
    intro hdirection first hfirst last hlast hbounds
    obtain ⟨hhead, hgetLast⟩ := head?_getLast?_of_bounds hascending hfirst hlast hbounds
    simp only [hprev, hnext, cursors, hhead, hgetLast, hdirection, Cursor.parse_text]
    exact ⟨rfl, rfl⟩
  case empty =>
    intro hnil c hc
    rw [hprev, hnext, hnil, Option.mem_def.1 hc, Cursor.parse_text, Cursor.parse_text]
    exact ⟨rfl, rfl⟩
  case nowhere =>
    intro hnil hnone
    rw [hprev, hnext, hnil, hnone, Cursor.parse_text, Cursor.parse_text]
    exact ⟨rfl, rfl⟩

end Cursors

end Page

/-! ### Names -/

/-- A map that only says which keys there are is its set of keys. -/
theorem SortedMap.ext_keys {κ : Type} [Ord κ] [Std.TransOrd κ] [Std.LawfulEqOrd κ]
    {m n : SortedMap κ Unit} (h : ∀ k, k ∈ m.keys ↔ k ∈ n.keys) : m = n := by
  have hmem (m : SortedMap κ Unit) (e : κ × Unit) : e ∈ m.entries ↔ e.1 ∈ m.keys := by
    obtain ⟨k, u⟩ := e
    rw [mem_entries_iff, mem_keys_iff, Option.isSome_iff_exists]
    exact ⟨fun h => ⟨u, h⟩, fun ⟨_, h⟩ => h⟩
  refine SortedMap.ext (eq_of_mem_iff m.sorted n.sorted fun e => ?_)
  rw [hmem, hmem, h]

/-- A page is made of the logs that are named, or of all that are registered. -/
theorem Crew.mem_pageLogs_iff (c : Crew) (names : List String) (log : String) :
    log ∈ c.pageLogs names ↔ log ∈ if names = [] then c.roster.keys else names := by
  by_cases hnil : names = []
  · subst hnil
    exact Iff.rfl
  · rw [if_neg hnil, mem_pageLogs hnil]

/-- Order and repetition of names do not matter. -/
theorem Crew.pageLogs_congr (c : Crew) {names names' : List String}
    (h : ∀ name, name ∈ names ↔ name ∈ names') : c.pageLogs names = c.pageLogs names' := by
  cases names with
  | nil =>
    cases names' with
    | nil => rfl
    | cons name _ => exact absurd ((h name).2 List.mem_cons_self) List.not_mem_nil
  | cons name rest =>
    cases names' with
    | nil => exact absurd ((h name).1 List.mem_cons_self) List.not_mem_nil
    | cons name' rest' =>
      refine congrArg SortedMap.keys (SortedMap.ext_keys fun log => ?_)
      have hmem : log ∈ c.pageLogs (name :: rest) ↔ log ∈ name :: rest :=
        mem_pageLogs (List.cons_ne_nil name rest)
      have hmem' : log ∈ c.pageLogs (name' :: rest') ↔ log ∈ name' :: rest' :=
        mem_pageLogs (List.cons_ne_nil name' rest')
      exact hmem.trans ((h log).trans hmem'.symm)

namespace Table

variable {t : Table}

/-- Where identifiers differ between logs, no two events have the same. -/
theorem pairwise_events (hsound : t.Sound)
    (hdistinct : ∀ e ∈ t.events, ∀ e' ∈ t.events, e.id = e'.id → e.log = e'.log) :
    t.events.Pairwise fun a b => a.id ≠ b.id := by
  have hmem : ∀ row ∈ t.entries, ∀ e, Entry.event? row = some e → e ∈ t.events :=
    fun row hrow e he => List.mem_filterMap.2 ⟨row, hrow, he⟩
  have hkey : ∀ row ∈ t.entries, ∀ e, Entry.event? row = some e → row.1 = Entry.key e.log e.id := by
    intro row hrow e he
    obtain ⟨e', hentry⟩ := hsound row hrow
    obtain rfl : e' = e := Option.some.inj (hentry.event?_eq.symm.trans he)
    exact hentry.key
  rw [events, List.pairwise_filterMap]
  refine t.sorted.imp_of_mem fun {r s} hr hs hlt a ha b hb heq => ?_
  -- events with one identifier are in one log, so their rows have the same key
  have hlog := hdistinct a (hmem r hr a ha) b (hmem s hs b hb) heq
  rw [hkey r hr a ha, hkey s hs b hb, hlog, heq] at hlt
  simp at hlt

end Table

namespace Collector

variable {c : Collector} {crew : Crew} {store : Store} {t : Table} {r : PageRequest} {search : Search}

/-- A request that passes the checks is answered with the page of its logs. -/
theorem getEvents_eq (hphase : c.phase = .running crew store) (htable : store.table = .ok t)
    (hcheck : checkRequest c.settings r = .ok search) :
    c.getEvents r = (Page.read (fun _ => t) (crew.pageLogs r.logs) search.cursor search.limit
      search.filter).mapError .store := by
  obtain ⟨-, -, -, hlogs, -⟩ := checkRequest_eq_ok_iff.1 hcheck
  rw [getEvents, hcheck, service, hphase, ← hlogs]
  change (store.table.mapError CollectorError.store >>= _) = _
  rw [htable]
  rfl

/-- A request that names the same logs in another way is checked alike. -/
theorem checkRequest_congr {logs : List String} (h : ∀ name, name ∈ logs ↔ name ∈ r.logs)
    (hcheck : checkRequest c.settings r = .ok search) :
    checkRequest c.settings { r with logs := logs } = .ok { search with logs := logs } := by
  obtain ⟨hlimit, hcursor, hnames, -, hfilter⟩ := checkRequest_eq_ok_iff.1 hcheck
  exact checkRequest_eq_ok_iff.2
    ⟨hlimit, hcursor, fun name hname => hnames name ((h name).1 hname), rfl, hfilter⟩

/-- **The page of a request.**

The store holds events, no two of different logs with one identifier, and the registered names can name logs.  A
request that passes the checks is then answered with the page that is cut off all events of its logs, or of all
registered logs where it names none, and the answer is the same however the logs are named. -/
theorem getEvents_answers (hphase : c.phase = .running crew store) (htable : store.table = .ok t)
    (hsound : t.Sound)
    (hdistinct : ∀ e ∈ t.events, ∀ e' ∈ t.events, e.id = e'.id → e.log = e'.log)
    (hroster : r.logs = [] → ∀ name ∈ crew.roster.keys, LogName.Valid name)
    (hcheck : checkRequest c.settings r = .ok search) :
    (∃ page, c.getEvents r = .ok page ∧
      page.Answers search (if r.logs = [] then crew.roster.keys else r.logs) t.events) ∧
    ∀ logs, (∀ name, name ∈ logs ↔ name ∈ r.logs) →
      c.getEvents { r with logs := logs } = c.getEvents r := by
  obtain ⟨-, -, hnames, -, -⟩ := checkRequest_eq_ok_iff.1 hcheck
  constructor
  · have hvalid : ∀ log ∈ crew.pageLogs r.logs, LogName.Valid log :=
      fun log hlog => Crew.valid_of_mem_pageLogs hnames hroster hlog
    have hapart : Page.Apart ((crew.pageLogs r.logs).map t.eventsOf) :=
      Table.apart_eventsOf hsound hvalid (Crew.nodup_pageLogs _ _)
        fun log hlog log' hlog' hne e he e' he' heq => hne <| by
          rw [← Table.log_of_mem_eventsOf hsound (hvalid log hlog) he,
            ← Table.log_of_mem_eventsOf hsound (hvalid log' hlog') he']
          exact hdistinct e (t.eventsOf_subset_events log he) e' (t.eventsOf_subset_events log' he') heq
    have hshows := Page.shows_cut (q := Page.queryOf search.cursor search.limit search.filter) hapart
    have hreference := Page.shows_ofAll search hsound hvalid
      (Table.pairwise_events hsound hdistinct)
    have hitems := Page.eq_of_shows hshows hreference (Page.length_cut_le _ _ _)
      (by rw [Page.ofAll_eq_cut]; exact Page.length_cut_le _ _ _)
    rw [search.wants_congr (crew.mem_pageLogs_iff r.logs)] at hitems
    refine ⟨_, ?_, Page.answers_ofEvents hshows.ascending hitems⟩
    rw [getEvents_eq hphase htable hcheck, Page.read_eq hsound hvalid]
    rfl
  · intro logs hlogs
    rw [getEvents_eq hphase htable hcheck, getEvents_eq hphase htable (checkRequest_congr hlogs hcheck),
      crew.pageLogs_congr hlogs]

/-- The two newest of three events in two logs, one of which is named twice. -/
theorem getEvents_answers_two_logs :
    let e : Event := ⟨.ofParts 1 0, "a", .ofNanos 5, [104]⟩
    let f : Event := ⟨.ofParts 2 0, "b", .ofNanos 6, [105]⟩
    let g : Event := ⟨.ofParts 3 0, "a", .ofNanos 7, [106]⟩
    let t : Table := ((SortedMap.empty.insert (Entry.key "a" e.id) (Entry.payload 5 [104])).insert
      (Entry.key "b" f.id) (Entry.payload 6 [105])).insert (Entry.key "a" g.id) (Entry.payload 7 [106])
    let crew : Crew := { statePath := "home/logd.json", maxSize := 8, roster := .empty }
    let c : Collector :=
      { settings := .inHome "home", phase := .running crew { settings := {}, table? := some t } }
    let r : PageRequest := { logs := ["b", "a", "b"], limit := some 2 }
    (∃ page, c.getEvents r = .ok page ∧
      page.Answers { cursor := none, limit := 2, logs := r.logs, filter := none } r.logs t.events) ∧
    t.events = [e, g, f] ∧
    Page.ofAll .backward 2 (t.events.filter
      (Search.wants { cursor := none, limit := 2, logs := r.logs, filter := none } r.logs)) = [f, g] ∧
    c.getEvents { r with logs := ["a", "b"] } = c.getEvents r := by
  intro e f g t crew c r
  have he : (Instant.ofNanos 5).nanos? = some 5 := rfl
  have hf : (Instant.ofNanos 6).nanos? = some 6 := rfl
  have hg : (Instant.ofNanos 7).nanos? = some 7 := rfl
  have hsound : t.Sound :=
    ((Table.sound_empty.insert (Entry.isEntry_key (by decide) e.id he [104])).insert
      (Entry.isEntry_key (by decide) f.id hf [105])).insert (Entry.isEntry_key (by decide) g.id hg [106])
  have hevents : t.events = [e, g, f] := by decide +kernel
  have hdistinct : ∀ e ∈ t.events, ∀ e' ∈ t.events, e.id = e'.id → e.log = e'.log := by decide +kernel
  have hcheck : checkRequest c.settings r =
      .ok { cursor := none, limit := 2, logs := r.logs, filter := none } := rfl
  have hroster : r.logs = [] → ∀ name ∈ crew.roster.keys, LogName.Valid name :=
    fun hnil => absurd hnil (List.cons_ne_nil _ _)
  obtain ⟨hpage, hnames⟩ := getEvents_answers rfl rfl hsound hdistinct hroster hcheck
  have hall : t.events.filter (Search.wants
      { cursor := none, limit := 2, logs := r.logs, filter := none } r.logs) = [e, g, f] := by
    decide +kernel
  have hsort : [e, g, f].mergeSort (fun a b => decide (a.id ≤ b.id)) = [e, f, g] := by
    refine eq_of_ascending (Page.ascending_sorted (by decide)) (by decide) fun x => ?_
    rw [List.mem_mergeSort]
    grind
  have hcut : Page.ofAll .backward 2 [e, g, f] = [f, g] := by
    rw [Page.ofAll, hsort]
    rfl
  exact ⟨hpage, hevents, hall ▸ hcut, hnames ["a", "b"] fun name => by grind⟩

/-- A registered text that cannot name a log shows an event of a log that is not registered: the text is the name of the
log, and a NUL. -/
theorem getEvents_shows_unregistered :
    let e : Event := ⟨.ofParts 1 0, "a", .ofNanos 5, [104]⟩
    let t : Table := SortedMap.empty.insert (Entry.key "a" e.id) (Entry.payload 5 [104])
    let crew : Crew :=
      { statePath := "home/logd.json", maxSize := 8, roster := SortedMap.empty.insert "a\x00" ⟨"nowhere"⟩ }
    let c : Collector :=
      { settings := .inHome "home", phase := .running crew { settings := {}, table? := some t } }
    let search : Search := { cursor := none, limit := 500, logs := [], filter := none }
    t.Sound ∧ (∀ e ∈ t.events, ∀ e' ∈ t.events, e.id = e'.id → e.log = e'.log) ∧
      checkRequest c.settings {} = .ok search ∧
      ∃ page, c.getEvents {} = .ok page ∧ page.items = [e] ∧ "a" ∉ crew.roster.keys ∧
        ¬ page.Answers search crew.roster.keys t.events := by
  intro e t crew c search
  have he : (Instant.ofNanos 5).nanos? = some 5 := rfl
  refine ⟨Table.sound_empty.insert (Entry.isEntry_key (by decide) e.id he [104]),
    by decide +kernel, rfl, ⟨[e], .forward e.id, .backward e.id⟩, by decide +kernel, rfl,
    by decide +kernel, fun h => ?_⟩
  have hnothing : Page.ofAll .backward 500 (t.events.filter (search.wants crew.roster.keys)) = [] := by
    decide +kernel
  have hitems := h.items
  rw [show Page.directionOf search.cursor = .backward from rfl,
    show search.limit = 500 from rfl, hnothing] at hitems
  cases hitems

end Collector

end Logbook
