import Logbook.Proofs.Reference

/-!
# Turning round

A client gets a page, and reads on from both of its cursors until there is nothing more.  It reaches each event that it
searches for once: on the page, on the way on, or on the way back.  Only where the page is empty does an event stay out
of reach, the one with the identifier at which the client stands, since both cursors of such a page stand there and
neither of them leads to it.

## Main definitions

* `Page.Begins` — a page shows the first of the events that are asked for.
* `Collector.Scans` — what a client gets that reads on from a cursor until a page is empty.

## Main results

* `Page.Begins.perm_next` — a page and what lies beyond its next cursor are all that is asked for.
* `Page.Begins.mem_prev_iff` — what lies beyond the other cursor of a page.
* `Collector.exists_scans` — reading on from a cursor ends, and gets what lies beyond it.
* `Collector.getEvents_turns` — **a page and its two cursors.**
-/

namespace Logbook

theorem Direction.reverse_before {d : Direction} {i j : EventId} : d.reverse.Before i j ↔ d.Before j i := by
  cases d with
  | forward => exact Iff.rfl
  | backward => exact Iff.rfl

/-- What a search asks for is what it searches for, and it lies beyond the place from which the search goes on. -/
theorem Collector.Search.mem_filter_wants {search : Collector.Search} {logs : List String} {events : List Event}
    {e : Event} : e ∈ events.filter (search.wants logs) ↔
      (e ∈ events ∧ e.log ∈ logs ∧ search.accepts e = true) ∧
        ∀ c ∈ search.cursor, (Page.directionOf search.cursor).Before c.id e.id := by
  rw [List.mem_filter, wants, Bool.and_eq_true, Bool.and_eq_true, decide_eq_true_iff, Cursor.leadsTo_iff]
  constructor
  · rintro ⟨he, ⟨hlog, hside⟩, haccepts⟩
    exact ⟨⟨he, hlog, haccepts⟩, hside⟩
  · rintro ⟨⟨he, hlog, haccepts⟩, hside⟩
    exact ⟨he, ⟨hlog, hside⟩, haccepts⟩

theorem Collector.Search.mem_filter_wants_some {search : Collector.Search} {c : Cursor} {logs : List String}
    {events : List Event} {e : Event} : e ∈ events.filter ({ search with cursor := some c }.wants logs) ↔
      (e ∈ events ∧ e.log ∈ logs ∧ search.accepts e = true) ∧ c.direction.Before c.id e.id := by
  rw [mem_filter_wants]
  exact and_congr_right fun _ =>
    ⟨fun hside => hside c rfl, fun hside c' hc' => Option.some.inj hc' ▸ hside⟩

namespace Page

/-! ### Where a page leads back -/

section Prev

variable {cursor : Option Cursor} {limit : Nat} {found : List Event}

/-- An empty page leads back from where the request stood. -/
theorem prev_of_nil (h : (ofEvents cursor limit found).items = []) :
    (ofEvents cursor limit found).prev = (cursor.map Cursor.reversed).getD .start := by
  change (cursors cursor (ofEvents cursor limit found).items).1 = _
  rw [h]
  cases cursor with
  | none => rfl
  | some c => rfl

/-- A page that is not empty leads back from one of its events, before which it shows none. -/
theorem exists_prev (hascending : (ofEvents cursor limit found).items.Pairwise fun a b => a.id < b.id)
    (hne : (ofEvents cursor limit found).items ≠ []) :
    ∃ e ∈ (ofEvents cursor limit found).items,
      (ofEvents cursor limit found).prev = ⟨e.id, (directionOf cursor).reverse⟩ ∧
        ∀ f ∈ (ofEvents cursor limit found).items, ¬ (directionOf cursor).Before f.id e.id := by
  have hprev : (ofEvents cursor limit found).prev =
      (cursors cursor (ofEvents cursor limit found).items).1 := rfl
  rw [hprev]
  generalize (ofEvents cursor limit found).items = items at hascending hne ⊢
  have hhead := List.head?_eq_some_head hne
  have hlast := List.getLast?_eq_some_getLast hne
  unfold cursors
  rw [hhead, hlast]
  cases directionOf cursor with
  | forward =>
    refine ⟨items.head hne, List.head_mem hne, rfl, fun f hf hlt => ?_⟩
    obtain ⟨rest, hrest⟩ := List.head?_eq_some_iff.1 hhead
    rw [hrest] at hf
    rw [hrest, List.pairwise_cons] at hascending
    rcases List.mem_cons.1 hf with heq | hf
    · exact Direction.Before.irrefl .forward _ (heq ▸ hlt)
    · exact Nat.lt_asymm hlt (hascending.1 f hf)
  | backward =>
    refine ⟨items.getLast hne, List.getLast_mem hne, rfl, fun f hf hlt => ?_⟩
    obtain ⟨init, hinit⟩ := List.getLast?_eq_some_iff.1 hlast
    rw [hinit, List.mem_append, List.mem_singleton] at hf
    rw [hinit, List.pairwise_append] at hascending
    rcases hf with hf | heq
    · exact Nat.lt_asymm hlt (hascending.2.2 f hf _ List.mem_cons_self)
    · exact Direction.Before.irrefl .backward _ (heq ▸ hlt)

end Prev

/-! ### What lies beyond a page -/

/-- A page shows, of some events, the first of those that a search asks for. -/
structure Begins (search : Collector.Search) (logs : List String) (events : List Event) (page : Page) : Prop where
  /-- It is the page of some events that were found. -/
  made : ∃ found, page = ofEvents search.cursor search.limit found
  /-- Its events are in order. -/
  ascending : page.items.Pairwise fun a b => a.id < b.id
  /-- They are asked for. -/
  found : ∀ e ∈ page.items, e ∈ events.filter (search.wants logs)
  /-- What is left out has no room and lies beyond. -/
  covered : ∀ e ∈ events.filter (search.wants logs), e ∉ page.items →
    page.items.length = search.limit ∧ ∀ f ∈ page.items, (directionOf search.cursor).Before f.id e.id

/-- A page that shows what there is in the logs of a table shows the first of the events that are asked for. -/
theorem Shows.begins {t : Table} {search : Collector.Search} {logs : List String} {found : List Event}
    (h : Shows (queryOf search.cursor search.limit search.filter) (logs.map t.eventsOf)
      (ofEvents search.cursor search.limit found).items)
    (hsound : t.Sound) (hvalid : ∀ log ∈ logs, LogName.Valid log) :
    (ofEvents search.cursor search.limit found).Begins search logs t.events where
  made := ⟨found, rfl⟩
  ascending := h.ascending
  found e he := by
    obtain ⟨view, hview, hselect⟩ := h.found e he
    obtain ⟨log, hlog, rfl⟩ := List.mem_map.1 hview
    exact (mem_wanted_iff hsound hvalid).2 ⟨log, hlog, hselect⟩
  covered e he hnot := by
    obtain ⟨log, hlog, hselect⟩ := (mem_wanted_iff hsound hvalid).1 he
    exact h.covered _ (List.mem_map_of_mem hlog) e hselect hnot

namespace Begins

variable {search : Collector.Search} {logs : List String} {events : List Event} {page : Page}

/-- A page is empty only where nothing is asked for. -/
theorem eq_nil (h : page.Begins search logs events) (hlimit : 0 < search.limit) (hnil : page.items = []) :
    events.filter (search.wants logs) = [] := by
  refine List.eq_nil_iff_forall_not_mem.2 fun e he => ?_
  have hnot : e ∉ page.items := by
    rw [hnil]
    exact List.not_mem_nil
  have hlength := (h.covered e he hnot).1
  rw [hnil] at hlength
  exact absurd hlength (Nat.ne_of_lt hlimit)

/-- An empty page stands where the request stood. -/
theorem cursors_of_nil (h : page.Begins search logs events) (hnil : page.items = []) :
    page.prev = (search.cursor.map Cursor.reversed).getD .start ∧ page.next = search.cursor.getD .start := by
  obtain ⟨found, rfl⟩ := h.made
  exact ⟨prev_of_nil hnil, next_of_nil hnil⟩

/-- A page that is not empty leads on from the last event that a walk meets on it. -/
theorem exists_next (h : page.Begins search logs events) (hne : page.items ≠ []) :
    ∃ e ∈ page.items, page.next = ⟨e.id, directionOf search.cursor⟩ ∧
      ∀ f ∈ page.items, ¬ (directionOf search.cursor).Before e.id f.id := by
  have hascending := h.ascending
  obtain ⟨found, rfl⟩ := h.made
  exact Page.exists_next hascending hne

/-- A page that is not empty leads back from the first event that a walk meets on it. -/
theorem exists_prev (h : page.Begins search logs events) (hne : page.items ≠ []) :
    ∃ e ∈ page.items, page.prev = ⟨e.id, (directionOf search.cursor).reverse⟩ ∧
      ∀ f ∈ page.items, ¬ (directionOf search.cursor).Before f.id e.id := by
  have hascending := h.ascending
  obtain ⟨found, rfl⟩ := h.made
  exact Page.exists_prev hascending hne

/-- Beyond the next cursor of a page lies what is asked for and not shown. -/
theorem mem_next_iff (h : page.Begins search logs events) (hlimit : 0 < search.limit) {e : Event} :
    e ∈ events.filter ({ search with cursor := some page.next }.wants logs) ↔
      e ∈ events.filter (search.wants logs) ∧ e ∉ page.items := by
  rw [Collector.Search.mem_filter_wants_some]
  by_cases hnil : page.items = []
  · -- both sides are empty, since an empty page leads on from where the request stood
    have hnone := h.eq_nil hlimit hnil
    have hnot : e ∉ events.filter (search.wants logs) := by
      rw [hnone]
      exact List.not_mem_nil
    refine iff_of_false (fun he => hnot ?_) fun he => hnot he.1
    obtain ⟨hseeks, hside⟩ := he
    refine Collector.Search.mem_filter_wants.2 ⟨hseeks, fun c hc => ?_⟩
    rw [(h.cursors_of_nil hnil).2, Option.mem_def.1 hc] at hside
    rw [Option.mem_def.1 hc]
    exact hside
  · obtain ⟨last, hlast, hnext, hgreatest⟩ := h.exists_next hnil
    obtain ⟨-, hlastSide⟩ := Collector.Search.mem_filter_wants.1 (h.found last hlast)
    rw [hnext]
    constructor
    · rintro ⟨hseeks, hbeyond⟩
      exact ⟨Collector.Search.mem_filter_wants.2 ⟨hseeks, fun c hc => (hlastSide c hc).trans hbeyond⟩,
        fun hmem => hgreatest e hmem hbeyond⟩
    · rintro ⟨he, hnot⟩
      exact ⟨(Collector.Search.mem_filter_wants.1 he).1, (h.covered e he hnot).2 last hlast⟩

/-- **A page and what lies beyond its next cursor are all that is asked for.** -/
theorem perm_next (h : page.Begins search logs events) (hlimit : 0 < search.limit) (hnodup : events.Nodup) :
    (page.items ++ events.filter ({ search with cursor := some page.next }.wants logs)).Perm
      (events.filter (search.wants logs)) := by
  refine (List.perm_ext_iff_of_nodup ?_ (hnodup.filter _)).2 fun e => ?_
  · refine List.nodup_append.2 ⟨nodup_of_ascending h.ascending, hnodup.filter _, fun e he f hf heq => ?_⟩
    exact ((h.mem_next_iff hlimit).1 hf).2 (heq ▸ he)
  · rw [List.mem_append, h.mem_next_iff hlimit]
    by_cases hmem : e ∈ page.items
    · exact iff_of_true (Or.inl hmem) (h.found e hmem)
    · simp only [hmem, false_or, not_false_eq_true, and_true]

/-- **Beyond the other cursor of a page lies what is searched for and not asked for**, but for an event at which an
empty page stands. -/
theorem mem_prev_iff (h : page.Begins search logs events) (hlimit : 0 < search.limit) {e : Event} :
    e ∈ events.filter ({ search with cursor := some page.prev }.wants logs) ↔
      (e ∈ events ∧ e.log ∈ logs ∧ search.accepts e = true) ∧ e ∉ events.filter (search.wants logs) ∧
        ¬ (page.items = [] ∧ ∃ c ∈ search.cursor, c.id = e.id) := by
  rw [Collector.Search.mem_filter_wants_some]
  refine and_congr_right fun hseeks => ?_
  have hasked : e ∈ events.filter (search.wants logs) ↔
      ∀ c ∈ search.cursor, (directionOf search.cursor).Before c.id e.id := by
    rw [Collector.Search.mem_filter_wants]
    exact and_iff_right hseeks
  by_cases hnil : page.items = []
  · have hnot : e ∉ events.filter (search.wants logs) := by
      rw [h.eq_nil hlimit hnil]
      exact List.not_mem_nil
    have hbeyond := mt hasked.2 hnot
    rw [(h.cursors_of_nil hnil).1]
    cases hcursor : search.cursor with
    | none =>
      -- without a place to stand at, all that is searched for is asked for
      rw [hcursor] at hbeyond
      exact absurd nofun hbeyond
    | some c =>
      have hahead : ¬ c.direction.Before c.id e.id := by
        rw [hcursor] at hbeyond
        exact fun hbefore => hbeyond fun c' hc' => Option.some.inj hc' ▸ hbefore
      change c.direction.reverse.Before c.id e.id ↔ _
      rw [Direction.reverse_before]
      constructor
      · intro hback
        refine ⟨hnot, ?_⟩
        rintro ⟨-, c', hc', heq⟩
        obtain rfl := Option.some.inj hc'
        exact Direction.Before.irrefl _ _ (heq ▸ hback)
      · rintro ⟨-, hne⟩
        rcases Direction.before_or_eq_or_before c.direction e.id c.id with hback | heq | hbefore
        · exact hback
        · exact absurd ⟨hnil, c, rfl, heq.symm⟩ hne
        · exact absurd hbefore hahead
  · obtain ⟨first, hfirst, hprev, hleast⟩ := h.exists_prev hnil
    obtain ⟨-, hfirstSide⟩ := Collector.Search.mem_filter_wants.1 (h.found first hfirst)
    rw [hprev, Direction.reverse_before, hasked]
    constructor
    · intro hbefore
      refine ⟨fun hside => ?_, fun hempty => hnil hempty.1⟩
      have hnot : e ∉ page.items := fun hmem => hleast e hmem hbefore
      exact hbefore.asymm ((h.covered e (hasked.2 hside) hnot).2 first hfirst)
    · rintro ⟨hnot, -⟩
      -- the event does not lie beyond the place of the request, and the first on the page does
      obtain ⟨c, hc, hside⟩ : ∃ c ∈ search.cursor, ¬ (directionOf search.cursor).Before c.id e.id := by
        simpa using hnot
      exact (hfirstSide c hc).of_not_before hside

end Begins

end Page

theorem Table.nodup_events {t : Table} (hsound : t.Sound)
    (hdistinct : ∀ e ∈ t.events, ∀ e' ∈ t.events, e.id = e'.id → e.log = e'.log) : t.events.Nodup :=
  (pairwise_events hsound hdistinct).imp fun hne heq => hne (congrArg Event.id heq)

/-! ### Reading on -/

namespace Collector

/-- What a client gets that reads page after page, from a cursor on, until a page is empty. -/
inductive Scans (c : Collector) (r : PageRequest) : String → List Event → Prop
  /-- The page from the cursor is empty. -/
  | stop {cursor : String} {page : Page} (hpage : c.getEvents { r with cursor := some cursor } = .ok page)
      (hnil : page.items = []) : Scans c r cursor []
  /-- The page from the cursor is not empty, and the client goes on from its next cursor. -/
  | go {cursor : String} {page : Page} {rest : List Event}
      (hpage : c.getEvents { r with cursor := some cursor } = .ok page) (hne : page.items ≠ [])
      (hrest : Scans c r page.next.text rest) : Scans c r cursor (page.items ++ rest)

variable {c : Collector} {crew : Crew} {store : Store} {t : Table} {r : PageRequest} {search : Search}

/-- What a client gets is determined. -/
theorem Scans.unique {cursor : String} {events events' : List Event} (h : c.Scans r cursor events)
    (h' : c.Scans r cursor events') : events = events' := by
  induction h generalizing events' with
  | stop hpage hnil =>
    cases h' with
    | stop => rfl
    | go hpage' hne _ =>
      obtain rfl := Except.ok.inj (hpage.symm.trans hpage')
      exact absurd hnil hne
  | go hpage hne _ ih =>
    cases h' with
    | stop hpage' hnil =>
      obtain rfl := Except.ok.inj (hpage.symm.trans hpage')
      exact absurd hnil hne
    | go hpage' _ hrest' =>
      obtain rfl := Except.ok.inj (hpage.symm.trans hpage')
      rw [ih hrest']

section Still

variable (hphase : c.phase = .running crew store) (htable : store.table = .ok t) (hsound : t.Sound)
  (hdistinct : ∀ e ∈ t.events, ∀ e' ∈ t.events, e.id = e'.id → e.log = e'.log)
  (hroster : r.logs = [] → ∀ name ∈ crew.roster.keys, LogName.Valid name)
  (hcheck : checkRequest c.settings r = .ok search)

include hphase htable hsound hdistinct hroster hcheck

/-- A request is answered with a page of the first events that it asks for. -/
theorem exists_page : ∃ page, c.getEvents r = .ok page ∧
    page.Begins search (crew.pageLogs r.logs) t.events := by
  obtain ⟨-, -, hnames, -, -⟩ := checkRequest_eq_ok_iff.1 hcheck
  have hvalid : ∀ log ∈ crew.pageLogs r.logs, LogName.Valid log :=
    fun log hlog => Crew.valid_of_mem_pageLogs hnames hroster hlog
  have hapart : Page.Apart ((crew.pageLogs r.logs).map t.eventsOf) :=
    Table.apart_eventsOf hsound hvalid (Crew.nodup_pageLogs _ _)
      fun log hlog log' hlog' hne e he e' he' heq => hne <| by
        rw [← Table.log_of_mem_eventsOf hsound (hvalid log hlog) he,
          ← Table.log_of_mem_eventsOf hsound (hvalid log' hlog') he']
        exact hdistinct e (t.eventsOf_subset_events log he) e' (t.eventsOf_subset_events log' he') heq
  refine ⟨_, ?_, (Page.shows_cut hapart).begins hsound hvalid⟩
  rw [getEvents_eq hphase htable hcheck, Page.read_eq hsound hvalid]
  rfl

/-- **Reading on from a cursor ends, and gets what lies beyond it.** -/
theorem exists_scans (cursor : Cursor) : ∃ events, c.Scans r cursor.text events ∧
    events.Perm (t.events.filter
      ({ search with cursor := some cursor }.wants (crew.pageLogs r.logs))) := by
  have hlimit : 0 < search.limit := limit_pos (checkRequest_eq_ok_iff.1 hcheck).1
  have hnodup := Table.nodup_events hsound hdistinct
  -- on the number of events that lie beyond the cursor
  generalize hcount : (t.events.filter
    ({ search with cursor := some cursor }.wants (crew.pageLogs r.logs))).length = n
  induction n using Nat.strongRecOn generalizing cursor with
  | ind n ih =>
    obtain ⟨page, hpage, hbegins⟩ := exists_page (r := { r with cursor := some cursor.text })
      hphase htable hsound hdistinct hroster (checkRequest_text hcheck cursor)
    by_cases hnil : page.items = []
    · refine ⟨[], .stop hpage hnil, ?_⟩
      rw [hbegins.eq_nil hlimit hnil]
    · have hperm : (page.items ++ t.events.filter
          ({ search with cursor := some page.next }.wants (crew.pageLogs r.logs))).Perm
            (t.events.filter ({ search with cursor := some cursor }.wants (crew.pageLogs r.logs))) :=
        hbegins.perm_next hlimit hnodup
      have hlength := hperm.length_eq
      have hpos := List.length_pos_iff.2 hnil
      rw [List.length_append] at hlength
      obtain ⟨rest, hrest, hbeyond⟩ := ih _ (by omega) page.next rfl
      exact ⟨page.items ++ rest, .go hpage hnil hrest, (hbeyond.append_left _).trans hperm⟩

end Still

/-- **A page and its two cursors reach each event once, but for an event at which an empty page stands.**

The store holds events, no two of different logs with one identifier, and the registered names can name logs.  A
request that passes the checks is answered with a page, and reading on from each of its two cursors ends.  Each event
of the requested logs that the search accepts is then on the page, or among those that are read from the one cursor or
from the other, and it is so once.  Where the page is empty and the request stood at a cursor, an event with the
identifier of that cursor is nowhere. -/
theorem getEvents_turns (hphase : c.phase = .running crew store) (htable : store.table = .ok t)
    (hsound : t.Sound)
    (hdistinct : ∀ e ∈ t.events, ∀ e' ∈ t.events, e.id = e'.id → e.log = e'.log)
    (hroster : r.logs = [] → ∀ name ∈ crew.roster.keys, LogName.Valid name)
    (hcheck : checkRequest c.settings r = .ok search) :
    ∃ page ahead back, c.getEvents r = .ok page ∧ c.Scans r page.next.text ahead ∧
      c.Scans r page.prev.text back ∧ (page.items ++ ahead ++ back).Nodup ∧
      ∀ e, e ∈ page.items ++ ahead ++ back ↔
        (e ∈ t.events ∧ e.log ∈ (if r.logs = [] then crew.roster.keys else r.logs) ∧
          search.accepts e = true) ∧ ¬ (page.items = [] ∧ ∃ cursor ∈ search.cursor, cursor.id = e.id) := by
  have hlimit : 0 < search.limit := limit_pos (checkRequest_eq_ok_iff.1 hcheck).1
  have hnodup := Table.nodup_events hsound hdistinct
  obtain ⟨page, hpage, hbegins⟩ := exists_page hphase htable hsound hdistinct hroster hcheck
  obtain ⟨ahead, hahead, haheadPerm⟩ :=
    exists_scans hphase htable hsound hdistinct hroster hcheck page.next
  obtain ⟨back, hback, hbackPerm⟩ :=
    exists_scans hphase htable hsound hdistinct hroster hcheck page.prev
  -- the page and the way on are what is asked for, and the way back is the rest
  have hasked := (haheadPerm.append_left page.items).trans (hbegins.perm_next hlimit hnodup)
  refine ⟨page, ahead, back, hpage, hahead, hback, ?_, fun e => ?_⟩
  · refine List.nodup_append.2 ⟨hasked.nodup_iff.2 (hnodup.filter _),
      hbackPerm.nodup_iff.2 (hnodup.filter _), fun e he f hf heq => ?_⟩
    obtain ⟨-, hnot, -⟩ := (hbegins.mem_prev_iff hlimit).1 (hbackPerm.mem_iff.1 hf)
    exact hnot (heq ▸ hasked.mem_iff.1 he)
  · rw [List.mem_append, hasked.mem_iff, hbackPerm.mem_iff, hbegins.mem_prev_iff hlimit, ← crew.mem_pageLogs_iff]
    constructor
    · rintro (he | ⟨hseeks, -, hstands⟩)
      · refine ⟨(Search.mem_filter_wants.1 he).1, fun hempty => ?_⟩
        rw [hbegins.eq_nil hlimit hempty.1] at he
        cases he
      · exact ⟨hseeks, hstands⟩
    · rintro ⟨hseeks, hstands⟩
      by_cases he : e ∈ t.events.filter (search.wants (crew.pageLogs r.logs))
      · exact Or.inl he
      · exact Or.inr ⟨hseeks, he, hstands⟩

/-- From behind the first of three events, a page of one event. -/
theorem getEvents_turns_middle :
    let e : Event := ⟨.ofParts 1 0, "a", .ofNanos 5, [104]⟩
    let f : Event := ⟨.ofParts 2 0, "a", .ofNanos 6, [105]⟩
    let g : Event := ⟨.ofParts 3 0, "a", .ofNanos 7, [106]⟩
    let t : Table := ((SortedMap.empty.insert (Entry.key "a" e.id) (Entry.payload 5 [104])).insert
      (Entry.key "a" f.id) (Entry.payload 6 [105])).insert (Entry.key "a" g.id) (Entry.payload 7 [106])
    let crew : Crew := { statePath := "home/logd.json", maxSize := 8, roster := .empty }
    let c : Collector :=
      { settings := .inHome "home", phase := .running crew { settings := {}, table? := some t } }
    let r : PageRequest := { logs := ["a"], cursor := some (Cursor.forward e.id).text, limit := some 1 }
    ∃ page ahead back, c.getEvents r = .ok page ∧ c.Scans r page.next.text ahead ∧
      c.Scans r page.prev.text back ∧ (page.items ++ ahead ++ back).Nodup ∧ page.items = [f] ∧
      e ∈ page.items ++ ahead ++ back ∧ g ∈ page.items ++ ahead ++ back := by
  intro e f g t crew c r
  have he : (Instant.ofNanos 5).nanos? = some 5 := rfl
  have hf : (Instant.ofNanos 6).nanos? = some 6 := rfl
  have hg : (Instant.ofNanos 7).nanos? = some 7 := rfl
  have hsound : t.Sound :=
    ((Table.sound_empty.insert (Entry.isEntry_key (by decide) e.id he [104])).insert
      (Entry.isEntry_key (by decide) f.id hf [105])).insert (Entry.isEntry_key (by decide) g.id hg [106])
  have hdistinct : ∀ e ∈ t.events, ∀ e' ∈ t.events, e.id = e'.id → e.log = e'.log := by decide +kernel
  have hroster : r.logs = [] → ∀ name ∈ crew.roster.keys, LogName.Valid name :=
    fun hnil => absurd hnil (List.cons_ne_nil _ _)
  have hanywhere : checkRequest c.settings { logs := ["a"], limit := some 1 } =
      .ok { cursor := none, limit := 1, logs := ["a"], filter := none } := rfl
  have hcheck := checkRequest_text hanywhere (.forward e.id)
  obtain ⟨page, ahead, back, hpage, hahead, hback, hnodup, hmem⟩ :=
    getEvents_turns (r := r) rfl rfl hsound hdistinct hroster hcheck
  have hshown : c.getEvents r = .ok ⟨[f], .backward f.id, .forward f.id⟩ := by decide +kernel
  obtain rfl := Except.ok.inj (hshown.symm.trans hpage)
  have hfull : ∀ i, ¬ ([f] = [] ∧ ∃ cursor ∈ some (Cursor.forward e.id), cursor.id = i) :=
    fun i h => List.cons_ne_nil f [] h.1
  exact ⟨_, ahead, back, hpage, hahead, hback, hnodup, rfl,
    (hmem e).2 ⟨⟨by decide +kernel, List.mem_cons_self, rfl⟩, hfull _⟩,
    (hmem g).2 ⟨⟨by decide +kernel, List.mem_cons_self, rfl⟩, hfull _⟩⟩

/-- Behind the only event of a log, neither cursor of the empty page leads to it.  And where a name that is registered
cannot name a log, being the name of a log and a NUL, the page shows the event and leads on to itself. -/
theorem getEvents_turns_past_event :
    let e : Event := ⟨.ofParts 1 0, "a", .ofNanos 5, [104]⟩
    let t : Table := SortedMap.empty.insert (Entry.key "a" e.id) (Entry.payload 5 [104])
    let crew : Crew := { statePath := "home/logd.json", maxSize := 8,
                         roster := (SortedMap.empty.insert "a" ⟨"out"⟩).insert "a\x00" ⟨"out"⟩ }
    let c : Collector :=
      { settings := .inHome "home", phase := .running crew { settings := {}, table? := some t } }
    let named : PageRequest := { logs := ["a"], cursor := some (Cursor.forward e.id).text }
    let unnamed : PageRequest := { cursor := some (Cursor.forward e.id).text }
    t.Sound ∧ t.events = [e] ∧ 0 < e.id.value ∧
      (∃ page, c.getEvents named = .ok page ∧ page.items = [] ∧ c.Scans named page.next.text [] ∧
        c.Scans named page.prev.text []) ∧
      ∃ page, c.getEvents unnamed = .ok page ∧ page.items = [e] ∧
        ∀ events, ¬ c.Scans unnamed page.next.text events := by
  intro e t crew c named unnamed
  have he : (Instant.ofNanos 5).nanos? = some 5 := rfl
  have hempty : c.getEvents named = .ok ⟨[], .backward e.id, .forward e.id⟩ := by decide +kernel
  have hback : c.getEvents { named with cursor := some (Cursor.backward e.id).text } =
      .ok ⟨[], .forward e.id, .backward e.id⟩ := by decide +kernel
  have hagain : c.getEvents unnamed = .ok ⟨[e], .backward e.id, .forward e.id⟩ := by decide +kernel
  refine ⟨Table.sound_empty.insert (Entry.isEntry_key (by decide) e.id he [104]), by decide +kernel, by decide,
    ⟨_, hempty, rfl, .stop hempty rfl, .stop hback rfl⟩, ⟨_, hagain, rfl, fun events hscans => ?_⟩⟩
  change c.Scans unnamed (Cursor.forward e.id).text events at hscans
  generalize hcursor : (Cursor.forward e.id).text = cursor at hscans
  induction hscans with
  | stop hpage hnil =>
    subst hcursor
    obtain rfl := Except.ok.inj (hagain.symm.trans hpage)
    cases hnil
  | go hpage _ _ ih =>
    subst hcursor
    obtain rfl := Except.ok.inj (hagain.symm.trans hpage)
    exact ih rfl

end Collector

end Logbook
