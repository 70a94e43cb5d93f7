import Logbook.Collector.Reader
import Logbook.Proofs.Page

/-!
# Page after page

Each page is read from where the last one has led, so pages lie one behind another.  An event is shown on the page
across which it lies, or not at all, and it is shown if it is there when its log is read for that page.

## Main definitions

* `Reading.Right` — a page shows what there is to be found in the logs.
* `Reading.Spans` — an identifier lies across a page.
* `Walk` — pages that are read one after another.
* `Walk.met` — the events that are met on the way.

## Main results

* `Reading.Right.mem_items_iff` — which events a page shows.
* `Walk.spans_or_ahead` — what has been passed lies across a page.
* `Walk.pairwise_met` — a walk meets events in order.
-/

namespace Logbook

/-- Whether an event is one that is searched for. -/
def Collector.Search.accepts (search : Collector.Search) (e : Event) : Bool :=
  Filter.accepts (Filter.needle? search.filter) e

/-- The events that were seen. -/
def Look.view (look : Look) : List Event := look.table.eventsOf look.log

/-! ### One page -/

namespace Reading

/-- The direction in which a page was read. -/
def direction (r : Reading) : Direction := Page.directionOf r.cursor

/-- The events that were seen in each log. -/
def views (r : Reading) : List (List Event) := r.looks.map Look.view

/-- What was asked of each log. -/
def query (search : Collector.Search) (r : Reading) : Query :=
  Page.queryOf r.cursor search.limit search.filter

/-- A page shows what there was to be found in the logs. -/
structure Right (search : Collector.Search) (logs : List String) (r : Reading) : Prop where
  /-- Each log was read, one after the other. -/
  logs : r.looks.map (·.log) = logs
  /-- Every row stood for an event. -/
  sound : ∀ look ∈ r.looks, look.table.Sound
  /-- The page is that of the events that were found. -/
  page : r.page = Page.ofEvents r.cursor search.limit (r.views.flatMap (r.query search).answer)

/-- An identifier lies behind the place from which a page was read, and not behind the place to which it led. -/
def Spans (r : Reading) (i : EventId) : Prop :=
  (∀ c ∈ r.cursor, r.direction.Before c.id i) ∧ ¬ r.direction.Before r.page.next.id i

/-- A page leads on in the direction in which it was read. -/
def Steady (r : Reading) : Prop := r.cursor.isSome ∨ r.page.items ≠ []

section Right

variable {search : Collector.Search} {logs : List String} {r : Reading}

theorem Right.shows (h : r.Right search logs) (hapart : Page.Apart r.views) :
    Page.Shows (r.query search) r.views r.page.items := by
  rw [h.page]
  exact Page.shows_cut hapart

/-- An event on a page was seen, and it is asked for. -/
theorem Right.exists_look (h : r.Right search logs) (hapart : Page.Apart r.views) {e : Event}
    (he : e ∈ r.page.items) : ∃ look ∈ r.looks, e ∈ look.view ∧
      (∀ c ∈ r.cursor, r.direction.Before c.id e.id) ∧ search.accepts e = true := by
  obtain ⟨view, hview, hselect⟩ := (h.shows hapart).found e he
  obtain ⟨look, hlook, rfl⟩ := List.mem_map.1 hview
  exact ⟨look, hlook, Page.mem_select.1 hselect⟩

/-- A page that is not empty leads on from one of its events, beyond which it shows none. -/
theorem Right.exists_next (h : r.Right search logs) (hapart : Page.Apart r.views)
    (hne : r.page.items ≠ []) : ∃ e ∈ r.page.items, r.page.next = ⟨e.id, r.direction⟩ ∧
      ∀ f ∈ r.page.items, ¬ r.direction.Before e.id f.id := by
  have hascending := (h.shows hapart).ascending
  rw [h.page] at hascending hne ⊢
  exact Page.exists_next hascending hne

theorem Right.next_of_nil (h : r.Right search logs) (hnil : r.page.items = []) :
    r.page.next = r.cursor.getD .start := by
  rw [h.page] at hnil ⊢
  exact Page.next_of_nil hnil

theorem Right.not_before_next (h : r.Right search logs) (hapart : Page.Apart r.views) {e : Event}
    (he : e ∈ r.page.items) : ¬ r.direction.Before r.page.next.id e.id := by
  obtain ⟨last, -, hnext, hlast⟩ := h.exists_next hapart (List.ne_nil_of_mem he)
  rw [hnext]
  exact hlast e he

theorem Right.spans (h : r.Right search logs) (hapart : Page.Apart r.views) {e : Event}
    (he : e ∈ r.page.items) : r.Spans e.id := by
  obtain ⟨look, hlook, hview, hadmits, haccepts⟩ := h.exists_look hapart he
  exact ⟨hadmits, h.not_before_next hapart he⟩

/-- What a page leaves out lies beyond the place to which it leads. -/
theorem Right.beyond (h : r.Right search logs) (hapart : Page.Apart r.views)
    (hlimit : 0 < search.limit) {look : Look} (hlook : look ∈ r.looks) {e : Event}
    (he : e ∈ look.view) (hadmits : ∀ c ∈ r.cursor, r.direction.Before c.id e.id)
    (haccepts : search.accepts e = true) (hnot : e ∉ r.page.items) :
    r.page.items ≠ [] ∧ r.direction.Before r.page.next.id e.id := by
  have hselect : e ∈ (r.query search).select look.view :=
    Page.mem_select.2 ⟨he, hadmits, haccepts⟩
  obtain ⟨hlength, hbefore⟩ :=
    (h.shows hapart).covered look.view (List.mem_map_of_mem hlook) e hselect hnot
  have hne : r.page.items ≠ [] := by
    intro hnil
    rw [hnil] at hlength
    exact Nat.lt_irrefl 0 (Nat.lt_of_lt_of_eq hlimit hlength.symm)
  obtain ⟨last, hmem, hnext, -⟩ := h.exists_next hapart hne
  rw [hnext]
  exact ⟨hne, hbefore last hmem⟩

/-- **A page shows the events across which it lies, if they were seen and are searched for.** -/
theorem Right.mem_items_iff (h : r.Right search logs) (hapart : Page.Apart r.views)
    (hlimit : 0 < search.limit) {e : Event} (hspans : r.Spans e.id) :
    e ∈ r.page.items ↔ (∃ look ∈ r.looks, e ∈ look.view) ∧ search.accepts e = true := by
  constructor
  · intro he
    obtain ⟨look, hlook, hview, -, haccepts⟩ := h.exists_look hapart he
    exact ⟨⟨look, hlook, hview⟩, haccepts⟩
  · rintro ⟨⟨look, hlook, hview⟩, haccepts⟩
    by_cases he : e ∈ r.page.items
    · exact he
    · exact absurd (h.beyond hapart hlimit hlook hview hspans.1 haccepts he).2 hspans.2

theorem Right.direction_next (h : r.Right search logs) (hapart : Page.Apart r.views)
    (hsteady : r.Steady) : r.page.next.direction = r.direction := by
  by_cases hnil : r.page.items = []
  · rw [h.next_of_nil hnil, direction]
    rcases hsteady with hsome | hne
    · obtain ⟨c, hc⟩ := Option.isSome_iff_exists.1 hsome
      rw [hc]
      rfl
    · exact absurd hnil hne
  · obtain ⟨e, -, hnext, -⟩ := h.exists_next hapart hnil
    rw [hnext]

/-- A page does not lead back. -/
theorem Right.not_next_before (h : r.Right search logs) (hapart : Page.Apart r.views) :
    ∀ c ∈ r.cursor, ¬ r.direction.Before r.page.next.id c.id := by
  intro c hc
  by_cases hnil : r.page.items = []
  · rw [h.next_of_nil hnil, Option.mem_def.1 hc]
    exact Direction.Before.irrefl _ _
  · obtain ⟨e, he, hnext, -⟩ := h.exists_next hapart hnil
    obtain ⟨look, hlook, hview, hadmits, -⟩ := h.exists_look hapart he
    rw [hnext]
    exact (hadmits c hc).asymm

end Right

end Reading

/-! ### One page after another -/

/-- Pages that are read one after another, each from where the last one has led, and where the last one leads. -/
inductive Walk (search : Collector.Search) (logs : List String) :
    List Reading → Option Cursor → Prop
  /-- Nothing has been read. -/
  | start : Walk search logs [] search.cursor
  /-- One more page is read. -/
  | page {readings : List Reading} {r : Reading} (h : Walk search logs readings r.cursor)
    (hright : r.Right search logs) : Walk search logs (readings ++ [r]) (some r.page.next)

namespace Walk

/-- Pages on which no identifier was seen in two logs, and which lead on. -/
structure Onward (readings : List Reading) : Prop where
  /-- No identifier was seen in two logs. -/
  apart : ∀ r ∈ readings, Page.Apart r.views
  /-- Each page leads on in the direction in which it was read. -/
  steady : ∀ r ∈ readings, r.Steady

theorem Onward.init {readings : List Reading} {r : Reading} (h : Onward (readings ++ [r])) :
    Onward readings where
  apart r' hr' := h.apart r' (List.mem_append_left _ hr')
  steady r' hr' := h.steady r' (List.mem_append_left _ hr')

theorem Onward.last {readings : List Reading} {r : Reading} (h : Onward (readings ++ [r])) :
    Page.Apart r.views ∧ r.Steady :=
  ⟨h.apart r List.mem_concat_self, h.steady r List.mem_concat_self⟩

variable {search : Collector.Search} {logs : List String} {readings : List Reading}
  {cursor : Option Cursor}

theorem right (h : Walk search logs readings cursor) : ∀ r ∈ readings, r.Right search logs := by
  induction h with
  | start => exact nofun
  | page _ hright ih =>
    intro r hr
    rcases List.mem_append.1 hr with hr | hr
    · exact ih r hr
    · rw [List.mem_singleton.1 hr]
      exact hright

theorem isSome_cursor (h : Walk search logs readings cursor) (hstart : search.cursor.isSome) :
    cursor.isSome := by
  cases h with
  | start => exact hstart
  | page => rfl

theorem isSome_cursor_of_mem (h : Walk search logs readings cursor) (hstart : search.cursor.isSome) :
    ∀ r ∈ readings, r.cursor.isSome := by
  induction h with
  | start => exact nofun
  | page hwalk _ ih =>
    intro r hr
    rcases List.mem_append.1 hr with hr | hr
    · exact ih r hr
    · rw [List.mem_singleton.1 hr]
      exact hwalk.isSome_cursor hstart

theorem exists_cursor (h : Walk search logs readings cursor) (hne : readings ≠ []) :
    ∃ c, cursor = some c := by
  cases h with
  | start => exact absurd rfl hne
  | page => exact ⟨_, rfl⟩

/-- The last page of a walk, and the walk before it. -/
theorem of_concat {r : Reading} (h : Walk search logs (readings ++ [r]) cursor) :
    Walk search logs readings r.cursor ∧ r.Right search logs := by
  -- the list is made a variable, so that the last page can be split off
  generalize hreadings : readings ++ [r] = all at h
  cases h with
  | start => exact absurd hreadings (List.append_ne_nil_of_right_ne_nil _ (List.cons_ne_nil _ _))
  | page hwalk hright =>
    obtain ⟨rfl, hlast⟩ := List.append_inj' hreadings rfl
    obtain rfl := List.head_eq_of_cons_eq hlast
    exact ⟨hwalk, hright⟩

/-- A walk does not turn. -/
theorem direction_eq (h : Walk search logs readings cursor) (honward : Onward readings) :
    Page.directionOf cursor = Page.directionOf search.cursor := by
  induction h with
  | start => rfl
  | page _ hright ih =>
    rw [← ih honward.init]
    exact hright.direction_next honward.last.1 honward.last.2

theorem direction_mem (h : Walk search logs readings cursor) (honward : Onward readings) :
    ∀ r ∈ readings, r.direction = Page.directionOf search.cursor := by
  induction h with
  | start => exact nofun
  | page hwalk _ ih =>
    intro r hr
    rcases List.mem_append.1 hr with hr | hr
    · exact ih honward.init r hr
    · rw [List.mem_singleton.1 hr]
      exact hwalk.direction_eq honward.init

/-- A walk does not go back behind its start. -/
theorem not_before_start (h : Walk search logs readings cursor) (honward : Onward readings) :
    ∀ c ∈ search.cursor, ∃ c' ∈ cursor, ¬ (Page.directionOf search.cursor).Before c'.id c.id := by
  intro c hc
  induction h with
  | start => exact ⟨c, hc, Direction.Before.irrefl _ _⟩
  | page hwalk hright ih =>
    obtain ⟨c', hcursor, hstart⟩ := ih honward.init
    have hback := hright.not_next_before honward.last.1 c' hcursor
    rw [Reading.direction, hwalk.direction_eq honward.init] at hback
    exact ⟨_, rfl, Direction.not_before_trans hstart hback⟩

/-- No page has led beyond where the walk stands. -/
theorem not_before_next (h : Walk search logs readings cursor) (honward : Onward readings) :
    ∀ r ∈ readings, ∀ c ∈ cursor,
      ¬ (Page.directionOf search.cursor).Before c.id r.page.next.id := by
  induction h with
  | start => exact nofun
  | page hwalk hright ih =>
    intro r hr c hc
    obtain rfl := Option.some.inj hc
    rcases List.mem_append.1 hr with hr | hr
    · obtain ⟨c, hcursor⟩ := hwalk.exists_cursor (List.ne_nil_of_mem hr)
      have hback := hright.not_next_before honward.last.1 c hcursor
      rw [Reading.direction, hwalk.direction_eq honward.init] at hback
      exact Direction.not_before_trans (ih honward.init r hr c hcursor) hback
    · rw [List.mem_singleton.1 hr]
      exact Direction.Before.irrefl _ _

/-- **What lies on the side to which a walk leads lies across one of its pages, or ahead.** -/
theorem spans_or_ahead (h : Walk search logs readings cursor) (honward : Onward readings)
    {i : EventId} (hi : ∀ c ∈ search.cursor, (Page.directionOf search.cursor).Before c.id i) :
    (∃ r ∈ readings, r.Spans i) ∨ ∀ c ∈ cursor, (Page.directionOf search.cursor).Before c.id i := by
  induction h with
  | start => exact Or.inr hi
  | @page readings r hwalk hright ih =>
    rcases ih honward.init with ⟨r', hr', hspans⟩ | hahead
    · exact Or.inl ⟨r', List.mem_append_left _ hr', hspans⟩
    · have hdirection : r.direction = Page.directionOf search.cursor :=
        hwalk.direction_eq honward.init
      by_cases hbefore : r.direction.Before r.page.next.id i
      · refine Or.inr fun c hc => ?_
        obtain rfl := Option.some.inj hc
        rw [← hdirection]
        exact hbefore
      · refine Or.inl ⟨r, List.mem_concat_self, fun c hc => ?_, hbefore⟩
        rw [hdirection]
        exact hahead c hc

/-- What lies across a page has been passed. -/
theorem not_ahead_of_spans (h : Walk search logs readings cursor) (honward : Onward readings)
    {r : Reading} (hr : r ∈ readings) {i : EventId} (hspans : r.Spans i) :
    ∀ c ∈ cursor, ¬ (Page.directionOf search.cursor).Before c.id i := by
  intro c hc
  have hnext := h.not_before_next honward r hr c hc
  have hbeyond := hspans.2
  rw [h.direction_mem honward r hr] at hbeyond
  exact Direction.not_before_trans hbeyond hnext

/-- Each page is read from behind all earlier ones. -/
theorem pairwise_next (h : Walk search logs readings cursor) (honward : Onward readings) :
    readings.Pairwise fun r r' => ∃ c ∈ r'.cursor,
      ¬ (Page.directionOf search.cursor).Before c.id r.page.next.id := by
  induction h with
  | start => exact .nil
  | page hwalk hright ih =>
    rw [List.pairwise_append]
    refine ⟨ih honward.init, List.pairwise_singleton _ _, fun r hr r' hr' => ?_⟩
    obtain ⟨c, hcursor⟩ := hwalk.exists_cursor (List.ne_nil_of_mem hr)
    rw [List.mem_singleton.1 hr']
    exact ⟨c, hcursor, hwalk.not_before_next honward.init r hr c hcursor⟩

/-! ### What a walk meets -/

/-- The events that a walk meets, in the order in which it does. -/
def met (d : Direction) (readings : List Reading) : List Event :=
  readings.flatMap fun r => Page.scanned d r.page.items

theorem mem_met {d : Direction} {e : Event} :
    e ∈ met d readings ↔ ∃ r ∈ readings, e ∈ r.page.items := by
  rw [met, List.mem_flatMap]
  simp only [Page.mem_scanned]

theorem met_concat (d : Direction) (readings : List Reading) (r : Reading) :
    met d (readings ++ [r]) = met d readings ++ Page.scanned d r.page.items := by
  rw [met, List.flatMap_append, List.flatMap_singleton, met]

/-- An event that was met has been passed. -/
theorem not_ahead_of_mem_met (h : Walk search logs readings cursor) (honward : Onward readings)
    {e : Event} (he : e ∈ met (Page.directionOf search.cursor) readings) :
    ∀ c ∈ cursor, ¬ (Page.directionOf search.cursor).Before c.id e.id := by
  obtain ⟨r, hr, he⟩ := mem_met.1 he
  exact h.not_ahead_of_spans honward hr ((h.right r hr).spans (honward.apart r hr) he)

theorem Onward.of_dropLast {readings : List Reading} (h : Onward readings) :
    Onward readings.dropLast where
  apart r hr := h.apart r ((List.dropLast_sublist _).mem hr)
  steady r hr := h.steady r ((List.dropLast_sublist _).mem hr)

/-- What a walk meets lies on the side to which it leads. -/
theorem ahead_of_start (h : Walk search logs readings cursor) (honward : Onward readings.dropLast)
    (hapart : ∀ r ∈ readings, Page.Apart r.views) {d : Direction} {e : Event}
    (he : e ∈ met d readings) :
    ∀ c ∈ search.cursor, (Page.directionOf search.cursor).Before c.id e.id := by
  induction h with
  | start => cases he
  | @page readings r hwalk hright ih =>
    rw [List.dropLast_concat] at honward
    rw [met_concat, List.mem_append, Page.mem_scanned] at he
    rcases he with he | he
    · exact ih honward.of_dropLast honward.apart he
    · intro c hc
      obtain ⟨c', hcursor, hstart⟩ := hwalk.not_before_start honward c hc
      obtain ⟨-, -, -, hadmits, -⟩ := hright.exists_look (hapart r List.mem_concat_self) he
      have hahead := hadmits c' hcursor
      rw [Reading.direction, hwalk.direction_eq honward] at hahead
      exact hahead.of_not_before hstart

/-- **A walk meets events in order**, also where the last page does not lead on. -/
theorem pairwise_met (h : Walk search logs readings cursor) (honward : Onward readings.dropLast)
    (hapart : ∀ r ∈ readings, Page.Apart r.views) :
    (met (Page.directionOf search.cursor) readings).Pairwise fun a b =>
      (Page.directionOf search.cursor).Before a.id b.id := by
  induction h with
  | start => exact .nil
  | @page readings r hwalk hright ih =>
    rw [List.dropLast_concat] at honward
    have hprevious := ih honward.of_dropLast honward.apart
    have hlast := hapart r List.mem_concat_self
    have hascending := (hright.shows hlast).ascending
    rw [met_concat, List.pairwise_append]
    refine ⟨hprevious, Page.pairwise_scanned.2 hascending, fun e he f hf => ?_⟩
    -- the walk has passed `e` and `f` lies ahead of it
    rw [Page.mem_scanned] at hf
    obtain ⟨-, -, -, hadmits, -⟩ := hright.exists_look hlast hf
    obtain ⟨r', hr', -⟩ := mem_met.1 he
    obtain ⟨c, hcursor⟩ := hwalk.exists_cursor (List.ne_nil_of_mem hr')
    have hahead := hadmits c hcursor
    rw [Reading.direction, hwalk.direction_eq honward] at hahead
    exact hahead.of_not_before (hwalk.not_ahead_of_mem_met honward he c hcursor)

/-- **A walk that ends at an empty page has met every event that was seen in all pages.** -/
theorem mem_met_of_seen {r : Reading} (h : Walk search logs (readings ++ [r]) cursor)
    (honward : Onward readings) (hapart : Page.Apart r.views) (hlimit : 0 < search.limit)
    (hnil : r.page.items = []) {e : Event} (haccepts : search.accepts e = true)
    (hside : ∀ c ∈ search.cursor, (Page.directionOf search.cursor).Before c.id e.id)
    (hseen : ∀ r' ∈ readings ++ [r], ∃ look ∈ r'.looks, e ∈ look.view) (d : Direction) :
    e ∈ met d (readings ++ [r]) := by
  obtain ⟨hwalk, hright⟩ := h.of_concat
  rcases hwalk.spans_or_ahead honward hside with ⟨r', hr', hspans⟩ | hahead
  · have hmem : r' ∈ readings ++ [r] := List.mem_append_left _ hr'
    refine mem_met.2 ⟨r', hmem, ?_⟩
    rw [(hwalk.right r' hr').mem_items_iff (honward.apart r' hr') hlimit hspans]
    exact ⟨hseen r' hmem, haccepts⟩
  · -- what lies ahead of the last page is shown on it, or something else is
    obtain ⟨look, hlook, hview⟩ := hseen r List.mem_concat_self
    have hadmits : ∀ c ∈ r.cursor, r.direction.Before c.id e.id := by
      rw [Reading.direction, hwalk.direction_eq honward]
      exact hahead
    have hnot : e ∉ r.page.items := by
      rw [hnil]
      exact nofun
    exact absurd hnil (hright.beyond hapart hlimit hlook hview hadmits haccepts hnot).1

/-- A walk meets an event on each page that is not empty. -/
theorem length_le_met (d : Direction) : ∀ {readings : List Reading},
    (∀ r ∈ readings, r.page.items ≠ []) → readings.length ≤ (met d readings).length := by
  intro readings
  induction readings with
  | nil => intro _; exact Nat.le_refl 0
  | cons r rest ih =>
    intro h
    obtain ⟨hr, hrest⟩ := List.forall_mem_cons.1 h
    have hpos := List.length_pos_iff.2 hr
    have hih := ih hrest
    rw [met, List.flatMap_cons, List.length_append, Page.length_scanned, List.length_cons]
    rw [met] at hih
    omega

end Walk

end Logbook
