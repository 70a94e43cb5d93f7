import Logbook.Proofs.Table

/-!
# What a page shows

A page is cut off a list of events on the side from which the direction starts, so whatever it leaves out
lies beyond everything that it shows.

## Main definitions

* `Direction.Before` — the order in which a walk meets identifiers.
* `Page.scanned` — some events in the order of a walk.

## Main results

* `Page.before_of_notMem_cut` — what is cut off lies beyond what is left.
-/

namespace Logbook

namespace Direction

/-- A walk in the direction meets `i` before `j`. -/
def Before (d : Direction) (i j : EventId) : Prop :=
  match d with
  | .forward => i < j
  | .backward => j < i

instance (d : Direction) (i j : EventId) : Decidable (d.Before i j) := by
  unfold Before
  cases d <;> infer_instance

variable {d : Direction} {i j k : EventId}

theorem Before.trans (h : d.Before i j) (h' : d.Before j k) : d.Before i k := by
  cases d with
  | forward => exact Nat.lt_trans h h'
  | backward => exact Nat.lt_trans h' h

theorem Before.irrefl (d : Direction) (i : EventId) : ¬ d.Before i i := by
  cases d with
  | forward => exact Nat.lt_irrefl _
  | backward => exact Nat.lt_irrefl _

theorem Before.asymm (h : d.Before i j) : ¬ d.Before j i :=
  fun h' => Before.irrefl d i (h.trans h')

theorem before_or_eq_or_before (d : Direction) (i j : EventId) :
    d.Before i j ∨ i = j ∨ d.Before j i := by
  have htotal : i.value < j.value ∨ i = j ∨ j.value < i.value := by
    rcases Nat.lt_trichotomy i.value j.value with h | h | h
    · exact Or.inl h
    · exact Or.inr (Or.inl (EventId.ext h))
    · exact Or.inr (Or.inr h)
  cases d with
  | forward => exact htotal
  | backward =>
    rcases htotal with h | h | h
    · exact Or.inr (Or.inr h)
    · exact Or.inr (Or.inl h)
    · exact Or.inl h

theorem not_before_trans (h : ¬ d.Before j i) (h' : ¬ d.Before k j) : ¬ d.Before k i := by
  intro hki
  rcases before_or_eq_or_before d i j with hij | rfl | hji
  · exact h' (hki.trans hij)
  · exact h' hki
  · exact h hji

/-- What lies beyond a place lies beyond all that does not lie beyond the place. -/
theorem Before.of_not_before (h : d.Before j k) (h' : ¬ d.Before j i) : d.Before i k := by
  rcases before_or_eq_or_before d i j with hij | rfl | hji
  · exact hij.trans h
  · exact h
  · exact absurd hji h'

end Direction

/-! ### Lists in order -/

theorem nodup_of_ascending {events : List Event} (h : events.Pairwise fun a b => a.id < b.id) :
    events.Nodup := by
  refine h.imp fun {a b} hlt heq => ?_
  rw [heq] at hlt
  exact Nat.lt_irrefl _ hlt

/-- Two lists of the same events, both in ascending order, are equal. -/
theorem eq_of_ascending {events events' : List Event} (h : events.Pairwise fun a b => a.id < b.id)
    (h' : events'.Pairwise fun a b => a.id < b.id) (hmem : ∀ e, e ∈ events ↔ e ∈ events') :
    events = events' := by
  have hperm : events.Perm events' :=
    (List.perm_ext_iff_of_nodup (nodup_of_ascending h) (nodup_of_ascending h')).2 hmem
  refine hperm.eq_of_pairwise ?_ h h'
  intro a b _ _ hab hba
  exact absurd hba (Nat.lt_asymm hab)

/-- Who holds a place among others leaves one of them without. -/
theorem exists_notMem_of_length_le {l l' : List Event} (h : l.Nodup) (hle : l'.length ≤ l.length)
    {e : Event} (he : e ∈ l') (hnot : e ∉ l) : ∃ f ∈ l, f ∉ l' := by
  by_cases hsubset : ∀ f ∈ l, f ∈ l'
  · have hlength : (e :: l).length ≤ l'.length := by
      refine (List.nodup_cons.2 ⟨hnot, h⟩).length_le_of_subset fun f hf => ?_
      rcases List.mem_cons.1 hf with rfl | hf
      · exact he
      · exact hsubset f hf
    rw [List.length_cons] at hlength
    exact absurd (Nat.le_trans hlength hle) (Nat.not_succ_le_self _)
  · simpa using hsubset

theorem Query.admits_iff (q : Query) (e : Event) :
    q.admits e = true ↔ ∀ i ∈ q.cursor, q.direction.Before i e.id := by
  unfold Query.admits
  cases hcursor : q.cursor with
  | none => simp
  | some id =>
    cases hdirection : q.direction with
    | forward => simp [Direction.Before]
    | backward => simp [Direction.Before]

namespace Page

/-- Some events in the order in which a walk meets them. -/
def scanned (d : Direction) (events : List Event) : List Event :=
  match d with
  | .forward => events
  | .backward => events.reverse

@[simp] theorem mem_scanned {d : Direction} {events : List Event} {e : Event} :
    e ∈ scanned d events ↔ e ∈ events := by
  cases d with
  | forward => exact Iff.rfl
  | backward => exact List.mem_reverse

@[simp] theorem length_scanned (d : Direction) (events : List Event) :
    (scanned d events).length = events.length := by
  cases d with
  | forward => rfl
  | backward => exact List.length_reverse

@[simp] theorem scanned_scanned (d : Direction) (events : List Event) :
    scanned d (scanned d events) = events := by
  cases d with
  | forward => rfl
  | backward => exact List.reverse_reverse events

theorem pairwise_scanned {d : Direction} {events : List Event} :
    (scanned d events).Pairwise (fun a b => d.Before a.id b.id) ↔
      events.Pairwise fun a b => a.id < b.id := by
  cases d with
  | forward => exact Iff.rfl
  | backward => exact List.pairwise_reverse

/-! ### Cuts -/

section Cut

variable {d : Direction} {n : Nat} {events : List Event}

theorem scanned_cut (d : Direction) (n : Nat) (events : List Event) :
    scanned d (cut d n events) = (scanned d events).take n := by
  cases d with
  | forward => rfl
  | backward => exact List.take_reverse.symm

theorem cut_sublist (d : Direction) (n : Nat) (events : List Event) :
    (cut d n events).Sublist events := by
  cases d with
  | forward => exact List.take_sublist _ _
  | backward => exact List.drop_sublist _ _

theorem length_cut_le (d : Direction) (n : Nat) (events : List Event) :
    (cut d n events).length ≤ n := by
  rw [← length_scanned d, scanned_cut, List.length_take]
  exact Nat.min_le_left _ _

theorem length_cut_of_le (h : n ≤ events.length) : (cut d n events).length = n := by
  rw [← length_scanned d, scanned_cut, List.length_take, length_scanned]
  exact Nat.min_eq_left h

/-- What is cut off lies beyond what is left. -/
theorem before_of_notMem_cut (h : events.Pairwise fun a b => a.id < b.id) {e : Event}
    (he : e ∈ events) (hcut : e ∉ cut d n events) : ∀ f ∈ cut d n events, d.Before f.id e.id := by
  intro f hf
  rw [← mem_scanned (d := d), scanned_cut] at hf hcut
  rw [← mem_scanned (d := d), ← List.take_append_drop n (scanned d events), List.mem_append] at he
  rw [← pairwise_scanned (d := d), ← List.take_append_drop n (scanned d events),
    List.pairwise_append] at h
  rcases he with he | he
  · exact absurd he hcut
  · exact h.2.2 f hf e he

/-- A cut that leaves something out is full. -/
theorem length_of_notMem_cut {e : Event} (he : e ∈ events) (hcut : e ∉ cut d n events) :
    (cut d n events).length = n := by
  refine length_cut_of_le (Nat.le_of_lt (Nat.lt_of_not_le fun hle => hcut ?_))
  rw [← length_scanned d] at hle
  rw [← mem_scanned (d := d), scanned_cut, List.take_of_length_le hle, mem_scanned]
  exact he

end Cut

/-! ### Merging -/

/-- Events of several logs, none of which has an identifier of another's. -/
def Apart (views : List (List Event)) : Prop :=
  (∀ view ∈ views, view.Pairwise fun a b => a.id < b.id) ∧
    views.Pairwise fun view view' => ∀ a ∈ view, ∀ b ∈ view', a.id ≠ b.id

section Merge

variable {q : Query} {views : List (List Event)}

theorem answer_sublist (q : Query) (view : List Event) : (q.answer view).Sublist view :=
  (cut_sublist _ _ _).trans List.filter_sublist

theorem ascending_sorted {found : List Event} (h : found.Pairwise fun a b => a.id ≠ b.id) :
    (found.mergeSort fun a b => decide (a.id ≤ b.id)).Pairwise fun a b => a.id < b.id := by
  have hle : (found.mergeSort fun a b => decide (a.id ≤ b.id)).Pairwise fun a b =>
      decide (a.id ≤ b.id) = true := by
    refine List.pairwise_mergeSort (fun a b c hab hbc => ?_) (fun a b => ?_) found
    · rw [decide_eq_true_iff] at hab hbc ⊢
      exact Nat.le_trans hab hbc
    · rw [Bool.or_eq_true, decide_eq_true_iff, decide_eq_true_iff]
      exact Nat.le_total _ _
  -- putting events in order does not make them equal
  have hne : (found.mergeSort fun a b => decide (a.id ≤ b.id)).Pairwise fun a b => a.id ≠ b.id :=
    ((List.mergeSort_perm found _).pairwise_iff fun {a b} hab => Ne.symm hab).2 h
  refine hle.imp₂ (fun {a b} hab hne => ?_) hne
  rw [decide_eq_true_iff] at hab
  exact Nat.lt_of_le_of_ne hab fun heq => hne (EventId.ext heq)

/-- What is found in several logs can be put in order. -/
theorem ascending_found (h : Apart views) :
    ((views.flatMap q.answer).mergeSort fun a b => decide (a.id ≤ b.id)).Pairwise
      fun a b => a.id < b.id := by
  refine ascending_sorted (List.pairwise_flatMap.2 ⟨fun view hview => ?_, ?_⟩)
  · refine ((h.1 view hview).sublist (answer_sublist q view)).imp fun {a b} hlt heq => ?_
    rw [heq] at hlt
    exact Nat.lt_irrefl _ hlt
  · exact h.2.imp fun {view view'} hne a ha b hb =>
      hne a ((answer_sublist q view).mem ha) b ((answer_sublist q view').mem hb)

/-- Some events are those that a walk through several logs meets first, among the events that a query asks for. -/
structure Shows (q : Query) (views : List (List Event)) (items : List Event) : Prop where
  /-- They are in order. -/
  ascending : items.Pairwise fun a b => a.id < b.id
  /-- They come from the logs and are asked for. -/
  found : ∀ e ∈ items, ∃ view ∈ views, e ∈ q.select view
  /-- What is left out has no room and lies beyond. -/
  covered : ∀ view ∈ views, ∀ e ∈ q.select view, e ∉ items →
    items.length = q.limit ∧ ∀ f ∈ items, q.direction.Before f.id e.id

/-- Cutting what is found in each log leaves out nothing that is to be shown. -/
theorem shows_cut (h : Apart views) : Shows q views
    (cut q.direction q.limit
      ((views.flatMap q.answer).mergeSort fun a b => decide (a.id ≤ b.id))) := by
  have hsorted := ascending_found (q := q) h
  generalize hfound : (views.flatMap q.answer).mergeSort (fun a b => decide (a.id ≤ b.id)) = sorted
    at hsorted
  have hmem (e : Event) : e ∈ sorted ↔ ∃ view ∈ views, e ∈ q.answer view := by
    rw [← hfound, List.mem_mergeSort, List.mem_flatMap]
  refine ⟨hsorted.sublist (cut_sublist _ _ _), fun e he => ?_, fun view hview e he hnot => ?_⟩
  · obtain ⟨view, hview, he⟩ := (hmem e).1 ((cut_sublist _ _ _).mem he)
    exact ⟨view, hview, (cut_sublist _ _ _).mem he⟩
  · by_cases hanswer : e ∈ q.answer view
    · have hin := (hmem e).2 ⟨view, hview, hanswer⟩
      exact ⟨length_of_notMem_cut hin hnot, before_of_notMem_cut hsorted hin hnot⟩
    · -- the log alone has as many events before `e` as there is room for
      have hselect : (q.select view).Pairwise fun a b => a.id < b.id :=
        (h.1 view hview).sublist List.filter_sublist
      have hlength : (q.answer view).length = q.limit := length_of_notMem_cut he hanswer
      have hbefore := before_of_notMem_cut hselect he hanswer
      have hnodup : (q.answer view).Nodup :=
        nodup_of_ascending ((h.1 view hview).sublist (answer_sublist q view))
      have hin : ∀ f ∈ q.answer view, f ∈ sorted := fun f hf => (hmem f).2 ⟨view, hview, hf⟩
      refine ⟨length_cut_of_le ?_, fun f hf => ?_⟩
      · rw [← hlength]
        exact hnodup.length_le_of_subset hin
      · by_cases hf' : f ∈ q.answer view
        · exact hbefore f hf'
        · -- some event of the log has been crowded out, and it lies between `f` and `e`
          have hle : (cut q.direction q.limit sorted).length ≤ (q.answer view).length := by
            rw [hlength]
            exact length_cut_le _ _ _
          obtain ⟨g, hg, hgnot⟩ := exists_notMem_of_length_le hnodup hle hf hf'
          exact (before_of_notMem_cut hsorted (hin g hg) hgnot f hf).trans (hbefore g hg)

end Merge

/-! ### Where a page leads -/

/-- What a request asks for among the events of a log. -/
theorem mem_select {cursor : Option Cursor} {limit : Nat} {filter : Option String}
    {events : List Event} {e : Event} : e ∈ (queryOf cursor limit filter).select events ↔
      e ∈ events ∧ (∀ c ∈ cursor, (directionOf cursor).Before c.id e.id) ∧
        Filter.accepts (Filter.needle? filter) e = true := by
  have hside : (∀ i ∈ (queryOf cursor limit filter).cursor,
      (queryOf cursor limit filter).direction.Before i e.id) ↔
        ∀ c ∈ cursor, (directionOf cursor).Before c.id e.id := by
    change (∀ i ∈ cursor.map (·.id), (directionOf cursor).Before i e.id) ↔ _
    simp
  rw [Query.select, List.mem_filter, Bool.and_eq_true, Query.admits_iff, hside]
  exact Iff.rfl

section Next

variable {cursor : Option Cursor} {limit : Nat} {found : List Event}

/-- An empty page leads on from where the request stood. -/
theorem next_of_nil (h : (ofEvents cursor limit found).items = []) :
    (ofEvents cursor limit found).next = cursor.getD .start := by
  change (cursors cursor (ofEvents cursor limit found).items).2 = _
  rw [h]
  cases cursor with
  | none => rfl
  | some c => rfl

/-- A page leads on from the last event that a walk meets on it. -/
theorem next_of_getLast? {e : Event}
    (h : (scanned (directionOf cursor) (ofEvents cursor limit found).items).getLast? = some e) :
    (ofEvents cursor limit found).next = ⟨e.id, directionOf cursor⟩ := by
  change (cursors cursor (ofEvents cursor limit found).items).2 = _
  generalize (ofEvents cursor limit found).items = items at h
  have hne : items ≠ [] := by
    rintro rfl
    cases hdirection : directionOf cursor <;> rw [hdirection] at h <;> cases h
  have hfirst : items.head? = some (items.head hne) := List.head?_eq_some_head hne
  have hlast : items.getLast? = some (items.getLast hne) := List.getLast?_eq_some_getLast hne
  unfold cursors
  rw [hfirst, hlast]
  cases hdirection : directionOf cursor with
  | forward =>
    rw [hdirection] at h
    obtain rfl := Option.some.inj (hlast.symm.trans h)
    rfl
  | backward =>
    rw [hdirection, scanned, List.getLast?_reverse] at h
    obtain rfl := Option.some.inj (hfirst.symm.trans h)
    rfl

/-- A page that is not empty leads on from one of its events, beyond which it shows none. -/
theorem exists_next (hascending : (ofEvents cursor limit found).items.Pairwise fun a b => a.id < b.id)
    (hne : (ofEvents cursor limit found).items ≠ []) :
    ∃ e ∈ (ofEvents cursor limit found).items,
      (ofEvents cursor limit found).next = ⟨e.id, directionOf cursor⟩ ∧
        ∀ f ∈ (ofEvents cursor limit found).items, ¬ (directionOf cursor).Before e.id f.id := by
  rw [← pairwise_scanned (d := directionOf cursor)] at hascending
  have hnext := @next_of_getLast? cursor limit found
  generalize hitems : (ofEvents cursor limit found).items = items at hascending hne hnext ⊢
  have hne' : scanned (directionOf cursor) items ≠ [] := by
    intro hnil
    have hlength := length_scanned (directionOf cursor) items
    rw [hnil] at hlength
    exact hne (List.eq_nil_of_length_eq_zero hlength.symm)
  -- the last event that a walk meets on the page
  have hlast := List.getLast?_eq_some_getLast hne'
  refine ⟨_, mem_scanned.1 (List.getLast_mem hne'), hnext hlast, fun f hf => ?_⟩
  obtain ⟨init, hinit⟩ := List.getLast?_eq_some_iff.1 hlast
  rw [← mem_scanned (d := directionOf cursor), hinit, List.mem_append] at hf
  rw [hinit, List.pairwise_append] at hascending
  rcases hf with hf | hf
  · exact (hascending.2.2 f hf _ List.mem_cons_self).asymm
  · rw [List.mem_singleton.1 hf]
    exact Direction.Before.irrefl _ _

end Next

end Page

namespace Table

/-- All events of a table. -/
def events (t : Table) : List Event := t.entries.filterMap Entry.event?

theorem length_events_le (t : Table) : t.events.length ≤ t.size := List.length_filterMap_le _ _

theorem eventsOf_subset_events (t : Table) (log : String) : t.eventsOf log ⊆ t.events :=
  (List.filter_sublist.filterMap _).subset

/-- Where no identifier is in two of some logs, their lists of events are apart. -/
theorem apart_eventsOf {t : Table} (hsound : t.Sound) {logs : List String}
    (hvalid : ∀ log ∈ logs, LogName.Valid log) (hnodup : logs.Nodup)
    (hdistinct : ∀ log ∈ logs, ∀ log' ∈ logs, log ≠ log' →
      ∀ e ∈ t.eventsOf log, ∀ e' ∈ t.eventsOf log', e.id ≠ e'.id) :
    Page.Apart (logs.map t.eventsOf) := by
  constructor
  · intro view hview
    obtain ⟨log, hlog, rfl⟩ := List.mem_map.1 hview
    exact pairwise_eventsOf hsound (hvalid log hlog)
  · rw [List.pairwise_map]
    exact hnodup.imp_of_mem fun {log log'} hlog hlog' hne => hdistinct log hlog log' hlog' hne

end Table

/-! ### One table -/

namespace Page

variable {t : Table} {logs : List String}

theorem find_eq (hsound : t.Sound) (q : Query) : ∀ {logs : List String},
    (∀ log ∈ logs, LogName.Valid log) →
      find (fun _ => t) q logs = .ok ((logs.map t.eventsOf).flatMap q.answer) := by
  intro logs
  induction logs with
  | nil => intro _; rfl
  | cons log rest ih =>
    intro hvalid
    obtain ⟨hlog, hrest⟩ := List.forall_mem_cons.1 hvalid
    rw [find, Table.read_eq hsound hlog, ih hrest]
    rfl

/-- With room for the whole table, all that is asked for is shown. -/
theorem Shows.mem_iff {q : Query} {items : List Event} (h : Shows q (logs.map t.eventsOf) items)
    (hlimit : t.size ≤ q.limit) {e : Event} :
    e ∈ items ↔ ∃ log ∈ logs, e ∈ q.select (t.eventsOf log) := by
  have hitems : ∀ f ∈ items, ∃ log ∈ logs, f ∈ q.select (t.eventsOf log) := by
    intro f hf
    obtain ⟨view, hview, hf⟩ := h.found f hf
    obtain ⟨log, hlog, rfl⟩ := List.mem_map.1 hview
    exact ⟨log, hlog, hf⟩
  refine ⟨hitems e, ?_⟩
  rintro ⟨log, hlog, he⟩
  by_cases hmem : e ∈ items
  · exact hmem
  · -- otherwise the page is full, and the table holds one event more
    obtain ⟨hlength, -⟩ := h.covered _ (List.mem_map_of_mem hlog) e he hmem
    have hsubset : e :: items ⊆ t.events := by
      intro f hf
      have hf : ∃ log, f ∈ q.select (t.eventsOf log) := by
        rcases List.mem_cons.1 hf with rfl | hf
        · exact ⟨log, he⟩
        · obtain ⟨log', -, hf⟩ := hitems f hf
          exact ⟨log', hf⟩
      obtain ⟨log', hf⟩ := hf
      exact t.eventsOf_subset_events log' (List.mem_filter.1 hf).1
    have hnodup := List.nodup_cons.2 ⟨hmem, nodup_of_ascending h.ascending⟩
    have hmore := hnodup.length_le_of_subset hsubset
    have hsize := t.length_events_le
    rw [List.length_cons] at hmore
    omega

/-- A request is answered from a table. -/
theorem read_eq (hsound : t.Sound) (hvalid : ∀ log ∈ logs, LogName.Valid log)
    (cursor : Option Cursor) (limit : Nat) (filter : Option String) :
    read (fun _ => t) logs cursor limit filter = .ok (ofEvents cursor limit
      ((logs.map t.eventsOf).flatMap (queryOf cursor limit filter).answer)) := by
  rw [read, find_eq hsound _ hvalid]
  rfl

/-- The answer is a page that shows what the table holds. -/
theorem exists_read (hsound : t.Sound) (hvalid : ∀ log ∈ logs, LogName.Valid log)
    (hapart : Apart (logs.map t.eventsOf)) (cursor : Option Cursor) (limit : Nat)
    (filter : Option String) :
    ∃ page, read (fun _ => t) logs cursor limit filter = .ok page ∧
      Shows (queryOf cursor limit filter) (logs.map t.eventsOf) page.items :=
  ⟨_, read_eq hsound hvalid cursor limit filter, shows_cut hapart⟩

end Page

end Logbook
