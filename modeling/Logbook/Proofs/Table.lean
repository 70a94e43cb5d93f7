import Logbook.Page
import Logbook.Proofs.Entry

/-!
# What a table holds

A table is seen as the list of events of each log.  Reading, counting, appending and trimming are said on these
lists, and no change to one log shows in the list of another.

## Main definitions

* `Entry.IsEntry`, `Table.Sound` — rows that stand for events, and tables of such rows.
* `Table.eventsOf` — the events of a log.
* `Query.answer` — what a query is to find in a list of events.

## Main results

* `Table.read_eq` — a read finds what the query is to find, and does not fail.
* `Table.eventsOf_insert`, `Table.eventsOf_insert_of_ne` — an append.
* `Table.eventsOf_trim`, `Table.eventsOf_trim_of_ne` — a removal.
-/

namespace Logbook

namespace Entry

/-- A row stands for an event. -/
structure IsEntry (r : Row) (e : Event) : Prop where
  /-- The event belongs to a log. -/
  valid : LogName.Valid e.log
  /-- The key is that of the event. -/
  key : r.1 = Entry.key e.log e.id
  /-- The event is read back from the row. -/
  decodes : decode r.1 r.2 = .ok e

/-- The row of what a log is given stands for an event. -/
theorem isEntry_key {log : String} (hlog : LogName.Valid log) (id : EventId) {timestamp : Instant}
    {n : Nat} (hn : timestamp.nanos? = some n) (message : Bytes) :
    IsEntry (key log id, payload n message) { id, log, timestamp := .ofNanos n, message } where
  valid := hlog
  key := rfl
  decodes := decode_key_value log id hn (value_eq_ok_iff.2 ⟨n, hn, rfl⟩)

theorem IsEntry.owns_iff {r : Row} {e : Event} (h : IsEntry r e) {log : String}
    (hlog : LogName.Valid log) : Table.owns log r.1 = true ↔ log = e.log := by
  rw [h.key]
  exact owns_key_iff hlog h.valid e.id

theorem IsEntry.unique {r : Row} {e e' : Event} (h : IsEntry r e) (h' : IsEntry r e') : e = e' :=
  Except.ok.inj (h.decodes.symm.trans h'.decodes)

/-- The event of a row, if it stands for one. -/
def event? (r : Row) : Option Event := (decode r.1 r.2).toOption

theorem IsEntry.event?_eq {r : Row} {e : Event} (h : IsEntry r e) : event? r = some e := by
  rw [event?, h.decodes]
  rfl

end Entry

open Entry (IsEntry event?)

/-! ### Lists -/

/-- Of two members of a list, one comes before the other, unless they are the same. -/
theorem rel_or_eq_or_rel {α : Type} {R : α → α → Prop} {l : List α} (h : l.Pairwise R) {a b : α}
    (ha : a ∈ l) (hb : b ∈ l) : R a b ∨ a = b ∨ R b a := by
  have hself : ∀ x ∈ l, R x x ∨ x = x ∨ R x x := fun x _ => Or.inr (Or.inl rfl)
  have hforward : l.Pairwise fun x y => R x y ∨ x = y ∨ R y x := h.imp Or.inl
  have hbackward : l.Pairwise fun x y => R y x ∨ y = x ∨ R x y :=
    h.imp fun hxy => Or.inr (Or.inr hxy)
  exact List.Pairwise.forall_of_forall_of_flip hself hforward hbackward ha hb

theorem filterMap_drop {α β : Type} {f : α → Option β} : ∀ {l : List α} (n : Nat),
    (∀ a ∈ l, (f a).isSome) → (l.drop n).filterMap f = (l.filterMap f).drop n := by
  intro l
  induction l with
  | nil => intro n _; simp
  | cons a l ih =>
    intro n h
    obtain ⟨b, hb⟩ := Option.isSome_iff_exists.1 (h a List.mem_cons_self)
    cases n with
    | zero => rfl
    | succ n =>
      rw [List.drop_succ_cons, List.filterMap_cons_some hb, List.drop_succ_cons,
        ih n fun x hx => h x (List.mem_cons_of_mem _ hx)]

theorem length_filterMap {α β : Type} {f : α → Option β} {l : List α}
    (h : ∀ a ∈ l, (f a).isSome) : (l.filterMap f).length = l.length := by
  induction l with
  | nil => rfl
  | cons a l ih =>
    obtain ⟨b, hb⟩ := Option.isSome_iff_exists.1 (h a List.mem_cons_self)
    rw [List.filterMap_cons_some hb, List.length_cons, List.length_cons,
      ih fun x hx => h x (List.mem_cons_of_mem _ hx)]

/-- A test of rows that agrees with a test of their events may be made on either. -/
theorem filterMap_filter_comm {α β : Type} {f : α → Option β} {p : α → Bool} {q : β → Bool}
    {l : List α} (h : ∀ a ∈ l, ∀ b, f a = some b → p a = q b) :
    (l.filter p).filterMap f = (l.filterMap f).filter q := by
  induction l with
  | nil => rfl
  | cons a l ih =>
    have ih := ih fun x hx => h x (List.mem_cons_of_mem _ hx)
    cases hf : f a with
    | none =>
      rw [List.filterMap_cons_none hf, ← ih, List.filter_cons]
      split
      · exact List.filterMap_cons_none hf
      · rfl
    | some b =>
      rw [List.filterMap_cons_some hf, List.filter_cons, List.filter_cons,
        h a List.mem_cons_self b hf]
      split
      · rw [List.filterMap_cons_some hf, ih]
      · exact ih

namespace Table

/-- Every row stands for an event. -/
def Sound (t : Table) : Prop := ∀ r ∈ t.entries, ∃ e, IsEntry r e

/-- The events of a log, in ascending order. -/
def eventsOf (t : Table) (log : String) : List Event := (t.rowsOf log).filterMap event?

theorem sound_empty : Sound .empty := by
  intro r hr
  simp at hr

@[simp] theorem eventsOf_empty (log : String) : eventsOf .empty log = [] := by
  simp [eventsOf, rowsOf]

section View

variable {t : Table} {log : String}

theorem Sound.isSome (h : t.Sound) : ∀ r ∈ t.rowsOf log, (event? r).isSome := by
  intro r hr
  obtain ⟨e, he⟩ := h r (List.mem_filter.1 hr).1
  rw [he.event?_eq]
  rfl

/-- The events of a log are those of the rows with the keys of that log. -/
theorem mem_eventsOf_iff (h : t.Sound) (hlog : LogName.Valid log) {e : Event} :
    e ∈ t.eventsOf log ↔ e.log = log ∧ ∃ r ∈ t.entries, IsEntry r e := by
  rw [eventsOf, List.mem_filterMap]
  constructor
  · rintro ⟨r, hr, he⟩
    obtain ⟨hmem, howns⟩ := List.mem_filter.1 hr
    obtain ⟨e', he'⟩ := h r hmem
    obtain rfl : e' = e := Option.some.inj (he'.event?_eq.symm.trans he)
    exact ⟨((he'.owns_iff hlog).1 howns).symm, r, hmem, he'⟩
  · rintro ⟨rfl, r, hmem, he⟩
    exact ⟨r, List.mem_filter.2 ⟨hmem, (he.owns_iff hlog).2 rfl⟩, he.event?_eq⟩

theorem log_of_mem_eventsOf (h : t.Sound) (hlog : LogName.Valid log) {e : Event}
    (he : e ∈ t.eventsOf log) : e.log = log :=
  ((mem_eventsOf_iff h hlog).1 he).1

/-- The number of rows of a log is that of its events. -/
theorem count_eq (h : t.Sound) : t.count log = (t.eventsOf log).length :=
  (length_filterMap h.isSome).symm

/-- **The identifiers of a log ascend.** -/
theorem pairwise_eventsOf (h : t.Sound) (hlog : LogName.Valid log) :
    (t.eventsOf log).Pairwise fun a b => a.id < b.id := by
  rw [eventsOf, List.pairwise_filterMap]
  refine (t.sorted.filter _).imp_of_mem fun {r s} hr hs hlt a ha b hb => ?_
  have entry {r : Row} (hr : r ∈ t.rowsOf log) {e : Event} (he : event? r = some e) :
      r.1 = Entry.key log e.id := by
    obtain ⟨hmem, howns⟩ := List.mem_filter.1 hr
    obtain ⟨e', he'⟩ := h r hmem
    obtain rfl : e' = e := Option.some.inj (he'.event?_eq.symm.trans he)
    rw [he'.key, (he'.owns_iff hlog).1 howns]
  rw [entry hr ha, entry hs hb, Entry.compare_key] at hlt
  exact EventId.compare_eq_lt.1 hlt

end View

/-! ### Appending -/

section Insert

open SortedMap (insertEntry)

variable {t : Table} {k v : Bytes}

/-- An entry above all others goes to the end. -/
theorem insertEntry_of_lt : ∀ {l : List Row}, (∀ r ∈ l, compare r.1 k = .lt) →
    insertEntry k v l = l ++ [(k, v)] := by
  intro l
  induction l with
  | nil => intro _; rfl
  | cons r l ih =>
    intro h
    have hgt : compare k r.1 = .gt := Std.OrientedCmp.gt_of_lt (h r List.mem_cons_self)
    rw [insertEntry, hgt, ih fun s hs => h s (List.mem_cons_of_mem _ hs), List.cons_append]

/-- An entry below all others goes to the front. -/
theorem insertEntry_of_gt {l : List Row} (h : ∀ r ∈ l, compare k r.1 = .lt) :
    insertEntry k v l = (k, v) :: l := by
  cases l with
  | nil => rfl
  | cons r l => rw [insertEntry, h r List.mem_cons_self]

/-- Among the rows whose keys pass a test, an insertion shows where its key passes it. -/
theorem filter_insertEntry (p : Bytes → Bool) : ∀ {l : List Row},
    (l.Pairwise fun a b => compare a.1 b.1 = .lt) →
      (insertEntry k v l).filter (fun r => p r.1) =
        if p k then insertEntry k v (l.filter fun r => p r.1) else l.filter fun r => p r.1 := by
  intro l
  induction l with
  | nil => intro _; cases hk : p k <;> simp [insertEntry, hk]
  | cons r l ih =>
    intro h
    obtain ⟨hr, hl⟩ := List.pairwise_cons.1 h
    cases hcompare : compare k r.1 with
    | lt =>
      -- the new row comes before every row that is left by the test
      have hfront : ∀ s ∈ (r :: l).filter (fun r => p r.1), compare k s.1 = .lt := by
        intro s hs
        rcases List.mem_cons.1 (List.mem_filter.1 hs).1 with rfl | hs
        · exact hcompare
        · exact Std.TransCmp.lt_trans hcompare (hr s hs)
      rw [insertEntry, hcompare, insertEntry_of_gt hfront, List.filter_cons]
    | eq =>
      obtain rfl := Std.LawfulEqCmp.eq_of_compare hcompare
      rw [insertEntry, hcompare, List.filter_cons, List.filter_cons]
      cases hk : p r.1 with
      | false => simp
      | true => simp only [if_true]; rw [insertEntry, hcompare]
    | gt =>
      rw [insertEntry, hcompare, List.filter_cons, List.filter_cons, ih hl]
      cases hr : p r.1 with
      | false => simp
      | true =>
        cases hk : p k with
        | false => simp
        | true => simp only [if_true]; rw [insertEntry, hcompare]

theorem rowsOf_insert (t : Table) (log : String) (k v : Bytes) :
    rowsOf (t.insert k v) log =
      if owns log k then insertEntry k v (t.rowsOf log) else t.rowsOf log := by
  rw [rowsOf, SortedMap.entries_insert]
  exact filter_insertEntry (owns log) t.sorted

/-- A row after an insertion is the new one or an old one with another key. -/
theorem mem_entries_insert {r : Row} :
    r ∈ (t.insert k v).entries ↔ r = (k, v) ∨ r.1 ≠ k ∧ r ∈ t.entries := by
  obtain ⟨k', v'⟩ := r
  rw [SortedMap.mem_entries_iff, SortedMap.find?_insert, SortedMap.mem_entries_iff]
  by_cases h : k = k'
  · subst h
    simp [eq_comm]
  · have hne : compare k k' ≠ .eq := fun heq => h (Std.LawfulEqCmp.eq_of_compare heq)
    simp [hne, Ne.symm h]

theorem Sound.insert (h : t.Sound) {e : Event} (he : IsEntry (k, v) e) : Sound (t.insert k v) := by
  intro r hr
  rcases mem_entries_insert.1 hr with rfl | ⟨-, hr⟩
  · exact ⟨e, he⟩
  · exact h r hr

/-- **An event with an identifier above all others is appended to its log.** -/
theorem eventsOf_insert (h : t.Sound) {e : Event} (he : IsEntry (k, v) e)
    (hids : ∀ e' ∈ t.eventsOf e.log, e'.id < e.id) :
    eventsOf (t.insert k v) e.log = t.eventsOf e.log ++ [e] := by
  have howns : owns e.log k = true := (he.owns_iff he.valid).2 rfl
  -- keys of one log are in the order of the identifiers
  have hlast : ∀ r ∈ t.rowsOf e.log, compare r.1 k = .lt := by
    intro r hr
    obtain ⟨hmem, hr'⟩ := List.mem_filter.1 hr
    obtain ⟨e', he'⟩ := h r hmem
    have hlog : e.log = e'.log := (he'.owns_iff he.valid).1 hr'
    have hmem' : e' ∈ t.eventsOf e.log := (mem_eventsOf_iff h he.valid).2 ⟨hlog.symm, r, hmem, he'⟩
    rw [he'.key, ← hlog, show k = Entry.key e.log e.id from he.key, Entry.compare_key]
    exact EventId.compare_eq_lt.2 (hids e' hmem')
  rw [eventsOf, rowsOf_insert, if_pos howns, insertEntry_of_lt hlast, List.filterMap_append,
    List.filterMap_cons_some he.event?_eq]
  rfl

/-- An append does not show in another log. -/
theorem eventsOf_insert_of_ne {e : Event} (he : IsEntry (k, v) e) {log : String}
    (hlog : LogName.Valid log) (hne : log ≠ e.log) :
    eventsOf (t.insert k v) log = t.eventsOf log := by
  have howns : owns log k ≠ true := mt (he.owns_iff hlog).1 hne
  rw [eventsOf, rowsOf_insert, if_neg howns, eventsOf]

end Insert

/-! ### Trimming -/

section Trim

variable {t : Table} {log : String}

theorem entries_eraseAll (keys : List Bytes) : ∀ (t : Table),
    (t.eraseAll keys).entries = t.entries.filter fun r => r.1 ∉ keys := by
  induction keys with
  | nil => intro t; exact (List.filter_eq_self.2 fun r _ => by simp).symm
  | cons k keys ih =>
    intro t
    have hcons : t.eraseAll (k :: keys) = eraseAll (t.erase k) keys := rfl
    rw [hcons, ih, SortedMap.entries_erase, List.filter_filter]
    refine List.filter_congr fun r _ => ?_
    by_cases hr : k = r.1
    · simp [hr]
    · have hcompare : compare k r.1 ≠ .eq := fun heq => hr (Std.LawfulEqCmp.eq_of_compare heq)
      simp [hcompare, Ne.symm hr]

theorem mem_entries_trim {keep : Nat} {r : Row} :
    r ∈ (t.trim log keep).1.entries ↔ r ∈ t.entries ∧ r.1 ∉ t.surplus log keep := by
  rw [trim, entries_eraseAll, List.mem_filter, decide_eq_true_iff]

theorem Sound.trim (h : t.Sound) (log : String) (keep : Nat) : (t.trim log keep).1.Sound :=
  fun r hr => h r (mem_entries_trim.1 hr).1

/-- The surplus keys are those of the oldest rows. -/
theorem surplus_eq (t : Table) (log : String) (keep : Nat) :
    t.surplus log keep =
      (((t.rowsOf log).take ((t.rowsOf log).length - keep)).map (·.1)).reverse := by
  rw [surplus, ← List.map_reverse, ← List.map_drop, List.drop_reverse]

theorem owns_of_mem_surplus {keep : Nat} {k : Bytes} (h : k ∈ t.surplus log keep) :
    owns log k = true := by
  rw [surplus_eq, List.mem_reverse, List.mem_map] at h
  obtain ⟨r, hr, rfl⟩ := h
  exact (List.mem_filter.1 (List.mem_of_mem_take hr)).2

theorem rowsOf_trim (t : Table) (log log' : String) (keep : Nat) :
    (t.trim log keep).1.rowsOf log' = (t.rowsOf log').filter fun r => r.1 ∉ t.surplus log keep := by
  rw [rowsOf, trim, entries_eraseAll, List.filter_filter, rowsOf, List.filter_filter]
  exact List.filter_congr fun r _ => Bool.and_comm _ _

/-- Of the rows of the log, the newest are left. -/
theorem rowsOf_trim_self (t : Table) (log : String) (keep : Nat) :
    (t.trim log keep).1.rowsOf log = (t.rowsOf log).drop ((t.rowsOf log).length - keep) := by
  have hsorted : (t.rowsOf log).Pairwise fun a b => compare a.1 b.1 = .lt := t.sorted.filter _
  rw [rowsOf_trim, surplus_eq]
  generalize (t.rowsOf log).length - keep = n
  generalize t.rowsOf log = l at hsorted ⊢
  rw [← List.take_append_drop n l, List.pairwise_append] at hsorted
  obtain ⟨-, -, hapart⟩ := hsorted
  -- the rows that stay have greater keys than those that go
  conv =>
    lhs
    arg 2
    rw [← List.take_append_drop n l]
  have htake : (l.take n).filter (fun r => decide (r.1 ∉ ((l.take n).map (·.1)).reverse)) = [] := by
    rw [List.filter_eq_nil_iff]
    intro r hr
    rw [decide_eq_true_iff, Decidable.not_not, List.mem_reverse]
    exact List.mem_map_of_mem hr
  have hdrop : (l.drop n).filter (fun r => decide (r.1 ∉ ((l.take n).map (·.1)).reverse)) =
      l.drop n := by
    rw [List.filter_eq_self]
    intro r hr
    rw [decide_eq_true_iff, List.mem_reverse, List.mem_map]
    rintro ⟨s, hs, heq⟩
    have hlt := hapart s hs r hr
    rw [heq] at hlt
    exact absurd hlt (by simp)
  rw [List.filter_append, htake, hdrop, List.nil_append]

/-- **A removal leaves the newest events of a log.** -/
theorem eventsOf_trim (h : t.Sound) (log : String) (keep : Nat) :
    (t.trim log keep).1.eventsOf log =
      (t.eventsOf log).drop ((t.eventsOf log).length - keep) := by
  rw [eventsOf, rowsOf_trim_self, filterMap_drop _ h.isSome, eventsOf, length_filterMap h.isSome]

/-- A removal counts the rows that it removes. -/
theorem trim_snd (t : Table) (log : String) (keep : Nat) :
    (t.trim log keep).2 = t.count log - keep := by
  rw [trim, surplus_eq, List.length_reverse, List.length_map, List.length_take]
  exact Nat.min_eq_left (Nat.sub_le _ _)

/-- Nothing is removed where there is no surplus. -/
theorem trim_of_count_le {keep : Nat} (h : t.count log ≤ keep) : t.trim log keep = (t, 0) := by
  have hsurplus : t.surplus log keep = [] := by
    rw [surplus, List.drop_eq_nil_iff, List.length_map, List.length_reverse]
    exact h
  rw [trim, hsurplus]
  rfl

/-- A removal does not touch what lies outside of the bounds of the log. -/
theorem mem_entries_trim_of_not_owns {keep : Nat} {r : Row} (h : owns log r.1 = false) :
    r ∈ (t.trim log keep).1.entries ↔ r ∈ t.entries := by
  rw [mem_entries_trim]
  refine and_iff_left fun hmem => ?_
  rw [owns_of_mem_surplus hmem] at h
  cases h

/-- A removal does not show in the rows of another log. -/
theorem rowsOf_trim_of_ne {log' : String} (hlog : LogName.Valid log) (hlog' : LogName.Valid log')
    (hne : log ≠ log') (keep : Nat) : (t.trim log keep).1.rowsOf log' = t.rowsOf log' := by
  rw [rowsOf_trim, List.filter_eq_self]
  intro r hr
  have howns' := (List.mem_filter.1 hr).2
  rw [decide_eq_true_iff]
  intro hmem
  have howns := Entry.not_owns_of_owns hlog hlog' hne (owns_of_mem_surplus hmem)
  rw [howns] at howns'
  cases howns'

/-- A removal does not show in another log. -/
theorem eventsOf_trim_of_ne {log' : String} (hlog : LogName.Valid log) (hlog' : LogName.Valid log')
    (hne : log ≠ log') (keep : Nat) : (t.trim log keep).1.eventsOf log' = t.eventsOf log' := by
  rw [eventsOf, rowsOf_trim_of_ne hlog hlog' hne, eventsOf]

end Trim

end Table

/-! ### Reading -/

namespace Query

/-- Whether an event lies on the side of the cursor to which the direction leads. -/
def admits (q : Query) (e : Event) : Bool :=
  match q.cursor, q.direction with
  | none, _ => true
  | some id, .forward => decide (id < e.id)
  | some id, .backward => decide (e.id < id)

/-- Whether the message of an event holds the text of the filter. -/
def accepts (q : Query) (e : Event) : Bool := Filter.accepts (Filter.needle? q.filter) e

/-- The events of a list that a query asks for, however many. -/
def select (q : Query) (events : List Event) : List Event :=
  events.filter fun e => q.admits e && q.accepts e

/-- What a query is to find in a list of events. -/
def answer (q : Query) (events : List Event) : List Event :=
  Page.cut q.direction q.limit (q.select events)

end Query

namespace Table

variable {t : Table} {log : String}

theorem collect_eq (accepts : Event → Bool) : ∀ {rows : List Row} (limit : Nat),
    (∀ r ∈ rows, (event? r).isSome) →
      collect accepts limit rows = .ok (((rows.filterMap event?).filter accepts).take limit) := by
  intro rows
  induction rows with
  | nil => intro limit _; simp [collect]
  | cons r rows ih =>
    intro limit h
    have hrest : ∀ s ∈ rows, (event? s).isSome := fun s hs => h s (List.mem_cons_of_mem _ hs)
    cases limit with
    | zero => simp [collect]
    | succ limit =>
      obtain ⟨k, v⟩ := r
      obtain ⟨e, he⟩ := Option.isSome_iff_exists.1 (h (k, v) List.mem_cons_self)
      have hdecode : Entry.decode k v = .ok e := by
        unfold event? at he
        cases hd : Entry.decode k v with
        | ok e' => simp [hd, Except.toOption] at he; rw [he]
        | error _ => simp [hd, Except.toOption] at he
      rw [collect, hdecode, List.filterMap_cons_some he, List.filter_cons]
      change (if accepts e = true then _ else _) = _
      split
      · rw [ih limit hrest, List.take_succ_cons]
        rfl
      · exact ih (limit + 1) hrest

/-- Whatever lies behind a place in a log and before the end of the log lies in the log. -/
theorem owns_of_precedes {k : Bytes} {id : EventId} (h : precedes (Entry.key log id) k = true)
    (hto : precedes k (Entry.keysTo log) = true) : owns log k = true := by
  rw [owns, Bool.and_eq_true, Bool.not_eq_true', Entry.not_precedes_iff]
  refine ⟨fun hlt => ?_, hto⟩
  have hkey := Entry.owns_key log id
  rw [owns, Bool.and_eq_true, Bool.not_eq_true', Entry.not_precedes_iff] at hkey
  exact hkey.1 (Std.TransCmp.lt_trans (Entry.precedes_iff.1 h) hlt)

/-- Whatever lies before a place in a log and not before the start of the log lies in the log. -/
theorem owns_of_precedes_key {k : Bytes} {id : EventId}
    (h : precedes k (Entry.key log id) = true) (hfrom : precedes k (Entry.keysFrom log) = false) :
    owns log k = true := by
  rw [owns, Bool.and_eq_true, Bool.not_eq_true']
  refine ⟨hfrom, ?_⟩
  have hkey := Entry.owns_key log id
  rw [owns, Bool.and_eq_true, Entry.precedes_iff] at hkey
  exact Entry.precedes_iff.2 (Std.TransCmp.lt_trans (Entry.precedes_iff.1 h) hkey.2)

theorem owns_of_onSide {cursor : Option EventId} {direction : Direction} {k : Bytes}
    (h : onSide log cursor direction k = true) : owns log k = true := by
  unfold onSide at h
  cases cursor with
  | none => exact h
  | some id =>
    cases direction with
    | forward =>
      rw [Bool.and_eq_true] at h
      exact owns_of_precedes h.1 h.2
    | backward =>
      rw [Bool.and_eq_true, Bool.not_eq_true'] at h
      exact owns_of_precedes_key h.2 h.1

/-- The rows on a side of a cursor are the rows of the log whose events lie on that side. -/
theorem onSide_eq {r : Row} {e : Event} (h : IsEntry r e) (hlog : LogName.Valid log) (q : Query) :
    onSide log q.cursor q.direction r.1 = (owns log r.1 && q.admits e) := by
  by_cases howns : owns log r.1 = true
  · obtain rfl := (h.owns_iff hlog).1 howns
    have hbounds := howns
    rw [owns, Bool.and_eq_true] at hbounds
    have hprecedes (i j : EventId) :
        precedes (Entry.key e.log i) (Entry.key e.log j) = decide (i < j) := by
      rw [Bool.eq_iff_iff, Entry.precedes_iff, Entry.compare_key, EventId.compare_eq_lt,
        decide_eq_true_iff]
    rw [howns, Bool.true_and]
    rw [h.key] at howns hbounds ⊢
    unfold onSide Query.admits
    cases q.cursor with
    | none => exact howns
    | some id =>
      cases q.direction with
      | forward => simp only [hbounds, hprecedes, Bool.and_true]
      | backward => simp only [hbounds, hprecedes, Bool.true_and]
  · have hside : onSide log q.cursor q.direction r.1 = false := by
      rw [← Bool.not_eq_true]
      exact mt owns_of_onSide howns
    rw [hside, Bool.eq_false_iff.2 howns, Bool.false_and]

/-- The events in the rows on a side of a cursor. -/
theorem filterMap_onSide (h : t.Sound) (hlog : LogName.Valid log) (q : Query) :
    (t.entries.filter fun r => onSide log q.cursor q.direction r.1).filterMap event? =
      (t.eventsOf log).filter q.admits := by
  have hside : ∀ r ∈ t.entries, onSide log q.cursor q.direction r.1 =
      ((event? r).any q.admits && owns log r.1) := by
    intro r hr
    obtain ⟨e, he⟩ := h r hr
    rw [onSide_eq he hlog, he.event?_eq, Option.any_some, Bool.and_comm]
  rw [List.filter_congr hside, ← List.filter_filter]
  refine filterMap_filter_comm fun r _ e he => ?_
  rw [he, Option.any_some]

/-- **A read finds what the query is to find.** -/
theorem read_eq (h : t.Sound) (hlog : LogName.Valid log) (q : Query) :
    t.read log q = .ok (q.answer (t.eventsOf log)) := by
  have hsome : ∀ r ∈ t.entries.filter fun r => onSide log q.cursor q.direction r.1,
      (event? r).isSome := by
    intro r hr
    obtain ⟨e, he⟩ := h r (List.mem_filter.1 hr).1
    rw [he.event?_eq]
    rfl
  have hselect : ((t.eventsOf log).filter q.admits).filter
      (Filter.accepts (Filter.needle? q.filter)) = q.select (t.eventsOf log) := by
    rw [List.filter_filter]
    exact List.filter_congr fun e _ => Bool.and_comm _ _
  rw [read, walk, Query.answer, ← hselect, ← filterMap_onSide h hlog]
  unfold Page.cut
  cases hdir : q.direction with
  | forward =>
    rw [hdir] at hsome
    rw [collect_eq _ _ hsome]
    rfl
  | backward =>
    rw [hdir] at hsome
    have hreverse : ∀ r ∈ (t.entries.filter fun r => onSide log q.cursor .backward r.1).reverse,
        (event? r).isSome := fun r hr => hsome r (List.mem_reverse.1 hr)
    rw [collect_eq _ _ hreverse, List.filterMap_reverse, List.filter_reverse, List.take_reverse]
    exact congrArg Except.ok (List.reverse_reverse _)

end Table
end Logbook
