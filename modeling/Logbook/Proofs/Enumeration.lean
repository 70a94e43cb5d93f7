import Logbook.Proofs.Names
import Logbook.Proofs.Store
import Mathlib.Data.List.Dedup
import Mathlib.Data.List.Sort

/-!
# Names by jumps and names by a full scan

The names of the logs can be found in three ways.  One passes once over the rows and skips those that are below a place;
this is how they are computed.  One looks each place up in the table anew, from the first row that it finds jumps to the
end of that row's log, and goes on until no row is left; this comes to an end in every table, since the end of a log lies
beyond each of its keys.  And one reads the name in the key of every row and strikes out what is repeated.  The first two
always agree, and where all keys are keys of logs, so does the third.

## Main definitions

* `Table.seek?` — the first row that is not below a place.
* `Table.namesBeyond` — the names that are found by jumps from a place on.
* `Table.scanNames` — the names in the keys of all rows.
* `Table.Owns`, `Table.Sooner` — the logs that own a key, and the order of names as byte strings.

## Main results

* `Table.namesFrom_entries` — **jumps find what a single pass finds**, in every table.
* `Table.namesIn_eq` — a scan of keys of logs names each log that has one, in an order that does not descend.
* `Store.logNames_enumerate` — **the names that a store finds are those of the logs with events, each once, in ascending
  order.**
-/

namespace Logbook

open LogName (Valid)
open Entry (IsKey)

namespace Table

variable {t : Table} {place : Bytes} {rows : List Row}

/-! ### Jumps -/

/-- The first row that is not below a place. -/
def seek? (t : Table) (place : Bytes) : Option Row := t.entries.find? fun r => !precedes r.1 place

/-- The number of rows that are not below a place. -/
def ahead (t : Table) (place : Bytes) : Nat := (t.entries.filter fun r => !precedes r.1 place).length

theorem precedes_trans {a b c : Bytes} (h : precedes a b = true) (h' : precedes b c = true) : precedes a c = true :=
  Entry.precedes_iff.2 (Std.TransCmp.lt_trans (Entry.precedes_iff.1 h) (Entry.precedes_iff.1 h'))

/-- What is below a place is below whatever is not below that place. -/
theorem precedes_of_not_precedes {a b : Bytes} (h : precedes a place = true) (h' : precedes b place = false) :
    precedes a b = true := by
  refine Entry.precedes_iff.2 (Std.TransCmp.lt_of_lt_of_isLE (Entry.precedes_iff.1 h) ?_)
  rw [← Std.OrientedCmp.isGE_iff_isLE, Ordering.isGE_iff_ne_lt]
  exact Entry.not_precedes_iff.1 h'

/-- A key that is read lies before the end of its log. -/
theorem precedes_keysTo {key : Bytes} {log : String} {id : EventId} (h : Entry.decodeKey key = .ok (log, id)) :
    precedes key (Entry.keysTo log) = true := by
  rw [Entry.decodeKey_eq_ok_iff.1 h]
  exact (Bool.and_eq_true_iff.1 (Entry.owns_key log id)).2

/-- The row that is found, with the rows below the place before it. -/
theorem exists_of_seek? {r : Row} (h : t.seek? place = some r) : precedes r.1 place = false ∧
    ∃ front rest, t.entries = front ++ r :: rest ∧ ∀ s ∈ front, precedes s.1 place = true := by
  obtain ⟨hr, front, rest, heq, hfront⟩ := List.find?_eq_some_iff_append.1 h
  refine ⟨by simpa using hr, front, rest, heq, fun s hs => ?_⟩
  simpa using hfront s hs

/-- Each jump leaves a row behind. -/
theorem ahead_keysTo_lt {r : Row} {log : String} {id : EventId} (hrow : t.seek? place = some r)
    (hkey : Entry.decodeKey r.1 = .ok (log, id)) : t.ahead (Entry.keysTo log) < t.ahead place := by
  obtain ⟨hr, -⟩ := exists_of_seek? hrow
  have hto := precedes_keysTo hkey
  -- what lies beyond the log lies beyond the place as well
  have hsub : t.entries.filter (fun s => !precedes s.1 (Entry.keysTo log)) =
      (t.entries.filter fun s => !precedes s.1 place).filter fun s => !precedes s.1 (Entry.keysTo log) := by
    rw [List.filter_filter]
    refine List.filter_congr fun s _ => ?_
    cases hs : precedes s.1 place with
    | false => simp
    | true => simp [precedes_trans (precedes_of_not_precedes hs hr) hto]
  rw [ahead, ahead, hsub, List.length_filter_lt_length_iff_exists]
  exact ⟨r, List.mem_filter.2 ⟨List.mem_of_find?_eq_some hrow, by simp [hr]⟩, by simp [hto]⟩

/-- The names that are found from a place on: the name in the first row that is not below it, and then those that are
found from the end of that log on. -/
def namesBeyond (t : Table) (place : Bytes) : Except StoreError (List String) :=
  match _hrow : t.seek? place with
  | none => .ok []
  | some row =>
    match _hkey : Entry.decodeKey row.1 with
    | .error fault => .error (.malformedKey fault.message)
    | .ok (log, _) => do
      let more ← t.namesBeyond (Entry.keysTo log)
      return log :: more
  termination_by t.ahead place
  decreasing_by exact ahead_keysTo_lt _hrow _hkey

/-- Rows below the place are passed over. -/
theorem namesFrom_append {front : List Row} (h : ∀ r ∈ front, precedes r.1 place = true) (rows : List Row) :
    namesFrom place (front ++ rows) = namesFrom place rows := by
  induction front with
  | nil => rfl
  | cons r front ih =>
    obtain ⟨hr, hfront⟩ := List.forall_mem_cons.1 h
    rw [List.cons_append, namesFrom, if_pos hr, ih hfront]

/-- **A single pass over the rows finds what jumps find.** -/
theorem namesFrom_entries (t : Table) (place : Bytes) : namesFrom place t.entries = t.namesBeyond place := by
  fun_induction namesBeyond t place with
  | case1 place hrow =>
    have hbelow : ∀ r ∈ t.entries, precedes r.1 place = true := by simpa [seek?] using hrow
    rw [← List.append_nil t.entries, namesFrom_append hbelow, namesFrom]
  | case2 place row hrow fault hkey =>
    obtain ⟨hr, front, rest, heq, hfront⟩ := exists_of_seek? hrow
    rw [heq, namesFrom_append hfront, namesFrom, if_neg (Bool.eq_false_iff.1 hr), hkey]
  | case3 place row hrow log id hkey ih =>
    obtain ⟨hr, front, rest, heq, hfront⟩ := exists_of_seek? hrow
    -- a search from the end of the log passes over the row and what is before it
    have hpassed : ∀ s ∈ front ++ [row], precedes s.1 (Entry.keysTo log) = true := by
      intro s hs
      rcases List.mem_append.1 hs with hs | hs
      · exact precedes_trans (precedes_of_not_precedes (hfront s hs) hr) (precedes_keysTo hkey)
      · rw [List.mem_singleton.1 hs]
        exact precedes_keysTo hkey
    rw [← ih, heq, namesFrom_append hfront, namesFrom, if_neg (Bool.eq_false_iff.1 hr), hkey, List.append_cons,
      namesFrom_append hpassed]

/-! ### A full scan -/

/-- The names in the keys of rows, one for each row. -/
def namesIn : List Row → Except StoreError (List String)
  | [] => .ok []
  | (key, _) :: rest => match Entry.decodeKey key with
    | .error fault => .error (.malformedKey fault.message)
    | .ok (log, _) => do
      let more ← namesIn rest
      return log :: more

/-- The names in the keys of all rows, in the order of the rows. -/
def scanNames (t : Table) : Except StoreError (List String) := namesIn t.entries

/-- A log owns at least one key of the table. -/
def Owns (t : Table) (log : String) : Prop := ∃ r ∈ t.entries, ∃ id, r.1 = Entry.key log id

/-- The order of names as byte strings. -/
def Sooner (a b : String) : Prop := compare (Utf8.encode a) (Utf8.encode b) = .lt

instance : Std.Irrefl Sooner := ⟨fun a h => by simp [Sooner, Std.ReflCmp.compare_self] at h⟩

instance : Std.Antisymm Sooner :=
  ⟨fun a b hab hba => by rw [Sooner, Std.OrientedCmp.gt_of_lt hab] at hba; cases hba⟩

/-- A scan of keys of logs names each log that has one, in an order that does not descend. -/
theorem namesIn_eq (hkeys : ∀ r ∈ rows, IsKey r.1) (hsorted : rows.Pairwise fun a b => compare a.1 b.1 = .lt) :
    ∃ scanned, namesIn rows = .ok scanned ∧ scanned.Pairwise (fun a b => a = b ∨ Sooner a b) ∧
      ∀ log, log ∈ scanned ↔ ∃ r ∈ rows, ∃ id, r.1 = Entry.key log id := by
  induction rows with
  | nil => exact ⟨[], rfl, List.Pairwise.nil, by simp⟩
  | cons r rows ih =>
    obtain ⟨k, v⟩ := r
    obtain ⟨hhead, htail⟩ := List.pairwise_cons.1 hsorted
    obtain ⟨⟨log, id, hlog, hk⟩, hrest⟩ := List.forall_mem_cons.1 hkeys
    obtain rfl : k = Entry.key log id := hk
    obtain ⟨scanned, hscanned, hascend, hmem⟩ := ih hrest htail
    rw [namesIn, Entry.decodeKey_key]
    refine ⟨log :: scanned, by simp only [hscanned]; rfl, List.pairwise_cons.2 ⟨fun log' hlog' => ?_, hascend⟩,
      fun log' => ?_⟩
    · -- a key behind the first one is a later key of its log or a key of a later log
      obtain ⟨s, hs, id', hkey⟩ := (hmem log').1 hlog'
      obtain ⟨log'', id'', hvalid, hkey'⟩ := hrest s hs
      obtain ⟨rfl, rfl⟩ := Entry.key_injective (hkey.symm.trans hkey')
      have hlt := hhead s hs
      rw [hkey, Entry.compare_key_eq_lt_iff hlog hvalid] at hlt
      rcases hlt with hsooner | ⟨heq, -⟩
      · exact Or.inr hsooner
      · exact Or.inl heq
    · rw [List.mem_cons, hmem log', List.exists_mem_cons_iff]
      refine or_congr_left ⟨?_, fun ⟨_, hkey⟩ => (Entry.key_injective hkey).1.symm⟩
      rintro rfl
      exact ⟨id, rfl⟩

/-- Names that ascend are a scan without what is repeated, where both have the same names. -/
theorem eq_dedup {names scanned : List String} (hascend : names.Pairwise Sooner)
    (hscanned : scanned.Pairwise fun a b => a = b ∨ Sooner a b) (hmem : ∀ log, log ∈ names ↔ log ∈ scanned) :
    names = scanned.dedup := by
  have hdedup : scanned.dedup.Pairwise Sooner := by
    have hboth := (hscanned.sublist (List.dedup_sublist scanned)).and scanned.nodup_dedup
    exact hboth.imp fun ⟨h, hne⟩ => h.resolve_left hne
  exact hascend.eq_of_mem_iff hdedup fun log => by rw [hmem log, List.mem_dedup]

end Table

namespace Store

/-- **The names that a store finds are those of the logs with events, each once, in ascending order.**  The search ends
with an answer, which is that of jumps from the start of the table, and that of a scan of all keys without what is
repeated. -/
theorem logNames_enumerate {s : Store} {t : Table} (htable : s.table? = some t) (hkeyed : t.Keyed) :
    ∃ names, s.logNames = .ok names ∧ t.namesBeyond [] = .ok names ∧
      (∃ scanned, t.scanNames = .ok scanned ∧ names = scanned.dedup) ∧
      (∀ log, log ∈ names ↔ t.Owns log) ∧ names.Nodup ∧ names.Pairwise Table.Sooner := by
  obtain ⟨names, hnames, hascend, hfound⟩ := Table.namesFrom_eq hkeyed t.sorted []
  obtain ⟨scanned, hscanned, horder, hmem⟩ := Table.namesIn_eq hkeyed t.sorted
  have howns : ∀ log, log ∈ names ↔ t.Owns log := by
    intro log
    rw [hfound]
    constructor
    · rintro ⟨-, r, hr, -, hkey⟩
      exact ⟨r, hr, hkey⟩
    · rintro ⟨r, hr, id, hkey⟩
      obtain ⟨log', id', hvalid, hkey'⟩ := hkeyed r hr
      obtain ⟨rfl, rfl⟩ := Entry.key_injective (hkey.symm.trans hkey')
      exact ⟨hvalid, r, hr, Table.precedes_nil _, id, hkey⟩
  have hlogs : s.logNames = .ok names := by
    rw [logNames, table_eq htable]
    exact hnames
  refine ⟨names, hlogs, (t.namesFrom_entries []).symm.trans hnames, ⟨scanned, hscanned, ?_⟩, howns, ?_, hascend⟩
  · exact Table.eq_dedup hascend horder fun log => (howns log).trans (hmem log).symm
  · exact List.Pairwise.nodup (r := Table.Sooner) hascend

/-- Names that go on with the byte behind the separator or that others begin with, one of them with two events. -/
theorem logNames_enumerate_nested :
    let t : Table := (((SortedMap.empty.insert (Entry.key "ab" .least) (Entry.payload 5 [104])).insert
      (Entry.key "a\x01" .least) (Entry.payload 6 [105])).insert
      (Entry.key "a" .greatest) (Entry.payload 7 [106])).insert (Entry.key "a" .least) (Entry.payload 8 [107])
    let s : Store := { settings := {}, table? := some t }
    t.Keyed ∧ s.logNames = .ok ["a", "a\x01", "ab"] ∧ t.scanNames = .ok ["a", "a", "a\x01", "ab"] := by
  intro t s
  have hkey (log : String) (hlog : Valid log) (id : EventId) : IsKey (Entry.key log id) := ⟨log, id, hlog, rfl⟩
  have hempty : Table.Keyed SortedMap.empty := by
    intro r hr
    cases hr
  have hkeyed : t.Keyed :=
    (((hempty.insert (hkey "ab" (by decide) _) _).insert (hkey "a\x01" (by decide) _) _).insert
      (hkey "a" (by decide) _) _).insert (hkey "a" (by decide) _) _
  obtain ⟨names, hnames, -, ⟨scanned, hscanned, hdedup⟩, -⟩ := logNames_enumerate (s := s) rfl hkeyed
  have hscan : t.scanNames = .ok ["a", "a", "a\x01", "ab"] := by decide +kernel
  obtain rfl := Except.ok.inj (hscan.symm.trans hscanned)
  refine ⟨hkeyed, ?_, hscan⟩
  rw [hnames, hdedup]
  decide

end Store
end Logbook
