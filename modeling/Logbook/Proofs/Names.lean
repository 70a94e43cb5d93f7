import Logbook.Proofs.Keys
import Logbook.Proofs.Table

/-!
# The names of the logs in a table

The search for names jumps from the first row of a log to the first row beyond the bounds of that log.  Whatever it
jumps over belongs to the log that it has found, so it misses no name, and it meets names in their order.

## Main definitions

* `Entry.IsKey`, `Table.Keyed` — keys of logs, and tables of rows that have such keys.

## Main results

* `Table.Keyed.insert`, `Table.Keyed.trim` — appends and removals keep to such keys.
* `Table.logNames_eq` — **the names that are found are those of the logs that own a row, in ascending order.**
-/

namespace Logbook

open LogName (Valid)

namespace Entry

/-- A key of a log. -/
def IsKey (k : Bytes) : Prop := ∃ log id, Valid log ∧ k = key log id

theorem IsEntry.isKey {r : Row} {e : Event} (h : IsEntry r e) : IsKey r.1 := ⟨e.log, e.id, h.valid, h.key⟩

end Entry

open Entry (IsKey)

namespace Table

variable {t : Table} {log : String}

/-- Every row has a key of a log. -/
def Keyed (t : Table) : Prop := ∀ r ∈ t.entries, IsKey r.1

theorem Sound.keyed (h : t.Sound) : t.Keyed := by
  intro r hr
  obtain ⟨e, he⟩ := h r hr
  exact he.isKey

theorem Keyed.insert (h : t.Keyed) {k : Bytes} (hk : IsKey k) (v : Bytes) : Keyed (t.insert k v) := by
  intro r hr
  rcases mem_entries_insert.1 hr with rfl | ⟨-, hr⟩
  · exact hk
  · exact h r hr

theorem Keyed.trim (h : t.Keyed) (log : String) (keep : Nat) : (t.trim log keep).1.Keyed :=
  fun r hr => h r (mem_entries_trim.1 hr).1

/-- A row belongs to the log of its key and to no other. -/
theorem Keyed.mem_rowsOf_iff (h : t.Keyed) (hlog : Valid log) {r : Row} :
    r ∈ t.rowsOf log ↔ r ∈ t.entries ∧ ∃ id, r.1 = Entry.key log id := by
  rw [rowsOf, List.mem_filter]
  refine and_congr_right fun hr => ?_
  obtain ⟨log', id, hlog', hkey⟩ := h r hr
  rw [hkey, Entry.owns_key_iff hlog hlog']
  constructor
  · rintro rfl
    exact ⟨id, rfl⟩
  · rintro ⟨id', heq⟩
    exact (Entry.owns_key_iff hlog hlog' id).1 (heq ▸ Entry.owns_key log id')

/-! ### The search -/

/-- The logs with keys among rows that are not below a place. -/
def Found (start : Bytes) (rows : List Row) (log : String) : Prop :=
  Valid log ∧ ∃ r ∈ rows, precedes r.1 start = false ∧ ∃ id, r.1 = Entry.key log id

theorem precedes_nil (k : Bytes) : precedes k [] = false := by
  cases k <;> rfl

/-- Behind a key of a log, what lies before the end of the log is its own. -/
theorem precedes_keysTo_iff {log log' : String} (hlog : Valid log) (hlog' : Valid log') {id id' : EventId}
    (h : precedes (Entry.key log id) (Entry.key log' id') = true) :
    precedes (Entry.key log' id') (Entry.keysTo log) = true ↔ log = log' := by
  constructor
  · exact fun hto => (Entry.owns_key_iff hlog hlog' id').1 (owns_of_precedes h hto)
  · rintro rfl
    exact (Bool.and_eq_true_iff.1 (Entry.owns_key log id')).2

/-- A row below the place is passed over. -/
theorem found_cons_of_precedes {start : Bytes} {r : Row} {rows : List Row} (h : precedes r.1 start = true) :
    Found start (r :: rows) log ↔ Found start rows log := by
  refine and_congr_right fun _ => ⟨?_, fun ⟨s, hs, hbound⟩ => ⟨s, List.mem_cons_of_mem _ hs, hbound⟩⟩
  rintro ⟨s, hs, hbound, hkey⟩
  rcases List.mem_cons.1 hs with rfl | hs
  · rw [h] at hbound
    cases hbound
  · exact ⟨s, hs, hbound, hkey⟩

/-- A row that is not below the place names a log, and only other logs are named beyond the end of that log. -/
theorem found_cons_key {start : Bytes} {log' : String} {id : EventId} {v : Bytes} {rows : List Row} (hlog : Valid log)
    (hstart : precedes (Entry.key log id) start = false)
    (hrows : ∀ r ∈ rows, precedes (Entry.key log id) r.1 = true) :
    Found start ((Entry.key log id, v) :: rows) log' ↔ log' = log ∨ Found (Entry.keysTo log) rows log' := by
  constructor
  · rintro ⟨hlog', s, hs, -, id', hkey⟩
    rcases List.mem_cons.1 hs with rfl | hs
    · exact Or.inl (Entry.key_injective hkey).1.symm
    · by_cases hne : log = log'
      · exact Or.inl hne.symm
      · have hbehind := hrows s hs
        rw [hkey] at hbehind
        refine Or.inr ⟨hlog', s, hs, ?_, id', hkey⟩
        rw [hkey]
        exact Bool.eq_false_iff.2 (mt (precedes_keysTo_iff hlog hlog' hbehind).1 hne)
  · rintro (rfl | ⟨hlog', s, hs, -, id', hkey⟩)
    · exact ⟨hlog, _, List.mem_cons_self, hstart, id, rfl⟩
    · refine ⟨hlog', s, List.mem_cons_of_mem _ hs, ?_, id', hkey⟩
      rw [Entry.not_precedes_iff] at hstart ⊢
      exact fun hlt => hstart (Std.TransCmp.lt_trans (Entry.precedes_iff.1 (hrows s hs)) hlt)

/-- **The search finds each log that has a key where it searches, and the names ascend.** -/
theorem namesFrom_eq {rows : List Row} (hkeys : ∀ r ∈ rows, IsKey r.1)
    (hsorted : rows.Pairwise fun a b => compare a.1 b.1 = .lt) (start : Bytes) :
    ∃ names, namesFrom start rows = .ok names ∧
      names.Pairwise (fun a b => compare (Utf8.encode a) (Utf8.encode b) = .lt) ∧
      ∀ log, log ∈ names ↔ Found start rows log := by
  induction rows generalizing start with
  | nil => exact ⟨[], rfl, List.Pairwise.nil, fun log => iff_of_false nofun fun ⟨_, _, h, _⟩ => nomatch h⟩
  | cons r rows ih =>
    obtain ⟨k, v⟩ := r
    obtain ⟨hhead, htail⟩ := List.pairwise_cons.1 hsorted
    obtain ⟨⟨log, id, hlog, hk⟩, hrest⟩ := List.forall_mem_cons.1 hkeys
    obtain rfl : k = Entry.key log id := hk
    rw [namesFrom]
    by_cases hbelow : precedes (Entry.key log id) start = true
    · obtain ⟨names, hnames, hascend, hmem⟩ := ih hrest htail start
      rw [if_pos hbelow]
      exact ⟨names, hnames, hascend, fun log' => (hmem log').trans (found_cons_of_precedes hbelow).symm⟩
    · obtain ⟨names, hnames, hascend, hmem⟩ := ih hrest htail (Entry.keysTo log)
      have hbehind : ∀ s ∈ rows, precedes (Entry.key log id) s.1 = true := fun s hs => Entry.precedes_iff.2 (hhead s hs)
      rw [if_neg hbelow, Entry.decodeKey_key]
      refine ⟨log :: names, by simp only [hnames]; rfl, List.pairwise_cons.2 ⟨fun log' hlog' => ?_, hascend⟩,
        fun log' => ?_⟩
      · -- beyond the end of a log there are keys of later names
        obtain ⟨hvalid', s, hs, hbeyond, id', hkey⟩ := (hmem log').1 hlog'
        have hlt := hhead s hs
        rw [hkey] at hlt hbeyond
        rcases (Entry.compare_key_eq_lt_iff hlog hvalid').1 hlt with hnames' | ⟨heq, -⟩
        · exact hnames'
        · rw [(precedes_keysTo_iff hlog hvalid' (Entry.precedes_iff.2 hlt)).2 heq] at hbeyond
          cases hbeyond
      · rw [List.mem_cons, hmem log', found_cons_key hlog (Bool.eq_false_iff.2 hbelow) hbehind]

/-- **The names that are found are those of the logs that own a row, in ascending order.** -/
theorem logNames_eq (h : t.Keyed) :
    ∃ names, t.logNames = .ok names ∧
      names.Pairwise (fun a b => compare (Utf8.encode a) (Utf8.encode b) = .lt) ∧
      ∀ log, log ∈ names ↔ Valid log ∧ t.rowsOf log ≠ [] := by
  obtain ⟨names, hnames, hascend, hmem⟩ := namesFrom_eq h t.sorted []
  refine ⟨names, hnames, hascend, fun log => (hmem log).trans (and_congr_right fun hlog => ?_)⟩
  constructor
  · rintro ⟨r, hr, -, hkey⟩
    exact List.ne_nil_of_mem ((h.mem_rowsOf_iff hlog).2 ⟨hr, hkey⟩)
  · intro hne
    obtain ⟨r, hr⟩ := List.exists_mem_of_ne_nil _ hne
    obtain ⟨hentry, hkey⟩ := (h.mem_rowsOf_iff hlog).1 hr
    exact ⟨r, hentry, precedes_nil r.1, hkey⟩

end Table
end Logbook
