import Logbook.Proofs.Names
import Logbook.Proofs.Store

/-!
# Evictions

An eviction of a log looks first whether there is a surplus.  That is only a shortcut: without a surplus the removal
would remove nothing.  An eviction of all logs finds their names in the table and evicts one after another, and what it
does to one log does not show in another.

## Main definitions

* `Table.newest` — the newest rows of a log.
* `Table.trimEach` — removals one after another.

## Main results

* `Table.rowsOf_trimEach` — of each log on a list the newest rows are left.
* `Store.evict_eq_trim` — an eviction is a removal.
* `Store.evictAll_eq` — **an eviction of all logs leaves the newest rows of each.**
* `Store.eventsOf_evict`, `Store.eventsOf_evictAll` — what is left of the events of a log.
-/

namespace Logbook

open LogName (Valid)

namespace Table

variable {t : Table} {log : String} {keep : Nat}

/-- The newest rows of a log, at most `keep` of them. -/
def newest (t : Table) (log : String) (keep : Nat) : List Row := (t.rowsOf log).drop (t.count log - keep)

theorem newest_suffix (t : Table) (log : String) (keep : Nat) : t.newest log keep <:+ t.rowsOf log :=
  List.drop_suffix _ _

theorem length_newest (t : Table) (log : String) (keep : Nat) :
    (t.newest log keep).length = min (t.count log) keep := by
  rw [newest, List.length_drop, count]
  omega

/-- Where there is no surplus, all rows are among the newest. -/
theorem newest_of_count_le (h : t.count log ≤ keep) : t.newest log keep = t.rowsOf log := by
  rw [newest, Nat.sub_eq_zero_of_le h, List.drop_zero]

/-! ### One removal -/

theorem rowsOf_trim_eq_newest (t : Table) (log : String) (keep : Nat) :
    (t.trim log keep).1.rowsOf log = t.newest log keep :=
  rowsOf_trim_self t log keep

/-- What is left of a log. -/
theorem count_trim (t : Table) (log : String) (keep : Nat) :
    (t.trim log keep).1.count log = min (t.count log) keep := by
  rw [count, rowsOf_trim_eq_newest, length_newest]

/-- A second removal finds nothing to remove. -/
theorem trim_trim (t : Table) (log : String) (keep : Nat) :
    (t.trim log keep).1.trim log keep = ((t.trim log keep).1, 0) :=
  trim_of_count_le (by rw [count_trim]; exact Nat.min_le_right _ _)

/-- The rows that are removed and those that are left are all that there were. -/
theorem length_trim (t : Table) (log : String) (keep : Nat) :
    (t.trim log keep).2 + (t.trim log keep).1.entries.length = t.entries.length := by
  have hsplit (t : Table) : t.entries.length = t.count log + (t.entries.filter fun r => !owns log r.1).length :=
    List.length_eq_length_filter_add _
  have hothers : (t.trim log keep).1.entries.filter (fun r => !owns log r.1) =
      t.entries.filter fun r => !owns log r.1 := by
    rw [trim, entries_eraseAll, List.filter_filter]
    refine List.filter_congr fun r _ => ?_
    by_cases hmem : r.1 ∈ t.surplus log keep
    · rw [owns_of_mem_surplus hmem, Bool.not_true, Bool.false_and]
    · rw [decide_eq_true hmem, Bool.and_true]
  rw [hsplit (t.trim log keep).1, hothers, hsplit t, trim_snd, count_trim]
  omega

/-! ### Removals one after another -/

/-- Removes the events of some logs but for the newest `keep` of each, and counts them. -/
def trimEach (t : Table) (keep : Nat) : List String → Table × Nat
  | [] => (t, 0)
  | log :: rest =>
    let (t, removed) := t.trim log keep
    let (t, more) := trimEach t keep rest
    (t, removed + more)

theorem Keyed.trimEach (h : t.Keyed) (keep : Nat) (logs : List String) : (t.trimEach keep logs).1.Keyed := by
  induction logs generalizing t with
  | nil => exact h
  | cons log rest ih => exact ih (h.trim log keep)

theorem trimEach_subset (t : Table) (keep : Nat) (logs : List String) :
    (t.trimEach keep logs).1.entries ⊆ t.entries := by
  induction logs generalizing t with
  | nil => exact fun r hr => hr
  | cons log rest ih => exact fun r hr => (mem_entries_trim.1 (ih (t.trim log keep).1 hr)).1

theorem length_trimEach (t : Table) (keep : Nat) (logs : List String) :
    (t.trimEach keep logs).2 + (t.trimEach keep logs).1.entries.length = t.entries.length := by
  induction logs generalizing t with
  | nil => exact Nat.zero_add _
  | cons log rest ih =>
    have hone := t.length_trim log keep
    have hrest := ih (t.trim log keep).1
    rw [Table.trimEach]
    dsimp only
    omega

/-- **Of each log on the list the newest rows are left**, and the other logs are as they were. -/
theorem rowsOf_trimEach (hlog : Valid log) {logs : List String} (hlogs : ∀ log ∈ logs, Valid log) (keep : Nat) :
    (t.trimEach keep logs).1.rowsOf log = if log ∈ logs then t.newest log keep else t.rowsOf log := by
  induction logs generalizing t with
  | nil => rfl
  | cons first rest ih =>
    obtain ⟨hfirst, hrest⟩ := List.forall_mem_cons.1 hlogs
    rw [Table.trimEach]
    dsimp only
    rw [ih hrest]
    by_cases heq : first = log
    · subst heq
      -- what is left of the log is not trimmed again
      have hagain : (t.trim first keep).1.count first ≤ keep := by
        rw [count_trim]
        exact Nat.min_le_right _ _
      rw [newest_of_count_le hagain, ite_self, rowsOf_trim_eq_newest, if_pos List.mem_cons_self]
    · simp only [newest, count, rowsOf_trim_of_ne hfirst hlog heq, List.mem_cons, Ne.symm heq, false_or]

theorem trimEach_of_count_le {logs : List String} (h : ∀ log ∈ logs, t.count log ≤ keep) :
    t.trimEach keep logs = (t, 0) := by
  induction logs with
  | nil => rfl
  | cons log rest ih =>
    obtain ⟨hlog, hrest⟩ := List.forall_mem_cons.1 h
    rw [trimEach, trim_of_count_le hlog]
    dsimp only
    rw [ih hrest]
    rfl

end Table

/-! ### Evictions -/

namespace Store

variable {s : Store} {t : Table} {log : String}

/-- An eviction is a removal, whether the store is open or not. -/
theorem evict_eq_trim (s : Store) (log : String) : s.evict log = s.trim log s.settings.retention.keep := by
  cases ht : s.table? with
  | some t => exact evict_eq ht log
  | none =>
    rw [evict, trim, begin, table, ht]
    rfl

/-- A second eviction finds nothing to remove. -/
theorem evict_evict (ht : s.table? = some t) (log : String) :
    (s.evict log).2.evict log = (.ok 0, (s.evict log).2) := by
  rw [evict_eq_trim s, trim_eq ht, evict_eq_trim, trim_eq (t := (t.trim log s.settings.retention.keep).1) rfl]
  exact congrArg (fun p : Table × Nat => (Except.ok p.2, s.commit ⟨p.1⟩)) (t.trim_trim log s.settings.retention.keep)

theorem evictEach_eq (ht : s.table? = some t) (logs : List String) :
    s.evictEach logs = (.ok (t.trimEach s.settings.retention.keep logs).2,
      s.commit ⟨(t.trimEach s.settings.retention.keep logs).1⟩) := by
  induction logs generalizing s t with
  | nil => rw [evictEach, Table.trimEach, commit_self ht]
  | cons log rest ih =>
    rw [evictEach, evict_eq ht, trim_eq ht]
    dsimp only
    rw [ih (t := (t.trim log s.settings.retention.keep).1) rfl]
    rfl

/-- An eviction of all logs evicts each log that owns a row. -/
theorem exists_evictAll_eq (ht : s.table? = some t) (hkeyed : t.Keyed) :
    ∃ names, s.evictAll = s.evictEach names ∧ ∀ log, log ∈ names ↔ Valid log ∧ t.rowsOf log ≠ [] := by
  obtain ⟨names, hnames, -, hmem⟩ := Table.logNames_eq hkeyed
  refine ⟨names, ?_, hmem⟩
  rw [evictAll, logNames, table_eq ht]
  simp only [Bind.bind, Except.bind, hnames]

/-- **An eviction of all logs leaves the newest rows of each**, registered or not, and counts what it removes. -/
theorem evictAll_eq (ht : s.table? = some t) (hkeyed : t.Keyed) :
    ∃ t', s.evictAll = (.ok (t.entries.length - t'.entries.length), s.commit ⟨t'⟩) ∧ t'.Keyed ∧
      t'.entries ⊆ t.entries ∧
        ∀ log, Valid log → t'.rowsOf log = t.newest log s.settings.retention.keep := by
  obtain ⟨names, hevict, hmem⟩ := exists_evictAll_eq ht hkeyed
  have hlength := t.length_trimEach s.settings.retention.keep names
  refine ⟨(t.trimEach s.settings.retention.keep names).1, ?_, hkeyed.trimEach _ _, t.trimEach_subset _ _,
    fun log hlog => ?_⟩
  · rw [hevict, evictEach_eq ht, ← hlength, Nat.add_sub_cancel]
  · rw [Table.rowsOf_trimEach hlog fun log hlog => ((hmem log).1 hlog).1]
    split
    · rfl
    · rename_i hnone
      -- a log that is not found owns no row
      have hrows : t.rowsOf log = [] := by
        by_contra hne
        exact hnone ((hmem log).2 ⟨hlog, hne⟩)
      rw [Table.newest, hrows, List.drop_nil]

/-- A second eviction of all logs finds nothing to remove. -/
theorem evictAll_evictAll (ht : s.table? = some t) (hkeyed : t.Keyed) :
    s.evictAll.2.evictAll = (.ok 0, s.evictAll.2) := by
  obtain ⟨t', hevict, hkeyed', -, hrows⟩ := evictAll_eq ht hkeyed
  rw [hevict]
  obtain ⟨names, hagain, hmem⟩ := exists_evictAll_eq (s := s.commit ⟨t'⟩) rfl hkeyed'
  have hcount : ∀ log ∈ names, t'.count log ≤ s.settings.retention.keep := by
    intro log hlog
    rw [Table.count, hrows log ((hmem log).1 hlog).1, Table.length_newest]
    exact Nat.min_le_right _ _
  have hnone := Table.trimEach_of_count_le hcount
  rw [hagain, evictEach_eq (t := t') rfl, show (s.commit ⟨t'⟩).settings = s.settings from rfl, hnone]
  rfl

/-! ### What is left of the events -/

theorem eventsOf_evict (ht : s.table? = some t) (hsound : t.Sound) (log : String) :
    (s.evict log).2.eventsOf log =
      (t.eventsOf log).drop ((t.eventsOf log).length - s.settings.retention.keep) := by
  rw [evict_eq ht, trim_eq ht, ← Table.eventsOf_trim hsound]
  rfl

theorem eventsOf_evictAll (ht : s.table? = some t) (hsound : t.Sound) (hlog : Valid log) :
    s.evictAll.2.eventsOf log =
      (t.eventsOf log).drop ((t.eventsOf log).length - s.settings.retention.keep) := by
  obtain ⟨t', hevict, -, -, hrows⟩ := evictAll_eq ht hsound.keyed
  rw [hevict, eventsOf_eq (t := t') rfl, Table.eventsOf, hrows log hlog, Table.newest,
    filterMap_drop _ hsound.isSome, Table.count_eq hsound, ← Table.eventsOf]

end Store
end Logbook
