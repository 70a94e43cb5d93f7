import Std.Data.ExtTreeMap.Lemmas

/-!
# Sorted maps

A finite map that is read in ascending order of its keys.  A balanced tree holds it, so that a change of
one entry is cheap in a large map; all that there is to say about a map is said about the list of its
entries, and each operation is tied to that list.

## Main definitions

* `SortedMap κ α` — a map from `κ` to `α`.
* `SortedMap.entries` — its entries in ascending order of keys, which is the view of a map.
* `SortedMap.insert`, `SortedMap.erase`, `SortedMap.find?` — one entry at a time.
* `SortedMap.ofEntries` — later entries win over earlier ones with the same key.

## Main results

* `SortedMap.ext` — a map is its list of entries.
* `SortedMap.sorted` — the entries stand in strictly ascending order.
* `SortedMap.find?_eq`, `SortedMap.entries_insert`, `SortedMap.entries_erase` — the operations on the view.
-/

namespace Logbook

/-- A finite map whose keys are ordered. -/
structure SortedMap (κ α : Type) [Ord κ] where
  /-- The tree that holds the entries. -/
  tree : Std.ExtTreeMap κ α compare

namespace SortedMap

variable {κ α : Type} [Ord κ]

/-! ### Lists of entries -/

/-- The value of the first entry with the key `k`. -/
def lookup (k : κ) : List (κ × α) → Option α
  | [] => none
  | (k', a) :: rest => if compare k k' = .eq then some a else lookup k rest

/-- Puts `a` at `k` into a sorted list of entries, in place of an entry with that key. -/
def insertEntry (k : κ) (a : α) : List (κ × α) → List (κ × α)
  | [] => [(k, a)]
  | (k', a') :: rest =>
    match compare k k' with
    | .lt => (k, a) :: (k', a') :: rest
    | .eq => (k, a) :: rest
    | .gt => (k', a') :: insertEntry k a rest

/-- An entry after an insertion is the new one or an old one. -/
theorem mem_insertEntry {k : κ} {a : α} {e : κ × α} {l : List (κ × α)}
    (h : e ∈ insertEntry k a l) : e = (k, a) ∨ e ∈ l := by
  induction l with
  | nil => exact Or.inl (by simpa [insertEntry] using h)
  | cons hd tl ih =>
    obtain ⟨k', a'⟩ := hd
    rw [insertEntry] at h
    split at h
    · simpa using h
    · simp only [List.mem_cons] at h
      exact h.imp id (List.mem_cons_of_mem _)
    · simp only [List.mem_cons] at h
      rcases h with h | h
      · exact Or.inr (h ▸ List.mem_cons_self)
      · exact (ih h).imp id (List.mem_cons_of_mem _)

theorem pairwise_insertEntry [Std.TransOrd κ] [Std.LawfulEqOrd κ] (k : κ) (a : α)
    {l : List (κ × α)} (h : l.Pairwise fun a b => compare a.1 b.1 = .lt) :
    (insertEntry k a l).Pairwise fun a b => compare a.1 b.1 = .lt := by
  induction l with
  | nil => exact List.pairwise_singleton _ _
  | cons hd tl ih =>
    obtain ⟨k', a'⟩ := hd
    obtain ⟨hhd, htl⟩ := List.pairwise_cons.1 h
    rw [insertEntry]
    split
    · rename_i hlt
      refine List.pairwise_cons.2 ⟨fun e he => ?_, h⟩
      rcases List.mem_cons.1 he with rfl | he
      · exact hlt
      · exact Std.TransCmp.lt_trans hlt (hhd e he)
    · rename_i heq
      obtain rfl := Std.LawfulEqCmp.eq_of_compare heq
      exact List.pairwise_cons.2 ⟨hhd, htl⟩
    · rename_i hgt
      refine List.pairwise_cons.2 ⟨fun e he => ?_, ih htl⟩
      rcases mem_insertEntry he with rfl | he
      · exact Std.OrientedCmp.lt_of_gt hgt
      · exact hhd e he

/-- Among entries in order, a look-up finds the entry with the key. -/
theorem lookup_eq_some_iff [Std.LawfulEqOrd κ] {k : κ} {a : α} {l : List (κ × α)}
    (h : l.Pairwise fun a b => compare a.1 b.1 = .lt) :
    lookup k l = some a ↔ (k, a) ∈ l := by
  induction l with
  | nil => simp [lookup]
  | cons hd tl ih =>
    obtain ⟨k', a'⟩ := hd
    obtain ⟨hhd, htl⟩ := List.pairwise_cons.1 h
    rw [lookup, List.mem_cons, Prod.mk.injEq]
    split
    · rename_i heq
      obtain rfl := Std.LawfulEqCmp.eq_of_compare heq
      have hnot : (k, a) ∉ tl := fun he => by simpa using hhd _ he
      simp [hnot, eq_comm]
    · rename_i hne
      have hne : k ≠ k' := fun e => hne (by simp [e])
      simp [hne, ih htl]

/-- A look-up after an insertion. -/
theorem lookup_insertEntry [Std.TransOrd κ] [Std.LawfulEqOrd κ] (k k' : κ) (a : α)
    (l : List (κ × α)) :
    lookup k' (insertEntry k a l) =
      if compare k' k = .eq then some a else lookup k' l := by
  induction l with
  | nil => rfl
  | cons hd tl ih =>
    obtain ⟨k₁, a₁⟩ := hd
    rw [insertEntry]
    split
    · rfl
    · rename_i heq
      obtain rfl := Std.LawfulEqCmp.eq_of_compare heq
      simp only [lookup]
      split <;> rfl
    · rename_i hgt
      simp only [lookup, ih]
      split
      · -- the first key is the one looked for, so it is not the new one
        rename_i heq
        obtain rfl := Std.LawfulEqCmp.eq_of_compare heq
        rw [if_neg]
        intro heq'
        rw [Std.OrientedCmp.eq_comm.1 heq'] at hgt
        cases hgt
      · rfl

/-- Two lists with the same entries, both in order, are equal. -/
theorem eq_of_mem_iff [Std.TransOrd κ] {l l' : List (κ × α)}
    (h : l.Pairwise fun a b => compare a.1 b.1 = .lt)
    (h' : l'.Pairwise fun a b => compare a.1 b.1 = .lt) (hmem : ∀ e, e ∈ l ↔ e ∈ l') : l = l' := by
  have nodup {l : List (κ × α)} (h : l.Pairwise fun a b => compare a.1 b.1 = .lt) : l.Nodup :=
    h.imp fun hlt heq => by simp [heq] at hlt
  refine ((List.perm_ext_iff_of_nodup (nodup h) (nodup h')).2 hmem).eq_of_pairwise ?_ h h'
  intro a b _ _ hab hba
  have swap : compare a.1 b.1 = (compare b.1 a.1).swap := Std.OrientedCmp.eq_swap
  rw [swap, hba] at hab
  cases hab

/-! ### The view of a map -/

/-- The map without entries. -/
def empty : SortedMap κ α := ⟨∅⟩

instance : EmptyCollection (SortedMap κ α) := ⟨empty⟩

instance : Inhabited (SortedMap κ α) := ⟨empty⟩

variable [Std.TransOrd κ]

/-- The entries, in ascending order of keys. -/
def entries (m : SortedMap κ α) : List (κ × α) := m.tree.toList

/-- The keys, in ascending order. -/
def keys (m : SortedMap κ α) : List κ := m.entries.map (·.1)

/-- The number of entries. -/
def size (m : SortedMap κ α) : Nat := m.entries.length

@[simp] theorem entries_empty : (empty : SortedMap κ α).entries = [] :=
  Std.ExtTreeMap.toList_eq_nil_iff.2 rfl

@[ext] theorem ext {m n : SortedMap κ α} (h : m.entries = n.entries) : m = n := by
  cases m; cases n; cases Std.ExtTreeMap.toList_inj.1 h; rfl

instance [DecidableEq κ] [DecidableEq α] : DecidableEq (SortedMap κ α) := fun m n =>
  if h : m.entries = n.entries then isTrue (ext h)
  else isFalse fun e => h (congrArg entries e)

/-- No key stands twice and none stands before a smaller one. -/
theorem sorted (m : SortedMap κ α) : m.entries.Pairwise fun a b => compare a.1 b.1 = .lt :=
  Std.ExtTreeMap.ordered_keys_toList

/-! ### Look-up -/

/-- The value at `k`, if there is one. -/
def find? (m : SortedMap κ α) (k : κ) : Option α := m.tree[k]?

/-- Whether `k` is a key. -/
def contains (m : SortedMap κ α) (k : κ) : Bool := (m.find? k).isSome

/-- An entry is a key and the value at it. -/
theorem mem_entries_iff [Std.LawfulEqOrd κ] {m : SortedMap κ α} {k : κ} {a : α} :
    (k, a) ∈ m.entries ↔ m.find? k = some a :=
  Std.ExtTreeMap.mem_toList_iff_getElem?_eq_some

/-- A look-up is one in the list of entries. -/
theorem find?_eq [Std.LawfulEqOrd κ] (m : SortedMap κ α) (k : κ) :
    m.find? k = lookup k m.entries :=
  Option.ext fun _ => mem_entries_iff.symm.trans (lookup_eq_some_iff m.sorted).symm

@[simp] theorem find?_empty (k : κ) : (empty : SortedMap κ α).find? k = none :=
  Std.ExtTreeMap.getElem?_empty

/-! ### Insertion -/

/-- The map with `a` at `k`. -/
def insert (m : SortedMap κ α) (k : κ) (a : α) : SortedMap κ α := ⟨m.tree.insert k a⟩

/-- The map of a list of entries, in which a later entry replaces an earlier one of the same key. -/
def ofEntries (l : List (κ × α)) : SortedMap κ α := l.foldl (fun m e => m.insert e.1 e.2) empty

theorem find?_insert (m : SortedMap κ α) (k k' : κ) (a : α) :
    (m.insert k a).find? k' = if compare k k' = .eq then some a else m.find? k' :=
  Std.ExtTreeMap.getElem?_insert

/-- An insertion puts its entry where the order demands. -/
@[simp] theorem entries_insert [Std.LawfulEqOrd κ] (m : SortedMap κ α) (k : κ) (a : α) :
    (m.insert k a).entries = insertEntry k a m.entries := by
  refine eq_of_mem_iff (sorted _) (pairwise_insertEntry k a m.sorted) fun e => ?_
  have comm : compare k e.1 = .eq ↔ compare e.1 k = .eq := Std.OrientedCmp.eq_comm
  rw [mem_entries_iff, ← lookup_eq_some_iff (pairwise_insertEntry k a m.sorted),
    lookup_insertEntry, find?_insert, ← find?_eq]
  simp only [comm]

/-! ### Removal -/

/-- The map without the key `k`. -/
def erase (m : SortedMap κ α) (k : κ) : SortedMap κ α := ⟨m.tree.erase k⟩

theorem find?_erase (m : SortedMap κ α) (k k' : κ) :
    (m.erase k).find? k' = if compare k k' = .eq then none else m.find? k' :=
  Std.ExtTreeMap.getElem?_erase

/-- A removal leaves the entries with other keys. -/
@[simp] theorem entries_erase [Std.LawfulEqOrd κ] (m : SortedMap κ α) (k : κ) :
    (m.erase k).entries = m.entries.filter fun e => compare k e.1 != .eq := by
  refine eq_of_mem_iff (sorted _) (m.sorted.sublist List.filter_sublist) fun e => ?_
  rw [mem_entries_iff, List.mem_filter, mem_entries_iff, find?_erase]
  split <;> simp_all

end SortedMap

end Logbook
