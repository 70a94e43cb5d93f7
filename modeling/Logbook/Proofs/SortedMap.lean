import Logbook.SortedMap

/-!
# Keys and entries of maps

## Main results

* `SortedMap.mem_keys_iff`, `SortedMap.keys_eq_of_mem_iff` — the keys of a map are where something is found.
* `SortedMap.ofEntries_entries` — a map is made of its entries.
-/

namespace Logbook.SortedMap

variable {κ α β : Type} [Ord κ] [Std.TransOrd κ]

/-! ### Keys -/

theorem nodup_keys (m : SortedMap κ α) : m.keys.Nodup := by
  rw [keys, List.Nodup, List.pairwise_map]
  refine m.sorted.imp fun {a b} hlt heq => ?_
  rw [heq] at hlt
  simp at hlt

theorem mem_keys_iff [Std.LawfulEqOrd κ] {m : SortedMap κ α} {k : κ} :
    k ∈ m.keys ↔ (m.find? k).isSome := by
  rw [keys, List.mem_map, Option.isSome_iff_exists]
  constructor
  · rintro ⟨⟨k', a⟩, hmem, rfl⟩
    exact ⟨a, mem_entries_iff.1 hmem⟩
  · rintro ⟨a, ha⟩
    exact ⟨(k, a), mem_entries_iff.2 ha, rfl⟩

theorem mem_keys_insert [Std.LawfulEqOrd κ] {m : SortedMap κ α} {k k' : κ} {a : α} :
    k' ∈ (m.insert k a).keys ↔ k' = k ∨ k' ∈ m.keys := by
  rw [mem_keys_iff, find?_insert, mem_keys_iff]
  by_cases h : compare k k' = .eq
  · obtain rfl := Std.LawfulEqCmp.eq_of_compare h
    rw [if_pos h]
    exact iff_of_true rfl (Or.inl rfl)
  · have hne : k' ≠ k := by
      rintro rfl
      exact h Std.ReflCmp.compare_self
    rw [if_neg h]
    exact (or_iff_right hne).symm

/-- The keys of a map are those of the entries of which it was made. -/
theorem mem_keys_ofEntries [Std.LawfulEqOrd κ] {l : List (κ × α)} {k : κ} :
    k ∈ (ofEntries l).keys ↔ k ∈ l.map (·.1) := by
  have hfold : ∀ (l : List (κ × α)) (m : SortedMap κ α),
      k ∈ (l.foldl (fun m e => m.insert e.1 e.2) m).keys ↔ k ∈ l.map (·.1) ∨ k ∈ m.keys := by
    intro l
    induction l with
    | nil => intro m; exact (or_iff_right nofun).symm
    | cons e l ih =>
      intro m
      rw [List.foldl_cons, ih, mem_keys_insert, List.map_cons, List.mem_cons, or_left_comm, or_assoc]
  have hempty : ¬ k ∈ (empty : SortedMap κ α).keys := by
    rw [keys, entries_empty]
    exact nofun
  rw [ofEntries, hfold]
  exact or_iff_left hempty

/-- Maps with the same keys have them in the same order. -/
theorem keys_eq_of_mem_iff {m : SortedMap κ α} {n : SortedMap κ β} (h : ∀ k, k ∈ m.keys ↔ k ∈ n.keys) :
    m.keys = n.keys := by
  have hsorted {γ : Type} (m : SortedMap κ γ) :
      (m.keys.map fun k => (k, ())).Pairwise fun a b => compare a.1 b.1 = .lt := by
    rw [keys, List.map_map, List.pairwise_map]
    exact m.sorted
  have hunits := eq_of_mem_iff (hsorted m) (hsorted n) fun e => by
    rw [List.mem_map, List.mem_map]
    simp only [h]
  have hkeys := congrArg (List.map (·.1)) hunits
  rw [List.map_map, List.map_map] at hkeys
  exact (List.map_id _).symm.trans (hkeys.trans (List.map_id _))

/-! ### Single entries -/

section LawfulEqOrd

variable [Std.LawfulEqOrd κ]

theorem find?_insert_self (m : SortedMap κ α) (k : κ) (a : α) : (m.insert k a).find? k = some a := by
  rw [find?_insert, if_pos Std.ReflCmp.compare_self]

theorem find?_insert_of_ne {k k' : κ} (h : k' ≠ k) (m : SortedMap κ α) (a : α) :
    (m.insert k a).find? k' = m.find? k' := by
  rw [find?_insert, if_neg fun heq => h (Std.LawfulEqCmp.eq_of_compare heq).symm]

theorem find?_erase_self (m : SortedMap κ α) (k : κ) : (m.erase k).find? k = none := by
  rw [find?_erase, if_pos Std.ReflCmp.compare_self]

theorem find?_erase_of_ne {k k' : κ} (h : k' ≠ k) (m : SortedMap κ α) : (m.erase k).find? k' = m.find? k' := by
  rw [find?_erase, if_neg fun heq => h (Std.LawfulEqCmp.eq_of_compare heq).symm]

theorem mem_keys_erase {m : SortedMap κ α} {k k' : κ} : k' ∈ (m.erase k).keys ↔ k' ≠ k ∧ k' ∈ m.keys := by
  rw [mem_keys_iff, mem_keys_iff]
  by_cases h : k' = k
  · subst h
    rw [find?_erase_self]
    exact iff_of_false nofun fun h => h.1 rfl
  · rw [find?_erase_of_ne h]
    exact (and_iff_right h).symm

/-! ### Entries -/

/-- Where entries in order are put into a map one after another, each of them is found. -/
theorem find?_foldl_insert {l : List (κ × α)} (h : l.Pairwise fun a b => compare a.1 b.1 = .lt) (m : SortedMap κ α)
    (k : κ) : (l.foldl (fun m e => m.insert e.1 e.2) m).find? k = (lookup k l).or (m.find? k) := by
  induction l generalizing m with
  | nil => rfl
  | cons e l ih =>
    obtain ⟨k', a⟩ := e
    obtain ⟨hhd, htl⟩ := List.pairwise_cons.1 h
    rw [List.foldl_cons, ih htl, lookup]
    split
    · -- the first entry is the only one with this key
      rename_i heq
      obtain rfl := Std.LawfulEqCmp.eq_of_compare heq
      have hnone : lookup k l = none := by
        rw [Option.eq_none_iff_forall_ne_some]
        intro b hb
        have hlt := hhd _ ((lookup_eq_some_iff htl).1 hb)
        simp at hlt
      rw [hnone, find?_insert_self]
      rfl
    · rename_i hne
      rw [find?_insert_of_ne]
      rintro rfl
      exact hne Std.ReflCmp.compare_self

theorem ext_find? {m n : SortedMap κ α} (h : ∀ k, m.find? k = n.find? k) : m = n := by
  refine ext (eq_of_mem_iff m.sorted n.sorted fun e => ?_)
  rw [mem_entries_iff, mem_entries_iff, h]

/-- **A map is made of its entries.** -/
theorem ofEntries_entries (m : SortedMap κ α) : ofEntries m.entries = m := by
  refine ext_find? fun k => ?_
  rw [ofEntries, find?_foldl_insert m.sorted, ← find?_eq, find?_empty, Option.or_none]

end LawfulEqOrd

end Logbook.SortedMap
