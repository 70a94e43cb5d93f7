import Logbook.Proofs.Entry

/-!
# The order of keys

The separator comes before every byte by which a name can go on.  So keys are ordered by their names, as byte strings,
and then by their identifiers, and what lies between the bounds of a log are its keys and no others.  A name may hold
whatever else it likes, and an identifier may hold the separator: a key is split from its end, where the width is fixed.

## Main results

* `Entry.compare_append_separator` — what stands before the separator decides first.
* `Entry.compare_key_key` — keys compare as their names and then as their identifiers.
* `Entry.decodeKey_eq_ok_iff` — a byte string is read as a key just where it is one.
* `Entry.keys_isomorphic` — **keys are ordered, bounded and read as names with identifiers.**
-/

namespace Logbook
namespace Entry

variable {log log' : String} {id id' : EventId}

/-! ### Order -/

/-- The separator comes before every other byte. -/
theorem compare_separator {b : UInt8} (h : b ≠ separator) : compare separator b = .lt := by
  rw [Bytes.compare_eq_compare_toNat, Nat.compare_eq_lt]
  exact Nat.pos_of_ne_zero fun hzero => h (UInt8.toNat_inj.1 hzero)

/-- **What stands before the separator decides first.** -/
theorem compare_append_separator : ∀ {a b : Bytes} (r s : Bytes), separator ∉ a → separator ∉ b →
    compare (a ++ separator :: r) (b ++ separator :: s) = (compare a b).then (compare r s) := by
  intro a
  induction a with
  | nil =>
    intro b r s _ hb
    cases b with
    | nil => exact compare_append_left [separator] r s
    | cons y b =>
      -- the shorter one has its separator where the other one goes on
      have hy := compare_separator (Ne.symm (List.ne_of_not_mem_cons hb))
      rw [List.nil_append, List.cons_append, compare_cons, hy]
      rfl
  | cons x a ih =>
    intro b r s ha hb
    cases b with
    | nil =>
      have hx := compare_separator (Ne.symm (List.ne_of_not_mem_cons ha))
      rw [List.nil_append, List.cons_append, compare_cons, Std.OrientedCmp.gt_of_lt hx]
      rfl
    | cons y b =>
      rw [List.cons_append, List.cons_append, compare_cons, compare_cons, Ordering.then_assoc,
        ih r s (List.not_mem_of_not_mem_cons ha) (List.not_mem_of_not_mem_cons hb)]

/-- **Keys compare as their names and then as their identifiers.** -/
theorem compare_key_key (h : LogName.Valid log) (h' : LogName.Valid log') (id id' : EventId) :
    compare (key log id) (key log' id') =
      (compare (Utf8.encode log) (Utf8.encode log')).then (compare id id') := by
  rw [key, key, compare_append_separator _ _ (separator_notMem_encode h) (separator_notMem_encode h'),
    EventId.compare_toBytes]

theorem compare_key_eq_lt_iff (h : LogName.Valid log) (h' : LogName.Valid log') :
    compare (key log id) (key log' id') = .lt ↔
      compare (Utf8.encode log) (Utf8.encode log') = .lt ∨ log = log' ∧ id < id' := by
  rw [compare_key_key h h', Ordering.then_eq_lt, EventId.compare_eq_lt, Std.LawfulEqCmp.compare_eq_iff_eq]
  exact or_congr_right (and_congr_left' ⟨Utf8.encode_injective, congrArg Utf8.encode⟩)

/-! ### Reading -/

/-- A byte string with a separator in the right place is what stands before it, the separator and the rest. -/
theorem eq_append_separator {k : Bytes} {split : Nat} (hlt : split < k.length) (h : k.getD split 0 = separator) :
    k = k.take split ++ separator :: k.drop (split + 1) := by
  rw [List.getD_eq_getElem?_getD, List.getElem?_eq_getElem hlt, Option.getD_some] at h
  rw [← h, ← List.drop_eq_getElem_cons hlt, List.take_append_drop]

/-- **A byte string is read as a key just where it is one.** -/
theorem decodeKey_eq_ok_iff {k : Bytes} : decodeKey k = .ok (log, id) ↔ k = key log id := by
  constructor
  · intro h
    rw [decodeKey] at h
    split at h
    · cases h
    · rename_i hlong
      dsimp only at h
      split at h
      · cases h
      · rename_i hseparator
        split at h
        · rename_i name hname
          obtain ⟨rfl, rfl⟩ := Prod.mk.inj (Except.ok.inj h)
          simp only [EventId.byteLength] at hlong hseparator hname
          have hrest : (k.drop (k.length - 16 - 1 + 1)).length = EventId.byteLength := by
            rw [List.length_drop, EventId.byteLength]
            omega
          have hk := eq_append_separator (by omega) (Decidable.not_not.1 hseparator)
          rw [Utf8.decode_eq_ok_iff.1 hname] at hk
          rw [key, EventId.byteLength, EventId.toBytes_ofNat_toNat hrest]
          exact hk
        · cases h
  · rintro rfl
    exact decodeKey_key log id

/-- Before the separator of a key there is nothing but text. -/
theorem exists_decodeKey_iff {name : Bytes} (id : EventId) :
    (∃ found, decodeKey (name ++ separator :: id.toBytes) = .ok found) ↔ ∃ log, Utf8.decode name = .ok log := by
  constructor
  · rintro ⟨⟨log, id'⟩, h⟩
    have hk := decodeKey_eq_ok_iff.1 h
    rw [key] at hk
    obtain ⟨hname, -⟩ := List.append_inj' hk (by simp)
    exact ⟨log, Utf8.decode_eq_ok_iff.2 hname⟩
  · rintro ⟨log, h⟩
    rw [Utf8.decode_eq_ok_iff.1 h]
    exact ⟨_, decodeKey_key log id⟩

/-! ### The isomorphism -/

/-- **Keys are ordered, bounded and read as names with identifiers.**  The keys of logs are in the order of the names
and then of the identifiers.  A key lies between the bounds of its own log only.  What is read as a key is the key of
what is read, and a byte string of the right form is read unless its name is no text. -/
theorem keys_isomorphic (h : LogName.Valid log) (h' : LogName.Valid log') (id id' : EventId) :
    (compare (key log id) (key log' id') = .lt ↔
      compare (Utf8.encode log) (Utf8.encode log') = .lt ∨ log = log' ∧ id < id') ∧
    (compare (key log id) (keysFrom log') ≠ .lt ∧ compare (key log id) (keysTo log') = .lt ↔ log = log') ∧
    (∀ (k : Bytes) (found : String) (id : EventId), decodeKey k = .ok (found, id) ↔ k = key found id) ∧
    ∀ (name : Bytes) (id : EventId), (∃ found, decodeKey (name ++ separator :: id.toBytes) = .ok found) ↔
      ∃ found, Utf8.decode name = .ok found := by
  refine ⟨compare_key_eq_lt_iff h h', ?_, fun _ _ _ => decodeKey_eq_ok_iff, fun _ => exists_decodeKey_iff⟩
  rw [@eq_comm _ log log', ← owns_key_iff h' h id, Table.owns, Bool.and_eq_true, Bool.not_eq_true', not_precedes_iff,
    precedes_iff]

/-- A name that goes on with the byte after the separator, and identifiers that hold both. -/
theorem keys_isomorphic_one :
    let id : EventId := ⟨1, by decide⟩
    LogName.Valid "a" ∧ LogName.Valid "a\x01" ∧
      compare (key "a" .greatest) (key "a\x01" id) = .lt ∧
      ¬ (compare (key "a\x01" id) (keysFrom "a") ≠ .lt ∧ compare (key "a\x01" id) (keysTo "a") = .lt) ∧
      decodeKey (key "a\x01" id) = .ok ("a\x01", id) := by
  intro id
  have ha : LogName.Valid "a" := by decide
  have hone : LogName.Valid "a\x01" := by decide
  obtain ⟨hlt, -⟩ := keys_isomorphic ha hone .greatest id
  obtain ⟨-, hbounds, hread, -⟩ := keys_isomorphic hone ha id id
  exact ⟨ha, hone, hlt.2 (Or.inl (by decide)), mt hbounds.1 (by decide), (hread _ _ _).2 rfl⟩

end Entry
end Logbook
