import Mathlib.Algebra.Group.Nat.Defs
import Mathlib.Data.List.Induction
import Logbook.EventId

/-!
# Numerals and their order

Digits of a fixed width spell a number and compare as the number does, so an identifier can be read back
from its bytes, and byte strings that end in identifiers are ordered by them.

## Main results

* `Positional.value_digits`, `Positional.digits_value`, `Positional.compare_digits` — digits against the number they
  spell.
* `Bytes.toNat_ofNat`, `Bytes.ofNat_toNat`, `Bytes.compare_ofNat` — the same for bytes.
* `EventId.ofNat_toNat_toBytes`, `EventId.toBytes_ofNat_toNat`, `EventId.compare_toBytes` — the bytes of an
  identifier.
-/

namespace Logbook

/-! ### Comparing lists -/

section Lists

variable {α β : Type} [Ord α] [Ord β]

theorem compare_cons (a b : α) (l m : List α) :
    compare (a :: l) (b :: m) = (compare a b).then (compare l m) :=
  List.compareLex_cons_cons

/-- A common beginning says nothing about the order. -/
theorem compare_append_left [Std.ReflOrd α] (p l m : List α) :
    compare (p ++ l) (p ++ m) = compare l m := by
  induction p with
  | nil => rfl
  | cons a p ih =>
    have hself : compare a a = .eq := Std.ReflCmp.compare_self
    rw [List.cons_append, List.cons_append, compare_cons, ih, hself, Ordering.eq_then]

/-- Lists of one length are compared before what follows them. -/
theorem compare_append_append : ∀ {l m : List α} (r s : List α), l.length = m.length →
    compare (l ++ r) (m ++ s) = (compare l m).then (compare r s) := by
  intro l
  induction l with
  | nil =>
    intro m r s h
    obtain rfl := List.length_eq_zero_iff.1 h.symm
    rfl
  | cons a l ih =>
    intro m r s h
    cases m with
    | nil => simp at h
    | cons b m =>
      rw [List.cons_append, List.cons_append, compare_cons, compare_cons, ih r s (by simpa using h),
        Ordering.then_assoc]

/-- A map that keeps the order of the elements keeps the order of the lists. -/
theorem compare_map {f : α → β} : ∀ {l m : List α},
    (∀ a ∈ l, ∀ b ∈ m, compare (f a) (f b) = compare a b) →
      compare (l.map f) (m.map f) = compare l m := by
  intro l
  induction l with
  | nil => intro m _; cases m <;> rfl
  | cons a l ih =>
    intro m h
    cases m with
    | nil => rfl
    | cons b m =>
      rw [List.map_cons, List.map_cons, compare_cons, compare_cons,
        h a List.mem_cons_self b List.mem_cons_self,
        ih fun a ha b hb => h a (List.mem_cons_of_mem _ ha) b (List.mem_cons_of_mem _ hb)]

end Lists

/-! ### Digits -/

namespace Positional

theorem digits_zero (base n : Nat) : digits base 0 n = [] := rfl

theorem digits_succ (base width n : Nat) :
    digits base (width + 1) n = digits base width (n / base) ++ [n % base] := by
  rw [digits, digitsRev_succ, List.reverse_cons, digits]

@[simp] theorem value_nil (base : Nat) : value base [] = 0 := rfl

theorem value_concat (base : Nat) (ds : List Nat) (d : Nat) :
    value base (ds ++ [d]) = value base ds * base + d := by
  simp [value]

/-- The digits of a number spell it, as far as they reach. -/
theorem value_digits (base width n : Nat) :
    value base (digits base width n) = n % base ^ width := by
  induction width generalizing n with
  | zero => simp [digits_zero, Nat.mod_one]
  | succ width ih =>
    rw [digits_succ, value_concat, ih, Nat.pow_succ', Nat.mod_mul, Nat.mul_comm, Nat.add_comm]

/-- The digits in front count for what those behind them reach. -/
theorem value_append (base : Nat) (ds es : List Nat) :
    value base (ds ++ es) = value base ds * base ^ es.length + value base es := by
  induction es using List.reverseRecOn with
  | nil => simp
  | append_singleton es e ih =>
    rw [← List.append_assoc, value_concat, ih, value_concat, List.length_append, List.length_singleton, Nat.pow_succ,
      Nat.add_mul, Nat.mul_assoc, Nat.add_assoc]

/-- The first digit counts for the most. -/
theorem value_cons (base d : Nat) (ds : List Nat) :
    value base (d :: ds) = d * base ^ ds.length + value base ds := by
  rw [← List.singleton_append, value_append, ← List.nil_append [d], value_concat, value_nil, Nat.zero_mul, Nat.zero_add]

/-- A digit is what is left of the number when the digits behind it and those before it are cut off. -/
theorem digits_eq_map_range (base width n : Nat) :
    digits base width n = (List.range width).map fun k => n / base ^ (width - 1 - k) % base := by
  induction width generalizing n with
  | zero => rfl
  | succ width ih =>
    have hfront : (List.range width).map (fun k => n / base / base ^ (width - 1 - k) % base) =
        (List.range width).map fun k => n / base ^ (width + 1 - 1 - k) % base := by
      refine List.map_congr_left fun k hk => ?_
      have hk := List.mem_range.1 hk
      rw [Nat.div_div_eq_div_mul, ← Nat.pow_succ', show (width - 1 - k).succ = width + 1 - 1 - k by omega]
    rw [digits_succ, ih, hfront, List.range_succ, List.map_append, List.map_singleton, Nat.add_sub_cancel, Nat.sub_self,
      Nat.pow_zero, Nat.div_one]

/-- The first digits are those of the number without what the others count for. -/
theorem take_digits {base width k : Nat} (hk : k ≤ width) (n : Nat) :
    (digits base width n).take k = digits base k (n / base ^ (width - k)) := by
  rw [digits_eq_map_range, digits_eq_map_range, ← List.map_take, List.take_range, Nat.min_eq_left hk]
  refine List.map_congr_left fun j hj => ?_
  have hj := List.mem_range.1 hj
  rw [Nat.div_div_eq_div_mul, ← Nat.pow_add, show width - k + (k - 1 - j) = width - 1 - j by omega]

/-- Digits spell a number below the power of the base. -/
theorem value_lt {base : Nat} {ds : List Nat} (h : ∀ d ∈ ds, d < base) : value base ds < base ^ ds.length := by
  induction ds using List.reverseRecOn with
  | nil => exact Nat.one_pos
  | append_singleton ds d ih =>
    obtain ⟨hds, hd⟩ := List.forall_mem_append.1 h
    have hlt := Nat.mul_le_mul_right base (ih hds)
    have hd := hd d List.mem_cons_self
    rw [Nat.succ_mul] at hlt
    rw [value_concat, List.length_append, List.length_singleton, Nat.pow_succ]
    omega

/-- Digits are those of the number that they spell. -/
theorem digits_value {base : Nat} {ds : List Nat} (h : ∀ d ∈ ds, d < base) :
    digits base ds.length (value base ds) = ds := by
  induction ds using List.reverseRecOn with
  | nil => rfl
  | append_singleton ds d ih =>
    obtain ⟨hds, hd⟩ := List.forall_mem_append.1 h
    have hd := hd d List.mem_cons_self
    have hdiv : (value base ds * base + d) / base = value base ds := by
      rw [Nat.mul_comm, Nat.mul_add_div (Nat.zero_lt_of_lt hd), Nat.div_eq_of_lt hd, Nat.add_zero]
    have hmod : (value base ds * base + d) % base = d := by
      rw [Nat.mul_comm, Nat.mul_add_mod, Nat.mod_eq_of_lt hd]
    rw [value_concat, List.length_append, List.length_singleton, digits_succ, hdiv, hmod, ih hds]

/-- Numbers compare as their quotients, and then as their remainders. -/
theorem compare_div_mod {base : Nat} (hb : 0 < base) (m n : Nat) :
    (compare (m / base) (n / base)).then (compare (m % base) (n % base)) = compare m n := by
  have hm := Nat.div_add_mod m base
  have hn := Nat.div_add_mod n base
  have hm' := Nat.mod_lt m hb
  have hn' := Nat.mod_lt n hb
  rcases Nat.lt_trichotomy (m / base) (n / base) with h | h | h
  · have : base * (m / base + 1) ≤ base * (n / base) := Nat.mul_le_mul_left _ h
    rw [Nat.mul_succ] at this
    have hlt : m < n := by omega
    rw [Nat.compare_eq_lt.2 h, Nat.compare_eq_lt.2 hlt]
    rfl
  · rw [h] at hm ⊢
    rw [Nat.compare_eq_eq.2 rfl, Ordering.eq_then]
    rcases Nat.lt_trichotomy (m % base) (n % base) with h' | h' | h'
    · have hlt : m < n := by omega
      rw [Nat.compare_eq_lt.2 h', Nat.compare_eq_lt.2 hlt]
    · have heq : m = n := by omega
      rw [Nat.compare_eq_eq.2 h', Nat.compare_eq_eq.2 heq]
    · have hgt : n < m := by omega
      rw [Nat.compare_eq_gt.2 h', Nat.compare_eq_gt.2 hgt]
  · have : base * (n / base + 1) ≤ base * (m / base) := Nat.mul_le_mul_left _ h
    rw [Nat.mul_succ] at this
    have hgt : n < m := by omega
    rw [Nat.compare_eq_gt.2 h, Nat.compare_eq_gt.2 hgt]
    rfl

/-- Digits compare as the numbers that they spell. -/
theorem compare_digits {base : Nat} (hb : 0 < base) : ∀ (width : Nat) {m n : Nat},
    m < base ^ width → n < base ^ width →
      compare (digits base width m) (digits base width n) = compare m n := by
  intro width
  induction width with
  | zero =>
    intro m n hm hn
    rw [Nat.pow_zero, Nat.lt_one_iff] at hm hn
    rw [hm, hn]
    rfl
  | succ width ih =>
    intro m n hm hn
    rw [Nat.pow_succ] at hm hn
    have hlast (d e : Nat) : compare [d] [e] = compare d e := by
      rw [compare_cons]
      exact Ordering.then_eq
    rw [digits_succ, digits_succ, compare_append_append _ _ (by simp), hlast,
      ih (Nat.div_lt_of_lt_mul (by rwa [Nat.mul_comm])) (Nat.div_lt_of_lt_mul (by rwa [Nat.mul_comm])),
      compare_div_mod hb]

end Positional

/-! ### Bytes -/

namespace Bytes

theorem toNat_ofNat_digit {d : Nat} (h : d < 256) : (UInt8.ofNat d).toNat = d := by
  rw [UInt8.toNat_ofNat']
  exact Nat.mod_eq_of_lt h

theorem compare_eq_compare_toNat (a b : UInt8) : compare a b = compare a.toNat b.toNat := by
  change compareOfLessAndEq a b = compareOfLessAndEq a.toNat b.toNat
  simp only [compareOfLessAndEq, UInt8.lt_iff_toNat_lt, UInt8.toNat_inj]

/-- A number can be read back from its bytes, as far as they reach. -/
theorem toNat_ofNat (width n : Nat) : toNat (ofNat width n) = n % 256 ^ width := by
  have hdigits : (ofNat width n).map UInt8.toNat = Positional.digits 256 width n := by
    have hdigit : ∀ d ∈ Positional.digits 256 width n, (UInt8.toNat ∘ UInt8.ofNat) d = id d :=
      fun d hd => toNat_ofNat_digit (Positional.lt_of_mem_digits (by decide) hd)
    rw [ofNat, List.map_map, List.map_congr_left hdigit, List.map_id]
  rw [toNat, hdigits, Positional.value_digits]

theorem forall_mem_map_toNat (b : Bytes) : ∀ d ∈ b.map UInt8.toNat, d < 256 := by
  intro d hd
  obtain ⟨x, -, rfl⟩ := List.mem_map.1 hd
  exact x.toNat_lt

/-- A byte string is read back from the number that it spells. -/
theorem ofNat_toNat (b : Bytes) : ofNat b.length (toNat b) = b := by
  have hdigits : Positional.digits 256 (b.map UInt8.toNat).length (Positional.value 256 (b.map UInt8.toNat)) =
      b.map UInt8.toNat := Positional.digits_value (forall_mem_map_toNat b)
  have hbyte : ∀ x ∈ b, (UInt8.ofNat ∘ UInt8.toNat) x = id x := fun x _ => UInt8.ofNat_toNat
  rw [List.length_map] at hdigits
  rw [ofNat, toNat, hdigits, List.map_map, List.map_congr_left hbyte, List.map_id]

theorem toNat_lt (b : Bytes) : toNat b < 256 ^ b.length := by
  have hlt := Positional.value_lt (forall_mem_map_toNat b)
  rw [List.length_map] at hlt
  exact hlt

/-- Bytes compare as the numbers that they spell. -/
theorem compare_ofNat {width m n : Nat} (hm : m < 256 ^ width) (hn : n < 256 ^ width) :
    compare (ofNat width m) (ofNat width n) = compare m n := by
  have hdigit : ∀ a ∈ Positional.digits 256 width m, ∀ b ∈ Positional.digits 256 width n,
      compare (UInt8.ofNat a) (UInt8.ofNat b) = compare a b := by
    intro a ha b hb
    have ha := toNat_ofNat_digit (Positional.lt_of_mem_digits (by decide) ha)
    have hb := toNat_ofNat_digit (Positional.lt_of_mem_digits (by decide) hb)
    rw [compare_eq_compare_toNat, ha, hb]
  rw [ofNat, ofNat, compare_map hdigit, Positional.compare_digits (by decide) width hm hn]

end Bytes

/-! ### Identifiers -/

namespace EventId

theorem value_lt_pow (i : EventId) : i.value < 256 ^ byteLength := i.value_lt

/-- An identifier can be read back from its bytes. -/
theorem ofNat_toNat_toBytes (i : EventId) : ofNat (Bytes.toNat i.toBytes) = i := by
  apply EventId.ext
  rw [toBytes, Bytes.toNat_ofNat, Nat.mod_eq_of_lt i.value_lt_pow]
  exact Nat.mod_eq_of_lt i.value_lt

/-- Sixteen bytes can be read back from the identifier that they are. -/
theorem toBytes_ofNat_toNat {b : Bytes} (h : b.length = byteLength) : (ofNat (Bytes.toNat b)).toBytes = b := by
  have hlt : Bytes.toNat b < timestampBound * entropyBound := by
    have hlt := Bytes.toNat_lt b
    rw [h] at hlt
    exact hlt
  have hvalue : (ofNat (Bytes.toNat b)).value = Bytes.toNat b := Nat.mod_eq_of_lt hlt
  rw [toBytes, hvalue, ← h, Bytes.ofNat_toNat]

/-- The bytes of identifiers compare as the identifiers do. -/
theorem compare_toBytes (i j : EventId) : compare i.toBytes j.toBytes = compare i j :=
  Bytes.compare_ofNat i.value_lt_pow j.value_lt_pow

theorem compare_eq_lt {i j : EventId} : compare i j = .lt ↔ i < j := Nat.compare_eq_lt

end EventId

end Logbook
