import Logbook.Proofs.Numerals
import Logbook.Text.Decimal

/-!
# What decimal numerals spell

## Main results

* `Decimal.valueOf_natural`, `Decimal.valueOf_fixed` — a number is read back from its numeral.
* `Decimal.fixed_valueOf` — numerals are read back from the number that they spell.
* `Decimal.below?_eq_some` — numerals that spell a number below the bound are read.
* `Decimal.length_natural_le_iff` — how long a numeral is.
-/

namespace Logbook.Decimal

/-! ### Single numerals -/

theorem digit?_digitChar : ∀ d < 10, digit? (digitChar d) = some d := by decide

theorem isDigit_digitChar : ∀ d < 10, isDigit (digitChar d) = true := by decide

theorem toNat_digitChar : ∀ d < 10, (digitChar d).toNat = 48 + d := by decide

theorem digitChar_eq : ∀ d < 10, Nat.digitChar d = digitChar d := by decide

/-- Numerals are bounded. -/
theorem isDigit_iff (c : Char) : isDigit c = true ↔ 48 ≤ c.toNat ∧ c.toNat ≤ 57 := by
  rw [isDigit, Bool.and_eq_true, decide_eq_true_iff, decide_eq_true_iff]
  exact Iff.rfl

theorem digit?_eq_some_iff {c : Char} {d : Nat} : digit? c = some d ↔ isDigit c = true ∧ c.toNat - 48 = d := by
  rw [digit?, isDigit, Bool.and_eq_true, decide_eq_true_iff, decide_eq_true_iff]
  split
  case isTrue h => rw [Option.some.injEq, and_iff_right h]
  case isFalse h => exact ⟨nofun, fun h' => absurd h'.1 h⟩

/-- A numeral is that of its value. -/
theorem digitChar_value {c : Char} (h : isDigit c = true) : digitChar (c.toNat - 48) = c := by
  have hle := ((isDigit_iff c).1 h).1
  rw [digitChar, Nat.add_sub_of_le hle, Char.ofNat_toNat]

/-! ### Fields of a fixed width -/

/-- A field is made of numerals. -/
theorem exists_of_mem_fixed {width n : Nat} {c : Char} (h : c ∈ fixed width n) : ∃ d < 10, c = digitChar d := by
  obtain ⟨d, hd, rfl⟩ := List.mem_map.1 h
  exact ⟨d, Positional.lt_of_mem_digits (by decide) hd, rfl⟩

theorem isDigit_of_mem_fixed {width n : Nat} {c : Char} (h : c ∈ fixed width n) : isDigit c = true := by
  obtain ⟨d, hd, rfl⟩ := exists_of_mem_fixed h
  exact isDigit_digitChar d hd

theorem length_fixed (width n : Nat) : (fixed width n).length = width := by
  rw [fixed, List.length_map, Positional.length_digits]

theorem fixed_succ (width n : Nat) : fixed (width + 1) n = fixed width (n / 10) ++ [digitChar (n % 10)] := by
  rw [fixed, Positional.digits_succ, List.map_append, fixed]
  rfl

theorem valueOf_append (l : List Char) (c : Char) : valueOf (l ++ [c]) = valueOf l * 10 + (c.toNat - 48) := by
  rw [valueOf, List.map_append, valueOf]
  exact Positional.value_concat 10 _ _

/-- A field spells the lowest digits of its number. -/
theorem valueOf_fixed (width n : Nat) : valueOf (fixed width n) = n % 10 ^ width := by
  induction width generalizing n with
  | zero => rw [Nat.pow_zero, Nat.mod_one]; rfl
  | succ width ih =>
    have hdigit := toNat_digitChar (n % 10) (Nat.mod_lt n (by decide))
    rw [fixed_succ, valueOf_append, ih, hdigit, Nat.add_sub_cancel_left, Nat.pow_succ', Nat.mod_mul,
      Nat.mul_comm, Nat.add_comm]

section Numerals

variable {cs : List Char} (h : ∀ c ∈ cs, isDigit c = true)
include h

theorem value_lt_of_isDigit : ∀ d ∈ cs.map (fun c => c.toNat - 48), d < 10 := by
  intro d hd
  obtain ⟨c, hc, rfl⟩ := List.mem_map.1 hd
  have := (isDigit_iff c).1 (h c hc)
  omega

/-- Numerals are a field with what they spell. -/
theorem fixed_valueOf : fixed cs.length (valueOf cs) = cs := by
  have hdigits := Positional.digits_value (value_lt_of_isDigit h)
  rw [List.length_map] at hdigits
  rw [fixed, valueOf, hdigits, List.map_map]
  conv => rhs; rw [← List.map_id cs]
  exact List.map_congr_left fun c hc => digitChar_value (h c hc)

theorem valueOf_lt : valueOf cs < 10 ^ cs.length := by
  have hlt := Positional.value_lt (value_lt_of_isDigit h)
  rw [List.length_map] at hlt
  exact hlt

end Numerals

/-- More noughts make a number greater. -/
theorem valueOf_append_replicate (l : List Char) (k : Nat) :
    valueOf (l ++ List.replicate k '0') = valueOf l * 10 ^ k := by
  induction k with
  | zero => rw [List.replicate_zero, List.append_nil, Nat.pow_zero, Nat.mul_one]
  | succ k ih =>
    rw [List.replicate_succ', ← List.append_assoc, valueOf_append, ih, Nat.pow_succ, Nat.mul_assoc]
    rfl

/-! ### Bounded numbers -/

/-- Numerals are read behind those of `n`, as long as what they spell together stays below the bound. -/
theorem readBelow_eq_some {bound n : Nat} {cs : List Char} (h : ∀ c ∈ cs, isDigit c = true)
    (hlt : n * 10 ^ cs.length + valueOf cs < bound) :
    readBelow bound n cs = some (n * 10 ^ cs.length + valueOf cs) := by
  induction cs generalizing n with
  | nil =>
    have hn : n * 10 ^ 0 + 0 = n := by rw [Nat.pow_zero, Nat.mul_one, Nat.add_zero]
    rw [List.length_nil, valueOf, List.map_nil, Positional.value_nil, hn] at hlt ⊢
    exact if_pos hlt
  | cons c cs ih =>
    obtain ⟨hc, hcs⟩ := List.forall_mem_cons.1 h
    have hvalue : n * 10 ^ (c :: cs).length + valueOf (c :: cs) =
        (n * 10 + (c.toNat - 48)) * 10 ^ cs.length + valueOf cs := by
      rw [List.length_cons, valueOf, List.map_cons, Positional.value_cons, List.length_map, ← valueOf, Nat.pow_succ',
        Nat.add_mul, Nat.mul_assoc, Nat.add_assoc]
    rw [hvalue] at hlt ⊢
    -- the number only grows, so it is below the bound already
    have hsmall : n * 10 + (c.toNat - 48) < bound :=
      Nat.lt_of_le_of_lt (Nat.le_trans (Nat.le_mul_of_pos_right _ (Nat.pow_pos (by decide))) (Nat.le_add_right _ _)) hlt
    rw [readBelow, digit?_eq_some_iff.2 ⟨hc, rfl⟩]
    exact (if_pos hsmall).trans (ih hcs hlt)

/-- Numerals that spell a number below the bound are read. -/
theorem below?_eq_some {bound : Nat} {cs : List Char} (hne : cs ≠ []) (h : ∀ c ∈ cs, isDigit c = true)
    (hlt : valueOf cs < bound) : below? bound cs = some (valueOf cs) := by
  have hzero : 0 * 10 ^ cs.length + valueOf cs = valueOf cs := by rw [Nat.zero_mul, Nat.zero_add]
  have hread := readBelow_eq_some (n := 0) h (by rwa [hzero])
  rw [hzero] at hread
  rw [below?, if_neg (by rwa [List.isEmpty_iff]), hread]

/-! ### Numbers without leading noughts -/

theorem natural_of_lt {n : Nat} (h : n < 10) : natural n = [digitChar n] := by
  rw [natural, Nat.toDigits_of_lt_base h, digitChar_eq n h]

theorem natural_of_le {n : Nat} (h : 10 ≤ n) : natural n = natural (n / 10) ++ [digitChar (n % 10)] := by
  rw [natural, Nat.toDigits_of_base_le (by decide) h, digitChar_eq _ (Nat.mod_lt n (by decide)), natural]

theorem natural_ne_nil (n : Nat) : natural n ≠ [] := Nat.toDigits_ne_nil

theorem exists_of_mem_natural {n : Nat} {c : Char} (h : c ∈ natural n) : ∃ d < 10, c = digitChar d := by
  by_cases hlt : n < 10
  · rw [natural_of_lt hlt, List.mem_singleton] at h
    exact ⟨n, hlt, h⟩
  · rw [natural_of_le (Nat.not_lt.1 hlt), List.mem_append, List.mem_singleton] at h
    rcases h with h | h
    · exact exists_of_mem_natural h
    · exact ⟨n % 10, Nat.mod_lt n (by decide), h⟩
  termination_by n
  decreasing_by omega

/-- A number is read back from its numeral. -/
theorem valueOf_natural (n : Nat) : valueOf (natural n) = n := by
  by_cases hlt : n < 10
  · rw [natural_of_lt hlt]
    show 0 * 10 + ((digitChar n).toNat - 48) = n
    rw [toNat_digitChar n hlt]
    omega
  · have hdigit := toNat_digitChar (n % 10) (Nat.mod_lt n (by decide))
    rw [natural_of_le (Nat.not_lt.1 hlt), valueOf_append, valueOf_natural (n / 10), hdigit]
    omega
  termination_by n
  decreasing_by omega

/-- A number below the bound is read back. -/
theorem below?_natural {bound n : Nat} (h : n < bound) : below? bound (natural n) = some n := by
  have hread := below?_eq_some (natural_ne_nil n) (fun c hc => by
    obtain ⟨d, hd, rfl⟩ := exists_of_mem_natural hc
    exact isDigit_digitChar d hd) (by rwa [valueOf_natural])
  rwa [valueOf_natural] at hread

/-- Only the numeral of zero starts with a nought. -/
theorem head?_natural {n : Nat} (h : n ≠ 0) : (natural n).head? ≠ some '0' := by
  by_cases hlt : n < 10
  · rw [natural_of_lt hlt]
    intro heq
    have hchar := congrArg Char.toNat (Option.some.inj heq)
    rw [toNat_digitChar n hlt] at hchar
    exact h (Nat.add_left_cancel hchar)
  · have ih := head?_natural (n := n / 10) (by omega)
    rw [natural_of_le (Nat.not_lt.1 hlt), List.head?_append]
    cases hhead : (natural (n / 10)).head? with
    | none => exact absurd (List.head?_eq_none_iff.1 hhead) (natural_ne_nil _)
    | some c =>
      rw [hhead] at ih
      exact ih
  termination_by n
  decreasing_by omega

/-- A number below a power of ten has no more digits. -/
theorem length_natural_le_iff {n k : Nat} (h : 0 < k) : (natural n).length ≤ k ↔ n < 10 ^ k :=
  Nat.length_toDigits_le_iff (by decide) h

end Logbook.Decimal
