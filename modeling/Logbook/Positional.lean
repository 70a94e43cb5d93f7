/-!
# Positional numerals of fixed width

A natural number below `base ^ width` is the same thing as a list of `width` digits below `base`,
most significant first.  Event identifiers use this twice: as 16 digits to base 256, their bytes, and
as 26 digits to base 32, their text.

## Main definitions

* `Positional.digits base width n` — the lowest `width` digits of `n`.
* `Positional.value base ds` — the number that the digits `ds` spell.
-/

namespace Logbook.Positional

/-- The lowest `width` digits of `n` to the given base, least significant first. -/
def digitsRev (base : Nat) : (width : Nat) → (n : Nat) → List Nat
  | 0, _ => []
  | width + 1, n => n % base :: digitsRev base width (n / base)

/-- The lowest `width` digits of `n` to the given base, most significant first. -/
def digits (base width n : Nat) : List Nat := (digitsRev base width n).reverse

/-- The number spelt by digits that stand most significant first. -/
def value (base : Nat) (ds : List Nat) : Nat := ds.foldl (fun n d => n * base + d) 0

@[simp] theorem digitsRev_zero (base n : Nat) : digitsRev base 0 n = [] := rfl

@[simp] theorem digitsRev_succ (base width n : Nat) :
    digitsRev base (width + 1) n = n % base :: digitsRev base width (n / base) := rfl

@[simp] theorem length_digitsRev (base width n : Nat) :
    (digitsRev base width n).length = width := by
  induction width generalizing n with
  | zero => rfl
  | succ width ih => simp [ih]

@[simp] theorem length_digits (base width n : Nat) : (digits base width n).length = width := by
  simp [digits]

/-- Every digit lies below the base. -/
theorem lt_of_mem_digits {base : Nat} (hb : 0 < base) {width n d : Nat}
    (h : d ∈ digits base width n) : d < base := by
  rw [digits, List.mem_reverse] at h
  induction width generalizing n with
  | zero => simp at h
  | succ width ih =>
    rw [digitsRev_succ, List.mem_cons] at h
    rcases h with rfl | h
    · exact Nat.mod_lt _ hb
    · exact ih h

end Logbook.Positional
