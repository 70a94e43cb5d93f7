/-!
# Ranges of code points

A Unicode property is held as the list of the ranges of code points that have it, both ends included,
in ascending order.

## Main definitions

* `Unicode.inRanges` — membership of a code point.
-/

namespace Logbook.Unicode

/-- Whether `n` lies in one of the ranges, which stand in ascending order. -/
def inRanges (n : Nat) : List (Nat × Nat) → Bool
  | [] => false
  | (first, last) :: rest => first ≤ n && (n ≤ last || inRanges n rest)

@[simp] theorem inRanges_nil (n : Nat) : inRanges n [] = false := rfl

@[simp] theorem inRanges_cons (n first last : Nat) (rest : List (Nat × Nat)) :
    inRanges n ((first, last) :: rest) = (first ≤ n && (n ≤ last || inRanges n rest)) := rfl

end Logbook.Unicode
