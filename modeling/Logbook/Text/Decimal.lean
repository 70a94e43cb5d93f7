import Logbook.Positional

/-!
# Decimal numerals

## Main definitions

* `Decimal.natural` — a number without leading zeros.
* `Decimal.fixed` — the lowest digits of a number, as many as the field is wide.
* `Decimal.padded` — a number with leading zeros up to a least width.
* `Decimal.digit?`, `Decimal.below?` — the value of a digit, and of a numeral that is not too great.
-/

namespace Logbook.Decimal

/-- The numeral of a value below ten. -/
def digitChar (d : Nat) : Char := Char.ofNat (48 + d)

/-- The value of a numeral. -/
def digit? (c : Char) : Option Nat :=
  if '0' ≤ c ∧ c ≤ '9' then some (c.toNat - 48) else none

/-- Whether a character is a numeral. -/
def isDigit (c : Char) : Bool := '0' ≤ c && c ≤ '9'

/-- A number without leading zeros. -/
def natural (n : Nat) : List Char := Nat.toDigits 10 n

/-- The lowest `width` digits of a number. -/
def fixed (width n : Nat) : List Char := (Positional.digits 10 width n).map digitChar

/-- A number with as many leading zeros as it takes to reach the width. -/
def padded (width n : Nat) : List Char :=
  List.replicate (width - (natural n).length) '0' ++ natural n

/-- The number that a run of numerals spells. -/
def valueOf (ds : List Char) : Nat := Positional.value 10 (ds.map fun c => c.toNat - 48)

/-- Whether a text is one or more numerals. -/
def isNumeral (ds : List Char) : Bool := !ds.isEmpty && ds.all isDigit

/-- The number below `bound` that numerals spell behind those of `n`.  A number only grows as it is read, so
the reading ends as soon as it is too great, however many numerals follow. -/
def readBelow (bound n : Nat) : List Char → Option Nat
  | [] => if n < bound then some n else none
  | c :: rest => do
    let d ← digit? c
    if n * 10 + d < bound then readBelow bound (n * 10 + d) rest else none

/-- The number below `bound` that a text of one or more numerals spells. -/
def below? (bound : Nat) (ds : List Char) : Option Nat :=
  if ds.isEmpty then none else readBelow bound 0 ds

end Logbook.Decimal
