import Logbook.Error
import Logbook.Time.Instant

/-!
# Minting identifiers

A generator mints identifiers in ascending order, whatever its clock does.  While the clock does not
advance, the entropy of the last identifier is counted up; when it is used up, the next millisecond is
taken from the future.

## Main definitions

* `Draw` — what the world supplies for one identifier: the time and fresh entropy, or its failure.
* `Generator.next` — the next identifier and the generator behind it.
* `Supply` — an endless run of draws, with the number of those used up.
-/

namespace Logbook

/-- Eighty random bits, or why there are none. -/
abbrev Entropy := Except String (Fin entropyBound)

/-- What the world supplies for an identifier. -/
structure Draw where
  /-- The reading of the clock. -/
  now : Instant
  /-- Fresh entropy. -/
  entropy : Entropy

/-- A source of ascending identifiers. -/
structure Generator where
  /-- The milliseconds and the entropy of the last identifier. -/
  last : Option (Nat × Fin entropyBound)
  deriving DecidableEq

namespace Generator

/-- A generator that has not minted yet. -/
def new : Generator := ⟨none⟩

/-- The greatest count of milliseconds. -/
def greatestMillis : Nat := 18446744073709551615

/-- The identifier of some milliseconds and of fresh entropy. -/
def fresh (g : Generator) (millis : Nat) : Entropy → Except EventError EventId × Generator
  | .ok e => (.ok (.ofParts millis e), ⟨some (millis, e)⟩)
  | .error reason => (.error (.entropy reason), g)

/-- Mints an identifier when the clock shows `now` milliseconds.  Where entropy fails, the generator
stays as it was. -/
def next (g : Generator) (now : Nat) (entropy : Entropy) : Except EventError EventId × Generator :=
  match g.last with
  | none => g.fresh now entropy
  | some (millis, e) =>
    if now ≤ millis then
      if h : e.val + 1 < entropyBound then
        (.ok (.ofParts millis (e.val + 1)), ⟨some (millis, ⟨e.val + 1, h⟩)⟩)
      else g.fresh (min (millis + 1) greatestMillis) entropy
    else g.fresh now entropy

end Generator

/-- An endless run of draws. -/
structure Supply where
  /-- The draws, from the first one on. -/
  draws : Nat → Draw
  /-- The number of draws used up. -/
  used : Nat

namespace Supply

/-- The next draw. -/
def head (s : Supply) : Draw := s.draws s.used

/-- The draws behind the next one. -/
def tail (s : Supply) : Supply := { s with used := s.used + 1 }

end Supply

end Logbook
