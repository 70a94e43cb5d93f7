import Logbook.Unicode.CaseIgnorable
import Logbook.Unicode.Cased
import Logbook.Unicode.LowerMapping

/-!
# Lower case

Full lower-casing of text without regard to a language.  Two characters need more than the table of
single mappings: U+0130 becomes two characters, and a capital sigma at the end of a word becomes the
final form of the small letter.

## Main definitions

* `LowerCase.lowerChar` — the lower-case form of a character out of context.
* `LowerCase.isFinal` — whether a capital sigma ends a word.
* `LowerCase.lower` — the lower-case form of a text.
-/

namespace Logbook.LowerCase

/-- The capital sigma. -/
def capitalSigma : Char := 'Σ'

/-- The lower-case form of a character, whatever stands around it. -/
def lowerChar (c : Char) : List Char :=
  if c.toNat < 0x80 then [c.toLower]
  else if c = 'İ' then ['i', '\u0307']
  else match Unicode.lowerMapping? c.toNat with
    | some n => [Char.ofNat n]
    | none => [c]

/-- Whether the first character that case rules do not skip is a letter with case. -/
def meetsCased : List Char → Bool
  | [] => false
  | c :: rest => if Unicode.isCaseIgnorable c then meetsCased rest else Unicode.isCased c

/-- Whether a capital sigma ends a word: a cased letter comes before it and none after it.  The
characters before it stand nearest first. -/
def isFinal (before after : List Char) : Bool := meetsCased before && !meetsCased after

/-- The lower-case form of the characters that follow `before`, which stands nearest first. -/
def lowerFrom (before : List Char) : List Char → List Char
  | [] => []
  | c :: rest =>
    if c = capitalSigma then
      (if isFinal before rest then 'ς' else 'σ') :: lowerFrom (c :: before) rest
    else lowerChar c ++ lowerFrom (c :: before) rest

/-- The lower-case form of a text. -/
def lower (text : List Char) : List Char := lowerFrom [] text

@[simp] theorem lower_nil : lower [] = [] := rfl

end Logbook.LowerCase
