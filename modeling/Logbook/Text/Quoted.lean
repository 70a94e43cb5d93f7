import Logbook.Unicode.GraphemeExtend
import Logbook.Unicode.Unprintable

/-!
# Quoted text

How messages show a text that may hold anything: between quotes, with escapes for quotes, backslashes
and whatever would not be seen.

## Main definitions

* `Quoted.escape` — the form of one character.
* `Quoted.string`, `Quoted.char` — a text between double quotes, a character between single ones.
-/

namespace Logbook.Quoted

/-- `\u` and the code point in hexadecimal between braces. -/
def codePoint (c : Char) : List Char :=
  '\\' :: 'u' :: '\x7b' :: Nat.toDigits 16 c.toNat ++ ['\x7d']

/-- Whether a character would be drawn over the one before it.  The halfwidth voicing marks extend the
character before them too, but have a place of their own. -/
def isDrawnOver (c : Char) : Bool := Unicode.isGraphemeExtend c && !(c = '\uff9e' || c = '\uff9f')

/-- The form of a character between the given quotes. -/
def escape (quote c : Char) : List Char :=
  if c = '\x00' then ['\\', '0']
  else if c = '\t' then ['\\', 't']
  else if c = '\r' then ['\\', 'r']
  else if c = '\n' then ['\\', 'n']
  else if c = quote ∨ c = '\\' then ['\\', c]
  else if ' ' ≤ c ∧ c ≤ '~' then [c]
  else if isDrawnOver c ∨ Unicode.isUnprintable c then codePoint c
  else [c]

/-- A text between double quotes. -/
def string (text : String) : String :=
  String.ofList ('"' :: text.toList.flatMap (escape '"') ++ ['"'])

/-- A character between single quotes. -/
def char (c : Char) : String := String.ofList ('\'' :: escape '\'' c ++ ['\''])

end Logbook.Quoted
