import Logbook.Text.Hexadecimal
import Logbook.Unicode.Blank

/-!
# Pieces of patterns

A pattern is a regular expression for the values of a field.  Its smallest pieces are characters, which
stand for themselves or are spelled by an escape, edges of texts and words, and families of characters.

Not every piece can be used at every place.  There are no tables of Unicode to tell which characters
belong to a family or are the other case of a letter, and what a pattern matches has to be text, so a
pattern that has turned from Unicode to single bytes must keep to ASCII.  What a piece demands is held
against the options that are in force where it stands.

## Main definitions

* `Pattern.Options` — the options that matter to which patterns can be used.
* `Pattern.Demand`, `Pattern.Demand.isMet` — what a piece demands.
* `Pattern.skip` — a text without the blanks and comments at its start, where these do not count.
* `Pattern.Piece`, `Pattern.readEscape` — the pieces, and how a backslash begins one.
-/

namespace Logbook.Pattern

/-- Options that are switched on and off inside a pattern. -/
structure Options where
  /-- Whether a letter stands for both of its cases. -/
  ignoresCase : Bool := false
  /-- Whether a pattern speaks of characters, and not of bytes. -/
  isUnicode : Bool := true
  /-- Whether blanks do not count and comments may stand between the pieces. -/
  isSpaced : Bool := false
  deriving DecidableEq, Repr

/-! ### Demands -/

/-- What a piece of a pattern demands. -/
structure Demand where
  /-- The other case of a character, where cases are ignored. -/
  otherCase : Bool := false
  /-- The tables of Unicode, where a pattern speaks of characters. -/
  tables : Bool := false
  /-- Bytes that are no ASCII characters, where a pattern speaks of bytes. -/
  rawBytes : Bool := false
  deriving DecidableEq, Repr

namespace Demand

/-- What two pieces demand together. -/
def and (a b : Demand) : Demand where
  otherCase := a.otherCase || b.otherCase
  tables := a.tables || b.tables
  rawBytes := a.rawBytes || b.rawBytes

/-- Whether a demand can be met under options. -/
def isMet (d : Demand) (o : Options) : Bool :=
  if o.isUnicode then !d.tables && !(d.otherCase && o.ignoresCase) else !d.rawBytes

end Demand

/-! ### Blanks -/

/-- A text without the blanks and comments at its start, which may lie inside a comment. -/
def skipBlanks (inComment : Bool) : List Char → List Char
  | [] => []
  | c :: rest =>
    if inComment then skipBlanks (c ≠ '\n') rest
    else if Unicode.isBlank c then skipBlanks false rest
    else if c = '#' then skipBlanks true rest
    else c :: rest

/-- A text without the blanks and comments at its start, where these do not count. -/
def skip (o : Options) (text : List Char) : List Char :=
  if o.isSpaced then skipBlanks false text else text

/-! ### Pieces -/

/-- A piece of a pattern. -/
inductive Piece
  /-- A character; whether it is spelled as a byte. -/
  | literal (c : Char) (isByte : Bool)
  /-- An edge of a line or of the text, or of a word. -/
  | edge (isOfWord : Bool)
  /-- Digits, blanks or characters of words, or all other characters. -/
  | family (isNegated : Bool)
  deriving DecidableEq, Repr

namespace Piece

/-- What a piece demands that stands for itself. -/
def demand : Piece → Demand
  | .literal c isByte => { otherCase := true, rawBytes := isByte && '\x7f' < c }
  | .edge isOfWord => { tables := isOfWord }
  | .family isNegated => { tables := true, rawBytes := isNegated }

/-- What a piece demands in a set, if it may stand there. -/
def demandInSet? : Piece → Option Demand
  | .literal c _ => some { otherCase := true, rawBytes := '\x7f' < c }
  | .edge _ => none
  | .family isNegated => some { tables := true, rawBytes := isNegated }

/-- The character that a piece is. -/
def literal? : Piece → Option Char
  | .literal c _ => some c
  | _ => none

end Piece

/-! ### Escapes -/

/-- The number that `n` hexadecimal digits spell behind `value`, and what follows them. -/
def readHex (o : Options) : Nat → Nat → List Char → Option (Nat × List Char)
  | 0, value, text => some (value, text)
  | n + 1, value, text =>
    match skip o text with
    | [] => none
    | c :: rest => do readHex o n (16 * value + (← Hexadecimal.digit? c)) rest

/-- The character with a code point, unless the code point belongs to none. -/
def charOf? (n : Nat) : Option Char := if n.isValidChar then some (Char.ofNat n) else none

/-- The control characters that a letter spells behind a backslash. -/
def controls : List (Char × Char) :=
  [('a', '\x07'), ('f', '\x0c'), ('t', '\t'), ('n', '\n'), ('r', '\r'), ('v', '\x0b')]

/-- The piece that a character spells behind a backslash.  Of the ASCII characters all others than
letters, digits and angle brackets spell themselves. -/
def escaped? (c : Char) : Option Piece :=
  if ['d', 's', 'w'].contains c then some (.family false)
  else if ['D', 'S', 'W'].contains c then some (.family true)
  else if ['A', 'z'].contains c then some (.edge false)
  else if ['b', 'B', '<', '>'].contains c then some (.edge true)
  else match controls.lookup c with
    | some control => some (.literal control false)
    | none => if '\x7f' < c || c.isAlphanum then none else some (.literal c false)

/-- The piece that begins behind a backslash, and what follows it.  A character may be spelled by two,
four or eight hexadecimal digits; two of them spell a byte. -/
def readEscape (o : Options) : List Char → Option (Piece × List Char)
  | [] => none
  | c :: rest =>
    let spelled (digits : Nat) : Option (Piece × List Char) := do
      let (n, rest) ← readHex o digits 0 rest
      return (.literal (← charOf? n) (digits = 2), rest)
    if c = 'x' then spelled 2
    else if c = 'u' then spelled 4
    else if c = 'U' then spelled 8
    else (·, rest) <$> escaped? c

end Logbook.Pattern
