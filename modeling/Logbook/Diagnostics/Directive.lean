import Logbook.Diagnostics.Pattern
import Logbook.Text.Decimal
import Logbook.Text.Utf8

/-!
# Directives

How much is said about a part of the program is set by a directive: `info` for all of it, `disk=warn` for
one target, or the bare name of a target for everything about it.  Behind the target may stand a span in
brackets, with fields in braces, and behind the name of a field a value or a pattern for it.

## Main definitions

* `Directive.isLevel` — the names of levels.
* `Directive.isField` — the texts that are fields.
* `Directive.isValid` — the texts that are directives.
* `Directive.areValid` — the lists of directives, separated by commas.
-/

namespace Logbook.Directive

/-! ### Levels -/

/-- The names of levels; the numbers from 0 to 5 stand for them in this order. -/
def levelNames : List String := ["off", "error", "warn", "info", "debug", "trace"]

/-- Whether a text spells the number of a level, perhaps with a plus sign. -/
def isLevelNumber (text : List Char) : Bool :=
  match text with
  | '+' :: digits => (Decimal.below? levelNames.length digits).isSome
  | digits => (Decimal.below? levelNames.length digits).isSome

/-- Whether a text is the name of a level, in either case, or its number; no text at all is one too. -/
def isLevel (text : List Char) : Bool :=
  text = [] || levelNames.contains (String.ofList (text.map Char.toLower)) || isLevelNumber text

/-! ### Fields -/

/-- Drops the numerals at the start of a text, and tells whether there were any. -/
def dropNumerals (text : List Char) : Bool × List Char :=
  (text.head?.any Decimal.isDigit, text.dropWhile Decimal.isDigit)

/-- A text without a sign at its start. -/
def withoutSign : List Char → List Char
  | '+' :: rest => rest
  | '-' :: rest => rest
  | text => text

/-- Whether a text is nothing or the exponent of a number. -/
def isExponent : List Char → Bool
  | [] => true
  | c :: rest => (c = 'e' || c = 'E') && Decimal.isNumeral (withoutSign rest)

/-- Whether a text spells a number: a sign may stand before it, a point in it or at one of its ends, an
exponent behind it.  Infinity and what is no number have names, in either case. -/
def isNumber (text : List Char) : Bool :=
  let text := withoutSign text
  if ["inf", "infinity", "nan"].contains (String.ofList (text.map Char.toLower)) then true
  else
    let (whole, rest) := dropNumerals text
    match rest with
    | '.' :: rest =>
      let (broken, rest) := dropNumerals rest
      (whole || broken) && isExponent rest
    | rest => whole && isExponent rest

/-- The value that a field is held against: what stands between its first equals sign and the second. -/
def valueOf? (field : List Char) : Option (List Char) :=
  match field.dropWhile (· ≠ '=') with
  | [] => none
  | _ :: rest => some (rest.takeWhile (· ≠ '='))

/-- Whether a text is a field: a name, perhaps with a number or a pattern. -/
def isField (text : List Char) : Bool :=
  text ≠ [] && match valueOf? text with
    | none => true
    | some value => isNumber value || Pattern.isValid value

/-! ### Directives -/

/-- Where a reader stands in a directive. -/
inductive Place
  /-- Before it. -/
  | start
  /-- In a level or the name of a target. -/
  | word
  /-- In a span, behind its bracket. -/
  | span
  /-- In a field of a span, with the bytes of it so far, last first. -/
  | field (soFar : Bytes)
  /-- Behind the fields of a span. -/
  | fields
  /-- Behind a span. -/
  | target
  /-- In a level, with the bytes of it so far, last first. -/
  | level (soFar : Bytes)
  /-- Behind a comma, where nothing may follow. -/
  | done
  deriving DecidableEq, Repr

/-- Whether a target may begin with a character. -/
def mayBegin (c : Char) : Bool := c = '-' || c = ':' || c = '_' || Unicode.isAlphanumeric c

/-- Whether bytes are a text with a property. -/
def isText (property : List Char → Bool) (bytes : Bytes) : Bool :=
  match Utf8.decode? bytes with
  | some text => property text.toList
  | none => false

/-- Where a reader stands behind a character, to which `bytes` belong. -/
def Place.next (bytes : Bytes) (c : Char) : Place → Option Place
  | .start => if c = '[' then some .span else if mayBegin c then some .word else none
  | .word =>
    if c = '=' then some (.level [])
    else if c = '[' then some .span
    else if c = ',' then some .done
    else some .word
  | .span => if c = ']' then some .target else if c = '\x7b' then some (.field []) else some .span
  | .field soFar =>
    if c = '\x7d' then if isText isField soFar.reverse then some .fields else none
    else if c = ',' then if isText isField soFar.reverse then some (.field []) else none
    else some (.field (bytes.reverse ++ soFar))
  | .fields => if c = ']' then some .target else none
  | .target => if c = '=' then some (.level []) else none
  | .level soFar =>
    if c = ',' then if isText isLevel soFar.reverse then some .done else none
    else some (.level (bytes.reverse ++ soFar))
  | .done => none

/-- Whether a directive may end at a place, with `bytes` left. -/
def Place.mayEnd (bytes : Bytes) : Place → Bool
  | .word | .target | .done => true
  | .level soFar => isText isLevel (soFar.reverse ++ bytes)
  | .start | .span | .field _ | .fields => false

/-- Reads on from a place.  To each character belong as many of the bytes as it takes. -/
def scan (bytes : Bytes) (place : Place) : List Char → Bool
  | [] => place.mayEnd bytes
  | c :: rest => match place.next (bytes.take c.utf8Size) c with
    | some place => scan (bytes.drop c.utf8Size) place rest
    | none => false

/-- Whether a text is a directive.  Blanks around it are passed over, but levels and fields are cut out of
the bytes of the whole text, at the places where they would stand without the blanks. -/
def isValid (text : String) : Bool :=
  scan (Utf8.encode text) .start (Unicode.trim text.toList)

/-- Whether a text is a list of directives, of which some may be empty. -/
def areValid (text : String) : Bool :=
  (text.splitOn ",").all fun directive => directive = "" || isValid directive

end Logbook.Directive
