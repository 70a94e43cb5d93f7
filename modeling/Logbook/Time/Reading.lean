import Logbook.Text.Decimal
import Logbook.Time.Instant
import Logbook.Unicode.Blank

/-!
# Reading timestamps

Two readers of RFC 3339 timestamps.  Packets are read strictly, as the standard writes them.  Documents
are read loosely: numbers may lack leading zeros and blanks may stand around them, as people write
them.

## Main definitions

* `Stamp.Fault` — the ways in which a text is no timestamp.
* `Stamp.read` — the strict reader.
* `Stamp.readLoosely` — the loose reader.
-/

namespace Logbook.Stamp

/-- Why a text is no timestamp. -/
inductive Fault
  /-- The text ends too soon. -/
  | tooShort
  /-- A character stands where another is required. -/
  | invalid
  /-- A number is out of its range, or the date does not exist. -/
  | outOfRange
  /-- Something follows the timestamp. -/
  | trailing
  deriving DecidableEq, Repr

/-- The wording of a fault. -/
def Fault.message : Fault → String
  | .tooShort => "premature end of input"
  | .invalid => "input contains invalid characters"
  | .outOfRange => "input is out of range"
  | .trailing => "trailing input"

/-- A reader takes a start of the text off and leaves the rest. -/
abbrev Reader := StateT (List Char) (Except Fault)

/-! ### Pieces -/

/-- Reads one of the characters that satisfy `p`. -/
def oneOf (p : Char → Bool) : Reader Unit := do
  match ← get with
  | [] => throw .tooShort
  | c :: rest => if p c then set rest else throw .invalid

/-- Reads the character `c`. -/
def literal (c : Char) : Reader Unit := oneOf (· == c)

/-- Reads a number of exactly `width` digits. -/
def fixed : (width : Nat) → (value : Nat) → Reader Nat
  | 0, value => return value
  | width + 1, value => do
    match ← get with
    | [] => throw .tooShort
    | c :: rest =>
      match Decimal.digit? c with
      | some d => set rest; fixed width (value * 10 + d)
      | none => throw .invalid

/-- Reads the digits behind a point: the first nine count, further ones are passed over. -/
def nanosAfterPoint : Reader Nat := do
  let text ← get
  let digits := text.takeWhile Decimal.isDigit
  match digits, text with
  | [], [] => throw .tooShort
  | [], _ :: _ => throw .invalid
  | _ :: _, _ =>
    set (text.dropWhile Decimal.isDigit)
    let counted := digits.take 9
    return Decimal.valueOf (counted ++ List.replicate (9 - counted.length) '0')

/-- Reads the fraction of a second, which may be missing. -/
def fraction : Reader Nat := do
  match ← get with
  | '.' :: rest => set rest; nanosAfterPoint
  | _ => return 0

/-- Reads the minutes of an offset.  Two digits that are no minutes are out of range. -/
def offsetMinutes : Reader Nat := do
  match ← get with
  | a :: b :: rest =>
    match Decimal.digit? a, Decimal.digit? b with
    | some x, some y => if x < 6 then set rest; return x * 10 + y else throw .outOfRange
    | _, _ => throw .invalid
  | _ => throw .tooShort

/-- Reads the two digits of the hours of an offset. -/
def offsetHours : Reader Nat := do
  match ← get with
  | a :: b :: rest =>
    match Decimal.digit? a, Decimal.digit? b with
    | some x, some y => set rest; return x * 10 + y
    | _, _ => throw .invalid
  | _ => throw .tooShort

/-- Reads hours, whatever `separator` takes, and minutes. -/
def offsetSize (separator : Reader Unit) : Reader Nat := do
  let hours ← offsetHours
  separator
  let minutes ← offsetMinutes
  return hours * 3600 + minutes * 60

/-! ### Putting the pieces together -/

/-- The stamp of a clock that shows `clock` seconds since the start of 1970. -/
def ofClock (clock : Int) (nanos : Nat) (offset : Int) : Except Fault Stamp :=
  if h : offset.natAbs < secondsPerDay then
    match Instant.ofParts? (clock - offset) nanos with
    | some instant => .ok ⟨instant, offset, h⟩
    | none => .error .outOfRange
  else .error .outOfRange

/-- The stamp of a date, a time of day and an offset.  Second 60 is a leap second after second 59. -/
def assemble (date : Date) (hour minute second nanos : Nat) (offset : Int) : Except Fault Stamp :=
  let minutes := date.toDays * secondsPerDay + hour * 3600 + minute * 60
  if second = 60 then ofClock (minutes + 59) (nanos + nanosPerSecond) offset
  else ofClock (minutes + second) nanos offset

/-! ### The strict reader -/

/-- Reads an offset: `Z`, or a sign with hours, a colon and minutes. -/
def strictOffset : Reader Int := do
  match ← get with
  | 'Z' :: rest | 'z' :: rest => set rest; return 0
  | '+' :: rest => set rest; return (← offsetSize (literal ':'))
  | '-' :: rest => set rest; return -(← offsetSize (literal ':'))
  | [] => throw .tooShort
  | _ :: _ => throw .invalid

/-- Reads a date and a time of day with its offset. -/
def strict : Reader Stamp := do
  if (← get).length < 19 then throw .tooShort
  let year ← fixed 4 0
  literal '-'
  let month ← fixed 2 0
  literal '-'
  let day ← fixed 2 0
  let date : Date := ⟨year, month, day⟩
  if ¬ date.Exists then throw .outOfRange
  oneOf fun c => c == 'T' || c == 't' || c == ' '
  let hour ← fixed 2 0
  literal ':'
  let minute ← fixed 2 0
  literal ':'
  let second ← fixed 2 0
  let nanos ← fraction
  if 23 < hour ∨ 59 < minute ∨ 60 < second then throw .outOfRange
  let offset ← strictOffset
  if ¬ (← get).isEmpty then throw .trailing
  assemble date hour minute second nanos offset

/-- The stamp that a text is in the form of the standard. -/
def read (text : List Char) : Except Fault Stamp := (·.1) <$> strict.run text

/-! ### The loose reader -/

/-- Passes over blanks. -/
def blanks : Reader Unit := modify (·.dropWhile Unicode.isBlank)

/-- The numbers that the loose reader takes in are below this. -/
def numberBound : Nat := 9223372036854775808

/-- Reads a number of one digit or more, at most `most` where a bound is given. -/
def number (most : Option Nat) : Reader Nat := do
  let text ← get
  let run := text.takeWhile Decimal.isDigit
  let digits := match most with
    | some n => run.take n
    | none => run
  match digits, text with
  | [], [] => throw .tooShort
  | [], _ :: _ => throw .invalid
  | _ :: _, _ =>
    match Decimal.below? numberBound digits with
    | none => throw .outOfRange
    | some value =>
      set (text.drop digits.length)
      return value

/-- Reads a number of at most two digits after blanks, and passes over the blanks behind it. -/
def loosePair : Reader Nat := do
  blanks
  let value ← number (some 2)
  blanks
  return value

/-- Reads a year: at most four digits, or any number of them behind a sign. -/
def looseYear : Reader Int := do
  blanks
  match ← get with
  | '-' :: rest => set rest; return -(← number none)
  | '+' :: rest => set rest; return (← number none)
  | _ => return (← number (some 4))

/-- Passes over colons and blanks. -/
def colonsAndBlanks : Reader Unit := modify (·.dropWhile fun c => c == ':' || Unicode.isBlank c)

/-- Reads an offset: `UTC`, `Z`, or a sign, the true minus sign among them, with hours and minutes. -/
def looseOffset : Reader Int := do
  match ← get with
  | a :: b :: c :: rest =>
    if a.toLower = 'u' ∧ b.toLower = 't' ∧ c.toLower = 'c' then set rest; return 0
    else signed
  | _ => signed
where
  signed : Reader Int := do
    match ← get with
    | 'Z' :: rest | 'z' :: rest => set rest; return 0
    | '+' :: rest => set rest; return (← offsetSize colonsAndBlanks)
    | '-' :: rest | '\u2212' :: rest => set rest; return -(← offsetSize colonsAndBlanks)
    | [] => throw .tooShort
    | _ :: _ => throw .invalid

/-- The least and the greatest year of a date. -/
def leastYear : Int := -262143

/-- The greatest year of a date. -/
def greatestYear : Int := 262142

/-- Whether a count of seconds falls into the years from the least to the greatest. -/
def inYears (seconds : Int) : Bool :=
  Date.daysBeforeYear leastYear * secondsPerDay ≤ seconds &&
    seconds < Date.daysBeforeYear (greatestYear + 1) * secondsPerDay

/-- Reads a date and a time of day with its offset, in any of the loose forms. -/
def loose : Reader Stamp := do
  let year ← looseYear
  blanks
  literal '-'
  let month ← loosePair
  literal '-'
  blanks
  let day ← number (some 2)
  oneOf fun c => c == 'T' || c == 't' || c == ' '
  let hour ← loosePair
  literal ':'
  let minute ← loosePair
  literal ':'
  blanks
  let second ← number (some 2)
  let nanos ← fraction
  blanks
  let offset ← looseOffset
  blanks
  if ¬ (← get).isEmpty then throw .trailing
  let date : Date := ⟨year, month, day⟩
  if ¬ date.Exists ∨ year < leastYear ∨ greatestYear < year then throw .outOfRange
  if 23 < hour ∨ 59 < minute ∨ 60 < second then throw .outOfRange
  let stamp ← assemble date hour minute second nanos offset
  if ¬ inYears stamp.instant.seconds then throw .outOfRange
  return stamp

/-- The stamp that a text is in a loose form. -/
def readLoosely (text : String) : Except Fault Stamp := (·.1) <$> loose.run text.toList

end Logbook.Stamp
