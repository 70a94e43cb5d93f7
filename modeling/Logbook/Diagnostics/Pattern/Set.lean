import Logbook.Diagnostics.Pattern.Piece

/-!
# Sets of characters in patterns

A set stands in brackets: characters, ranges of them, families, classes of ASCII by name, and sets again.
Two operands of a set may be joined by `&&`, `--` or `~~`.

## Main definitions

* `Pattern.readMember` — a character, a range or a family in a set.
* `Pattern.readSet` — a whole set: how deep it is nested, and what it demands.
-/

namespace Logbook.Pattern

/-! ### Members -/

/-- The first character behind blanks, and behind the sign that begins a comment. -/
def firstBehind (inComment : Bool) : List Char → Option Char
  | [] => none
  | c :: rest =>
    if Unicode.isBlank c then firstBehind inComment rest
    else if c = '#' && !inComment then firstBehind true rest
    else some c

/-- The character that decides what a hyphen means which stands before the text. -/
def peek (o : Options) (text : List Char) : Option Char :=
  if o.isSpaced then firstBehind false text else text.head?

/-- The piece that begins a text inside a set, and what follows it. -/
def readPiece (o : Options) : List Char → Option (Piece × List Char)
  | [] => none
  | '\\' :: rest => readEscape o rest
  | c :: rest => some (.literal c false, rest)

/-- A member of a set: what it demands, and what follows it.  A hyphen makes a range, unless it stands
before the end of the set or before another hyphen.  The ends of a range are characters in ascending
order. -/
def readMember (o : Options) (text : List Char) : Option (Demand × List Char) := do
  let (first, rest) ← readPiece o text
  match skip o rest with
  | [] => none
  | '-' :: behind =>
    if peek o behind = some ']' || peek o behind = some '-' then
      return (← first.demandInSet?, skip o rest)
    let (last, after) ← readPiece o (skip o behind)
    if (← first.literal?) ≤ (← last.literal?) then
      return ((← first.demandInSet?).and (← last.demandInSet?), after)
    else none
  | rest => return (← first.demandInSet?, rest)

/-! ### Classes of ASCII -/

/-- The names of the classes of ASCII. -/
def classNames : List String :=
  ["alnum", "alpha", "ascii", "blank", "cntrl", "digit", "graph", "lower", "print", "punct", "space",
   "upper", "word", "xdigit"]

/-- A class of ASCII behind its bracket: whether it is negated, and what follows it.  A text that does
not spell one in full may still be a set. -/
def readClass? : List Char → Option (Bool × List Char)
  | ':' :: text =>
    let (isNegated, text) := match text with
      | '^' :: rest => (true, rest)
      | rest => (false, rest)
    match text.dropWhile (· ≠ ':') with
    | ':' :: ']' :: rest =>
      if classNames.contains (String.ofList (text.takeWhile (· ≠ ':'))) then some (isNegated, rest)
      else none
    | _ => none
  | _ => none

/-! ### Sets -/

/-- A set that has been opened and not been closed yet. -/
structure Bracket where
  /-- How deep the operands before the last operator are nested, if there is one. -/
  left : Option Nat := none
  /-- The number of members behind the last operator. -/
  members : Nat := 0
  /-- How deep the deepest of them is nested. -/
  depth : Nat := 0
  deriving DecidableEq, Repr

namespace Bracket

/-- How deep the operands are nested, the last one included. -/
def operands (b : Bracket) : Nat :=
  let last := if b.members < 2 then b.depth else b.depth + 1
  match b.left with
  | none => last
  | some left => max left last + 1

/-- One more member. -/
def add (b : Bracket) (depth : Nat) : Bracket :=
  { b with members := b.members + 1, depth := max b.depth depth }

/-- An operator behind the operands. -/
def operator (b : Bracket) : Bracket := { left := some b.operands }

end Bracket

/-- What a negated set demands. -/
def negation (isNegated : Bool) : Demand := { rawBytes := isNegated }

/-- What a member demands that is one of a class of ASCII. -/
def classDemand (isNegated : Bool) : Demand := { otherCase := true, rawBytes := isNegated }

/-- The hyphens at the start of a set, which stand for themselves, and what follows them.  There are no more
of them than the fuel. -/
def readHyphens (o : Options) : Nat → Bracket → List Char → Bracket × List Char
  | fuel + 1, b, '-' :: rest => readHyphens o fuel (b.add 0) (skip o rest)
  | _, b, text => (b, text)

/-- A set behind its bracket up to where its members begin: a sign of negation, hyphens, and a closing
bracket that stands for itself where it comes first. -/
def openSet (o : Options) (fuel : Nat) (text : List Char) : Option (Bracket × Demand × List Char) :=
  let (isNegated, text) := match skip o text with
    | '^' :: rest => (true, skip o rest)
    | rest => (false, rest)
  let (b, text) := readHyphens o fuel {} text
  let (b, text) := match text with
    | ']' :: rest => if b.members = 0 then (b.add 0, skip o rest) else (b, text)
    | _ => (b, text)
  if text = [] then none
  else some (b, (negation isNegated).and { otherCase := b.members ≠ 0 }, text)

/-- Reads on in a set, with the sets around it.  The fuel bounds the number of steps, each of which takes
a character at least. -/
def readSetFrom (o : Options) : Nat → Bracket → List Bracket → Demand → List Char →
    Option (Nat × Demand × List Char)
  | 0, _, _, _, _ => none
  | fuel + 1, b, outer, demand, text =>
    match skip o text with
    | [] => none
    | '[' :: rest =>
      match readClass? rest with
      | some (isNegated, rest) =>
        readSetFrom o fuel (b.add 0) outer (demand.and (classDemand isNegated)) rest
      | none => do
        let (inner, more, rest) ← openSet o fuel rest
        readSetFrom o fuel inner (b :: outer) (demand.and more) rest
    | ']' :: rest =>
      let depth := b.operands + 1
      match outer with
      | [] => some (depth, demand, rest)
      | around :: outer => readSetFrom o fuel (around.add depth) outer demand rest
    | '&' :: '&' :: rest => readSetFrom o fuel b.operator outer demand rest
    | '-' :: '-' :: rest => readSetFrom o fuel b.operator outer demand rest
    | '~' :: '~' :: rest => readSetFrom o fuel b.operator outer demand rest
    | rest => do
      let (more, rest) ← readMember o rest
      readSetFrom o fuel (b.add 0) outer (demand.and more) rest

/-- A set behind its bracket: how deep it is nested, what it demands, and what follows it.  A fuel that is
greater than the length of the text is enough. -/
def readSet (o : Options) (fuel : Nat) (text : List Char) : Option (Nat × Demand × List Char) := do
  let (b, demand, rest) ← openSet o fuel text
  readSetFrom o fuel b [] demand rest

end Logbook.Pattern
