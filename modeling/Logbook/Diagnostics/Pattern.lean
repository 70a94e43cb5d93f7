import Logbook.Diagnostics.Pattern.Set
import Logbook.Unicode.Alphabetic

/-!
# Patterns

The regular expressions that the values of a field may be held against.  A pattern stands in the braces of
a directive, so it ends before the first closing brace, and an opening brace that does not stand for
itself is never completed: there are no counted repetitions.

## Main definitions

* `Pattern.Level` — a group that has been opened and not been closed yet.
* `Pattern.depth?` — how deep a pattern is nested, if it is one that can be used.
* `Pattern.isValid` — the texts that are patterns.
-/

namespace Logbook.Pattern

/-! ### Options -/

/-- The letters of the options. -/
def optionLetters : List Char := ['i', 'm', 's', 'U', 'u', 'R', 'x']

/-- The options with one switched.  The others say how a pattern matches, and not whether it can be
used. -/
def Options.switch (o : Options) (letter : Char) (on : Bool) : Options :=
  if letter = 'i' then { o with ignoresCase := on }
  else if letter = 'u' then { o with isUnicode := on }
  else if letter = 'x' then { o with isSpaced := on }
  else o

/-- What the options at the start of a group are for. -/
inductive Scope
  /-- The group that they stand in, from here on. -/
  | around
  /-- The group that they begin. -/
  | within
  deriving DecidableEq, Repr

/-- Options up to the sign that ends them: the options in force, what they are for, and what follows them.
Each letter stands once; those behind a hyphen are switched off.  `seen` holds what has been read, last
first. -/
def readOptions (o : Options) (seen : List Char) : List Char → Option (Options × Scope × List Char)
  | [] => none
  | c :: rest =>
    if c = ':' then if seen.head? = some '-' then none else some (o, .within, rest)
    else if c = ')' then
      if seen = [] || seen.head? = some '-' then none else some (o, .around, rest)
    else if seen.contains c then none
    else if c = '-' then readOptions o (c :: seen) rest
    else if optionLetters.contains c then
      readOptions (o.switch c !(seen.contains '-')) (c :: seen) rest
    else none

/-! ### Names of groups -/

/-- Whether a character may begin the name of a group. -/
def mayBeginName (c : Char) : Bool := c = '_' || Unicode.isAlphabetic c

/-- Whether a character may stand in the name of a group. -/
def mayStandInName (c : Char) : Bool :=
  ['_', '.', '[', ']'].contains c || Unicode.isAlphanumeric c

/-- The name of a group up to its closing bracket, and what follows it. -/
def readName (text : List Char) : Option (List Char × List Char) :=
  match text.takeWhile (· ≠ '>'), text.dropWhile (· ≠ '>') with
  | c :: name, '>' :: rest =>
    if mayBeginName c && name.all mayStandInName then some (c :: name, rest) else none
  | _, _ => none

/-! ### Groups -/

/-- A group that has been opened and not been closed yet. -/
structure Level where
  /-- The options in force around the group. -/
  around : Options
  /-- How deep the alternatives before the last one are nested. -/
  alternatives : List Nat := []
  /-- How deep the items of the last alternative are nested, last item first; options are an item that
  cannot be repeated. -/
  items : List (Option Nat) := []
  deriving DecidableEq, Repr

namespace Level

/-- How deep the last alternative is nested. -/
def alternative (l : Level) : Nat :=
  match l.items with
  | [] => 0
  | [item] => item.getD 0
  | items => items.foldl (fun depth item => max depth (item.getD 0)) 0 + 1

/-- How deep the group is nested inside. -/
def depth (l : Level) : Nat :=
  match l.alternatives with
  | [] => l.alternative
  | alternatives => alternatives.foldl max l.alternative + 1

/-- One more item. -/
def add (l : Level) (item : Option Nat) : Level := { l with items := item :: l.items }

/-- One more alternative. -/
def branch (l : Level) : Level :=
  { l with alternatives := l.alternative :: l.alternatives, items := [] }

/-- The last item repeated, if there is one that can be. -/
def repeat? (l : Level) : Option Level :=
  match l.items with
  | some depth :: items => some { l with items := some (depth + 1) :: items }
  | _ => none

end Level

/-- Where a reader stands in a pattern. -/
structure Place where
  /-- The options in force. -/
  options : Options := {}
  /-- The names of the groups so far. -/
  names : List (List Char) := []
  /-- The innermost group, or the whole pattern. -/
  level : Level := { around := {} }
  /-- The groups around it. -/
  outer : List Level := []
  deriving DecidableEq, Repr

namespace Place

/-- Behind one more item, if what it demands can be met. -/
def add (p : Place) (demand : Demand) (depth : Nat) : Option Place :=
  if demand.isMet p.options then some { p with level := p.level.add (some depth) } else none

/-- Inside a group that begins here. -/
def enter (p : Place) (options : Options) : Place :=
  { p with options, level := { around := p.options }, outer := p.level :: p.outer }

/-- Behind the bracket that begins a group or switches options, and what follows it. -/
def «open» (p : Place) (text : List Char) : Option (Place × List Char) :=
  let named (text : List Char) : Option (Place × List Char) := do
    let (name, rest) ← readName text
    if p.names.contains name then none
    else return ({ p with names := name :: p.names }.enter p.options, rest)
  match skip p.options text with
  | '?' :: 'P' :: '<' :: rest => named rest
  | '?' :: '<' :: rest => named rest
  | '?' :: rest => do
    match ← readOptions p.options [] rest with
    | (options, .around, rest) => return ({ p with options, level := p.level.add none }, rest)
    | (options, .within, rest) => return (p.enter options, rest)
  | rest => some (p.enter p.options, rest)

/-- Behind the bracket that ends a group. -/
def close (p : Place) : Option Place :=
  match p.outer with
  | [] => none
  | level :: outer =>
    some { p with
      options := p.level.around, level := level.add (some (p.level.depth + 1)), outer }

end Place

/-! ### Whole patterns -/

/-- A repetition may be followed by the sign that makes it match as little as possible. -/
def readLazy : List Char → List Char
  | '?' :: rest => rest
  | rest => rest

/-- Reads on from a place: how deep the whole pattern is nested.  The fuel bounds the number of steps, each
of which takes a character at least, so it stays greater than the length of the text. -/
def readFrom : Nat → Place → List Char → Option Nat
  | 0, _, _ => none
  | fuel + 1, p, text =>
    match skip p.options text with
    | [] => if p.outer = [] then some p.level.depth else none
    | '(' :: rest => do
      let (p, rest) ← p.open rest
      readFrom fuel p rest
    | ')' :: rest => do readFrom fuel (← p.close) rest
    | '|' :: rest => readFrom fuel { p with level := p.level.branch } rest
    | '[' :: rest => do
      let (depth, demand, rest) ← readSet p.options fuel rest
      readFrom fuel (← p.add demand depth) rest
    | '?' :: rest | '*' :: rest | '+' :: rest => do
      readFrom fuel { p with level := ← p.level.repeat? } (readLazy rest)
    | '\x7b' :: _ => none
    | '.' :: rest => do readFrom fuel (← p.add { rawBytes := true } 0) rest
    | '^' :: rest | '$' :: rest => do readFrom fuel (← p.add (Piece.edge false).demand 0) rest
    | '\\' :: rest => do
      let (piece, rest) ← readEscape p.options rest
      readFrom fuel (← p.add piece.demand 0) rest
    | c :: rest => do readFrom fuel (← p.add (Piece.literal c false).demand 0) rest

/-- How deep a pattern is nested, if it is one that can be used. -/
def depth? (text : List Char) : Option Nat := readFrom (text.length + 1) {} text

/-- How deep a pattern may be nested. -/
def greatestDepth : Nat := 250

/-- Whether a text is a pattern that can be used. -/
def isValid (text : List Char) : Bool :=
  match depth? text with
  | some depth => depth ≤ greatestDepth
  | none => false

end Logbook.Pattern
