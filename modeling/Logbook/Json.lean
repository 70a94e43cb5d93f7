import Logbook.Bytes

/-!
# Documents

JSON values as they are read and written.  A number is kept as it is spelt, since only its spelling
tells an integer from other numbers; the members of an object are kept in order, repeated ones too.

## Main definitions

* `Json` — a value.
* `Json.write` — the text of a value, on one line or indented.
-/

namespace Logbook

/-- A JSON value. -/
inductive Json
  /-- The value `null`. -/
  | null
  /-- A truth value. -/
  | bool (b : Bool)
  /-- A number as it is spelt. -/
  | number (spelling : List Char)
  /-- A string. -/
  | string (text : String)
  /-- A string whose bytes and escapes are no text.  It may stand wherever a value is ignored. -/
  | garbled
  /-- An array. -/
  | array (items : List Json)
  /-- An object; a name that is no text is missing. -/
  | object (members : List (Option String × Json))

namespace Json

/-- The number of a natural number. -/
def ofNat (n : Nat) : Json := .number (Nat.toDigits 10 n)

/-- The value of a text that may be missing. -/
def ofOption (f : α → Json) : Option α → Json
  | none => .null
  | some a => f a

/-- The object of some members, all of whose names are texts. -/
def ofFields (fields : List (String × Json)) : Json :=
  .object (fields.map fun f => (some f.1, f.2))

/-! ### Strings -/

/-- The two hexadecimal digits of a number below 256. -/
def hexPair (n : Nat) : List Char := (Positional.digits 16 2 n).map Nat.digitChar

/-- The form of a character in a string. -/
def escape (c : Char) : List Char :=
  if c = '"' then ['\\', '"']
  else if c = '\\' then ['\\', '\\']
  else if c = '\x08' then ['\\', 'b']
  else if c = '\x0c' then ['\\', 'f']
  else if c = '\n' then ['\\', 'n']
  else if c = '\r' then ['\\', 'r']
  else if c = '\t' then ['\\', 't']
  else if c.toNat < 0x20 then ['\\', 'u', '0', '0'] ++ hexPair c.toNat
  else [c]

/-- A text between quotes. -/
def quoted (text : String) : List Char := '"' :: text.toList.flatMap escape ++ ['"']

/-- A string that is no text: half of a pair of code units. -/
def halfPair : List Char := "\"\\ud800\"".toList

/-- The name of a member between quotes. -/
def quotedName : Option String → List Char
  | some name => quoted name
  | none => halfPair

/-! ### Layout -/

/-- How values are laid out. -/
inductive Layout
  /-- On one line without blanks. -/
  | compact
  /-- Each item and member on a line of its own, two spaces deeper than what holds it. -/
  | indented
  deriving DecidableEq, Repr

namespace Layout

/-- What stands before an item at a depth. -/
def lineBreak : Layout → (depth : Nat) → List Char
  | .compact, _ => []
  | .indented, depth => '\n' :: List.replicate (2 * depth) ' '

/-- What stands between the name and the value of a member. -/
def colon : Layout → List Char
  | .compact => [':']
  | .indented => [':', ' ']

end Layout

mutual

/-- The characters of a value that stands at a depth. -/
def writeAt (layout : Layout) (depth : Nat) : Json → List Char
  | .null => "null".toList
  | .bool true => "true".toList
  | .bool false => "false".toList
  | .number spelling => spelling
  | .string text => quoted text
  | .garbled => halfPair
  | .array [] => ['[', ']']
  | .array (item :: rest) =>
    '[' :: layout.lineBreak (depth + 1) ++ writeAt layout (depth + 1) item ++
      writeItems layout (depth + 1) rest ++ layout.lineBreak depth ++ [']']
  | .object [] => ['\x7b', '\x7d']
  | .object ((name, value) :: rest) =>
    '\x7b' :: layout.lineBreak (depth + 1) ++ quotedName name ++ layout.colon ++
      writeAt layout (depth + 1) value ++ writeMembers layout (depth + 1) rest ++
      layout.lineBreak depth ++ ['\x7d']

/-- The characters of items that follow another one. -/
def writeItems (layout : Layout) (depth : Nat) : List Json → List Char
  | [] => []
  | item :: rest =>
    ',' :: layout.lineBreak depth ++ writeAt layout depth item ++ writeItems layout depth rest

/-- The characters of members that follow another one. -/
def writeMembers (layout : Layout) (depth : Nat) : List (Option String × Json) → List Char
  | [] => []
  | (name, value) :: rest =>
    ',' :: layout.lineBreak depth ++ quotedName name ++ layout.colon ++
      writeAt layout depth value ++ writeMembers layout depth rest

end

/-- The text of a value. -/
def write (layout : Layout) (j : Json) : String := String.ofList (writeAt layout 0 j)

/-- The text of a value on one line. -/
def compact (j : Json) : String := j.write .compact

end Json

end Logbook
