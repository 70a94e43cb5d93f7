import Logbook.Json.Reading
import Logbook.SortedMap

/-!
# Records in documents

How values of the program are found in documents.  A record is an object with its fields in any order,
among which others are ignored, or an array of its fields in their order.  A field that may be absent
may also be `null`.

## Main definitions

* `Json.text?`, `Json.word?`, `Json.flag?`, `Json.list?`, `Json.map?` — simple values.
* `Json.choice?` — a value out of a few that have names.
* `Json.Fields` — the fields of a record, with `required`, `optional` and `orElse` to read them.
-/

namespace Logbook.Json

/-! ### Simple values -/

/-- The text of a string. -/
def text? : Json → Option String
  | .string text => some text
  | _ => none

/-- The truth value. -/
def flag? : Json → Option Bool
  | .bool b => some b
  | _ => none

/-- The number of values that a word of 64 bits has. -/
def wordBound : Nat := 18446744073709551616

/-- The number that is spelt as an integer and fits into 64 bits. -/
def word? : Json → Option UInt64
  | .number spelling => (Decimal.below? wordBound spelling).map UInt64.ofNat
  | _ => none

/-- The items of an array, each read by `item?`. -/
def list? (item? : Json → Option α) : Json → Option (List α)
  | .array items => items.mapM item?
  | _ => none

/-- The members of an object, each read by `value?`; a later member replaces an earlier one of the same
name. -/
def map? (value? : Json → Option α) : Json → Option (SortedMap String α)
  | .object members => do
    let entries ← members.mapM fun m => do
      let name ← m.1
      let value ← value? m.2
      return (name, value)
    return .ofEntries entries
  | _ => none

/-- The value whose name the string is; an object with that name for its one member, which is `null`,
means the same. -/
def choice? (named? : String → Option α) : Json → Option α
  | .string name => named? name
  | .object [(some name, .null)] => named? name
  | _ => none

/-- The value that may be `null`. -/
def nullable? (value? : Json → Option α) : Json → Option (Option α)
  | .null => some none
  | j => some <$> value? j

/-! ### Records -/

/-- The fields of a record that are present. -/
structure Fields where
  /-- The names and values of the fields. -/
  present : List (String × Json)
  /-- Whether the fields were given by their position and not by name. -/
  positional : Bool

namespace Fields

/-- Adds the members of an object.  Unknown names are ignored, known ones must not be repeated. -/
def addMembers (names : List String) (present : List (String × Json)) :
    List (Option String × Json) → Option (List (String × Json))
  | [] => some present
  | (none, _) :: _ => none
  | (some name, value) :: rest =>
    if name ∉ names then addMembers names present rest
    else if (present.lookup name).isSome then none
    else addMembers names ((name, value) :: present) rest

/-- The fields of a record whose field names are `names`, in this order. -/
def of? (names : List String) : Json → Option Fields
  | .object members => (fun present => ⟨present, false⟩) <$> addMembers names [] members
  | .array items =>
    if items.length ≤ names.length then some ⟨names.zip items, true⟩ else none
  | _ => none

/-- The value of a field, if it is present. -/
def find? (f : Fields) (name : String) : Option Json := f.present.lookup name

/-- A field that has to be present. -/
def required (f : Fields) (name : String) (value? : Json → Option α) : Option α :=
  f.find? name >>= value?

/-- A field that may be `null`.  It may be absent too, but not from an array. -/
def optional (f : Fields) (name : String) (value? : Json → Option α) : Option (Option α) :=
  match f.find? name with
  | some j => nullable? value? j
  | none => if f.positional then none else some none

/-- A field that has a value where it is absent. -/
def orElse (f : Fields) (name : String) (default : α) (value? : Json → Option α) : Option α :=
  match f.find? name with
  | some j => value? j
  | none => some default

end Fields

end Logbook.Json
