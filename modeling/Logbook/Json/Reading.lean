import Logbook.Json.Token

/-!
# Reading documents

## Main definitions

* `Json.ofTokens` — the value that a list of tokens spells.
* `Json.read` — the value of a document, which may hold nothing but that value.
-/

namespace Logbook.Json

mutual

/-- A value, and the tokens that follow it; the tokens are looked into to a depth of `fuel`. -/
def takeValue : (fuel : Nat) → List Token → Option (Json × List Token)
  | 0, _ | _, [] => none
  | fuel + 1, token :: rest =>
    match token with
    | .null => some (.null, rest)
    | .bool b => some (.bool b, rest)
    | .number spelling => some (.number spelling, rest)
    | .string (some text) => some (.string text, rest)
    | .string none => some (.garbled, rest)
    | .openArray =>
      match rest with
      | .closeArray :: rest => some (.array [], rest)
      | _ => (fun r => (.array r.1, r.2)) <$> takeItems fuel rest
    | .openObject =>
      match rest with
      | .closeObject :: rest => some (.object [], rest)
      | _ => (fun r => (.object r.1, r.2)) <$> takeMembers fuel rest
    | _ => none

/-- One item or more up to the end of an array. -/
def takeItems : (fuel : Nat) → List Token → Option (List Json × List Token)
  | 0, _ => none
  | fuel + 1, tokens => do
    let (item, tokens) ← takeValue fuel tokens
    match tokens with
    | .closeArray :: rest => return ([item], rest)
    | .comma :: rest =>
      let (items, rest) ← takeItems fuel rest
      return (item :: items, rest)
    | _ => none

/-- One member or more up to the end of an object. -/
def takeMembers : (fuel : Nat) → List Token → Option (List (Option String × Json) × List Token)
  | fuel + 1, .string name :: .colon :: tokens => do
    let (value, tokens) ← takeValue fuel tokens
    match tokens with
    | .closeObject :: rest => return ([(name, value)], rest)
    | .comma :: rest =>
      let (members, rest) ← takeMembers fuel rest
      return ((name, value) :: members, rest)
    | _ => none
  | _, _ => none

end

/-- The value that a list of tokens spells.  Each token is the start of at most one value and of one
list, so twice their number bounds the depth. -/
def ofTokens (tokens : List Token) : Option Json := do
  let (value, rest) ← takeValue (2 * tokens.length) tokens
  if rest.isEmpty then return value else none

/-- The value of a document. -/
def read (document : Bytes) : Option Json := Token.lex document >>= ofTokens

/-- The value of a document given as text. -/
def readText (document : String) : Option Json := read (Utf8.encode document)

end Logbook.Json
