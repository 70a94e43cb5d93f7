import Logbook.Json
import Logbook.Text.Decimal
import Logbook.Text.Utf8

/-!
# Tokens of documents

A document, given as bytes, is cut into tokens before its structure is looked at.  Only inside strings
can bytes stand that are no text, and only the place of the string decides whether they matter.

## Main definitions

* `Json.Token` — a token.
* `Json.Token.lex` — the tokens of a document.
-/

namespace Logbook.Json

/-- A token of a document. -/
inductive Token
  /-- An opening brace. -/
  | openObject
  /-- A closing brace. -/
  | closeObject
  /-- An opening bracket. -/
  | openArray
  /-- A closing bracket. -/
  | closeArray
  /-- A comma. -/
  | comma
  /-- A colon. -/
  | colon
  /-- The word `null`. -/
  | null
  /-- One of the words `true` and `false`. -/
  | bool (b : Bool)
  /-- A number as it is spelt. -/
  | number (spelling : List Char)
  /-- A string, or none where its bytes and escapes are no text. -/
  | string (text : Option String)
  deriving DecidableEq, Repr

namespace Token

/-- The byte of an ASCII character. -/
def byte (c : Char) : UInt8 := UInt8.ofNat c.toNat

/-! ### Strings -/

/-- A piece of the content of a string. -/
inductive Piece
  /-- A byte that stands for itself, or the byte of a short escape. -/
  | byte (b : UInt8)
  /-- The code unit of a numeric escape. -/
  | unit (n : Nat)
  deriving DecidableEq, Repr

/-- The value of a hexadecimal digit in either case. -/
def hexDigit? (b : UInt8) : Option Nat :=
  let n := b.toNat
  if 48 ≤ n ∧ n ≤ 57 then some (n - 48)
  else if 97 ≤ n ∧ n ≤ 102 then some (n - 87)
  else if 65 ≤ n ∧ n ≤ 70 then some (n - 55)
  else none

/-- The byte that a short escape stands for. -/
def shortEscape? (b : UInt8) : Option UInt8 :=
  if b = byte '"' then some (byte '"')
  else if b = byte '\\' then some (byte '\\')
  else if b = byte '/' then some (byte '/')
  else if b = byte 'b' then some 0x08
  else if b = byte 'f' then some 0x0C
  else if b = byte 'n' then some 0x0A
  else if b = byte 'r' then some 0x0D
  else if b = byte 't' then some 0x09
  else none

/-- The pieces of a string from behind its opening quote, and what follows its closing quote. -/
def stringPieces : Bytes → Option (List Piece × Bytes)
  | [] => none
  | [b] => if b = byte '"' then some ([], []) else none
  | b :: e :: rest =>
    if b = byte '"' then some ([], e :: rest)
    else if b = byte '\\' then
      if e = byte 'u' then
        match rest with
        | h₁ :: h₂ :: h₃ :: h₄ :: rest => do
          let ds ← [h₁, h₂, h₃, h₄].mapM hexDigit?
          let (pieces, rest) ← stringPieces rest
          return (.unit (Positional.value 16 ds) :: pieces, rest)
        | _ => none
      else do
        let b ← shortEscape? e
        let (pieces, rest) ← stringPieces rest
        return (.byte b :: pieces, rest)
    else if b < 0x20 then none
    else do
      let (pieces, rest) ← stringPieces (e :: rest)
      return (.byte b :: pieces, rest)
  termination_by b => b.length

/-- Whether a code unit is the first half of a pair. -/
def isHigh (n : Nat) : Bool := 0xD800 ≤ n && n < 0xDC00

/-- Whether a code unit is the second half of a pair. -/
def isLow (n : Nat) : Bool := 0xDC00 ≤ n && n < 0xE000

/-- The bytes of pieces, where each half of a pair stands next to the other half. -/
def joinPieces : List Piece → Option Bytes
  | [] => some []
  | .byte b :: rest => (b :: ·) <$> joinPieces rest
  | [.unit n] =>
    if isHigh n || isLow n then none else some (String.utf8EncodeChar (Char.ofNat n))
  | .unit n :: .byte b :: rest =>
    if isHigh n || isLow n then none
    else (fun bytes => String.utf8EncodeChar (Char.ofNat n) ++ b :: bytes) <$> joinPieces rest
  | .unit n :: .unit m :: rest =>
    if isHigh n then
      if isLow m then
        let c := Char.ofNat (0x10000 + (n - 0xD800) * 0x400 + (m - 0xDC00))
        (String.utf8EncodeChar c ++ ·) <$> joinPieces rest
      else none
    else if isLow n then none
    else (String.utf8EncodeChar (Char.ofNat n) ++ ·) <$> joinPieces (.unit m :: rest)

/-- The text that pieces spell. -/
def textOf (pieces : List Piece) : Option String := joinPieces pieces >>= Utf8.decode?

/-! ### Numbers -/

/-- Whether a byte is a numeral. -/
def isDigit (b : UInt8) : Bool := byte '0' ≤ b && b ≤ byte '9'

/-- A run of one digit or more, and what follows it. -/
def digitRun (b : Bytes) : Option (Bytes × Bytes) :=
  match b.takeWhile isDigit with
  | [] => none
  | run => some (run, b.dropWhile isDigit)

/-- The whole part of a number: zero, or digits of which the first is not zero. -/
def wholePart : Bytes → Option (Bytes × Bytes)
  | [] => none
  | b :: rest => if b = byte '0' then some ([b], rest) else digitRun (b :: rest)

/-- The fraction of a number, which may be missing. -/
def fractionPart : Bytes → Option (Bytes × Bytes)
  | [] => some ([], [])
  | b :: rest =>
    if b = byte '.' then do
      let (run, rest) ← digitRun rest
      return (b :: run, rest)
    else some ([], b :: rest)

/-- The digits of an exponent, with or without a sign. -/
def exponentDigits : Bytes → Option (Bytes × Bytes)
  | [] => none
  | s :: rest =>
    if s = byte '+' ∨ s = byte '-' then do
      let (run, rest) ← digitRun rest
      return (s :: run, rest)
    else digitRun (s :: rest)

/-- The exponent of a number, which may be missing. -/
def exponentPart : Bytes → Option (Bytes × Bytes)
  | [] => some ([], [])
  | b :: rest =>
    if b = byte 'e' ∨ b = byte 'E' then do
      let (run, rest) ← exponentDigits rest
      return (b :: run, rest)
    else some ([], b :: rest)

/-- A number without its sign, and what follows it. -/
def unsigned (b : Bytes) : Option (Bytes × Bytes) := do
  let (whole, b) ← wholePart b
  let (fraction, b) ← fractionPart b
  let (exponent, b) ← exponentPart b
  return (whole ++ fraction ++ exponent, b)

/-- A number that starts with `b`, and what follows it. -/
def numberFrom (b : UInt8) (rest : Bytes) : Option (Token × Bytes) := do
  let (bytes, rest) ← if b = byte '-' then (fun r => (b :: r.1, r.2)) <$> unsigned rest
    else unsigned (b :: rest)
  return (.number (bytes.map fun b => Char.ofNat b.toNat), rest)

/-! ### The whole document -/

/-- A word, and what follows it. -/
def word (text : String) (token : Token) (b : Bytes) : Option (Token × Bytes) :=
  if (Bytes.ofAscii text).isPrefixOf b then some (token, b.drop text.length) else none

/-- The token that starts with `b`, and what follows it. -/
def next (b : UInt8) (rest : Bytes) : Option (Token × Bytes) :=
  if b = byte '\x7b' then some (.openObject, rest)
  else if b = byte '\x7d' then some (.closeObject, rest)
  else if b = byte '[' then some (.openArray, rest)
  else if b = byte ']' then some (.closeArray, rest)
  else if b = byte ',' then some (.comma, rest)
  else if b = byte ':' then some (.colon, rest)
  else if b = byte '"' then (fun r => (.string (textOf r.1), r.2)) <$> stringPieces rest
  else if b = byte 'n' then word "null" .null (b :: rest)
  else if b = byte 't' then word "true" (.bool true) (b :: rest)
  else if b = byte 'f' then word "false" (.bool false) (b :: rest)
  else numberFrom b rest

/-- Whether a byte may stand between tokens. -/
def isBlank (b : UInt8) : Bool := b = 0x20 || b = 0x09 || b = 0x0A || b = 0x0D

/-- The tokens of a document of at most `fuel` bytes. -/
def lexWithin : (fuel : Nat) → Bytes → Option (List Token)
  | _, [] => some []
  | 0, _ :: _ => none
  | fuel + 1, b :: rest =>
    if isBlank b then lexWithin fuel rest
    else do
      let (token, rest) ← next b rest
      let tokens ← lexWithin fuel rest
      return token :: tokens

/-- The tokens of a document. -/
def lex (document : Bytes) : Option (List Token) := lexWithin document.length document

end Token

end Logbook.Json
