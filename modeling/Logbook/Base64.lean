import Logbook.Bytes

/-!
# URL-safe base64

The alphabet `A`–`Z`, `a`–`z`, `0`–`9`, `-`, `_`, without padding.  Three bytes are four symbols; one or
two last bytes are two or three symbols, whose spare low bits are zero.  The reader accepts nothing
else, so each byte string has one spelling.

## Main definitions

* `Base64.encode` — the spelling of a byte string.
* `Base64.decode` — the byte string of a spelling, or the first fault in it.
-/

namespace Logbook.Base64

/-- The symbol of a six-bit value. -/
def symbol (v : Nat) : Char :=
  if v < 26 then Char.ofNat (65 + v)
  else if v < 52 then Char.ofNat (97 + (v - 26))
  else if v < 62 then Char.ofNat (48 + (v - 52))
  else if v = 62 then '-'
  else '_'

/-- The six-bit value of a symbol. -/
def valueOf? (b : UInt8) : Option Nat :=
  let n := b.toNat
  if 65 ≤ n ∧ n ≤ 90 then some (n - 65)
  else if 97 ≤ n ∧ n ≤ 122 then some (n - 97 + 26)
  else if 48 ≤ n ∧ n ≤ 57 then some (n - 48 + 52)
  else if n = 45 then some 62
  else if n = 95 then some 63
  else none

/-! ### Writing -/

/-- The `count` symbols of a number. -/
def symbols (count n : Nat) : List Char := (Positional.digits 64 count n).map symbol

/-- The symbols of a byte string. -/
def encodeChars : Bytes → List Char
  | [] => []
  | [a] => symbols 2 (Bytes.toNat [a] * 16)
  | [a, b] => symbols 3 (Bytes.toNat [a, b] * 4)
  | a :: b :: c :: rest => symbols 4 (Bytes.toNat [a, b, c]) ++ encodeChars rest

/-- The spelling of a byte string. -/
def encode (b : Bytes) : String := String.ofList (encodeChars b)

/-! ### Reading -/

/-- Why a text spells no byte string. -/
inductive Fault
  /-- A byte at `offset` is not a symbol. -/
  | symbol (byte : UInt8) (offset : Nat)
  /-- The last group holds a single symbol, so that `length` symbols are one too many. -/
  | length (length : Nat)
  /-- The text is padded. -/
  | padding
  /-- The spare bits of the last symbol, at `offset`, are not zero. -/
  | lastSymbol (byte : UInt8) (offset : Nat)
  deriving DecidableEq, Repr

/-- The wording of a fault. -/
def Fault.message : Fault → String
  | .symbol byte offset => s!"Invalid symbol {byte}, offset {offset}."
  | .length n => s!"Invalid input length: {n}"
  | .padding => "Invalid padding"
  | .lastSymbol byte offset => s!"Invalid last symbol {byte}, offset {offset}."

/-- The value of the symbol at `offset`. -/
def valueAt (offset : Nat) (b : UInt8) : Except Fault Nat :=
  match valueOf? b with
  | some v => .ok v
  | none => .error (.symbol b offset)

/-- The padding byte. -/
def pad : UInt8 := 0x3D

/-- The symbols of a last group together with their values.  The group starts at `start`, and
`position` bytes of it have been read.  Padding may stand in its last two places only and ends it. -/
def lastValues (start : Nat) (position : Nat) : Bytes → Except Fault (List (UInt8 × Nat) × Bool)
  | [] => .ok ([], false)
  | b :: rest =>
    if b = pad then
      if position < 2 then .error (.symbol pad (start + position))
      else if rest.all (· = pad) then .ok ([], true)
      else .error (.symbol pad (start + position))
    else do
      let v ← valueAt (start + position) b
      let (vs, padded) ← lastValues start (position + 1) rest
      return ((b, v) :: vs, padded)

/-- The bytes of a last group of one to four symbols, of which `6 * count mod 8` bits are spare. -/
def decodeLast (start : Nat) (group : Bytes) : Except Fault Bytes := do
  let (vs, padded) ← lastValues start 0 group
  if vs.length < 2 then throw (.length (start + vs.length))
  if padded then throw .padding
  let n := Positional.value 64 (vs.map (·.2))
  let spare := if vs.length = 2 then 16 else if vs.length = 3 then 4 else 1
  if n % spare ≠ 0 then
    throw (.lastSymbol ((vs.map (·.1)).getLastD 0) (start + vs.length - 1))
  return Bytes.ofNat (vs.length - 1) (n / spare)

/-- The bytes of a text that starts `start` bytes into the whole; every group but the last has four
symbols. -/
def decodeFrom (start : Nat) : Bytes → Except Fault Bytes
  | [] => .ok []
  | a :: b :: c :: d :: rest =>
    if rest.isEmpty then decodeLast start [a, b, c, d] else do
      let va ← valueAt start a
      let vb ← valueAt (start + 1) b
      let vc ← valueAt (start + 2) c
      let vd ← valueAt (start + 3) d
      let more ← decodeFrom (start + 4) rest
      return Bytes.ofNat 3 (Positional.value 64 [va, vb, vc, vd]) ++ more
  | group => decodeLast start group

/-- The byte string that a text, given as bytes, spells.  A last group of one byte that is neither a
symbol nor padding is reported before any fault that stands ahead of it. -/
def decode (text : Bytes) : Except Fault Bytes :=
  let last := text.getLastD 0
  if text.length % 4 = 1 ∧ last ≠ pad ∧ valueOf? last = none then
    .error (.symbol last (text.length - 1))
  else decodeFrom 0 text

end Logbook.Base64
