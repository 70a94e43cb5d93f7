import Logbook.Bytes
import Logbook.Text.Quoted
import Logbook.Text.Utf8

/-!
# Event identifiers

An identifier is a number of 128 bits: a time in milliseconds, in the high 48 bits, and 80 bits of
entropy below it.  Its order is the order of the number, hence of the pair, of the sixteen bytes and of
the text.

## Main definitions

* `EventId` — an identifier, with `timestampMs` and `entropy` as its parts.
* `EventId.ofParts` — the identifier of a time and some entropy.
* `EventId.toBytes`, `EventId.ofBytes` — the form in keys and cursors.
* `EventId.text`, `EventId.parse` — the form that people read.
-/

namespace Logbook

/-- The number of entropies, two to the power of 80. -/
def entropyBound : Nat := 1208925819614629174706176

/-- The number of times that an identifier can hold, two to the power of 48. -/
def timestampBound : Nat := 281474976710656

/-- An identifier of an event. -/
structure EventId where
  /-- The identifier as a number. -/
  value : Nat
  /-- An identifier has 128 bits. -/
  value_lt : value < timestampBound * entropyBound
  deriving DecidableEq

namespace EventId

@[ext] theorem ext {i j : EventId} (h : i.value = j.value) : i = j := by
  cases i; cases j; cases h; rfl

/-- Identifiers are ordered as numbers. -/
instance : Ord EventId := ⟨fun i j => compare i.value j.value⟩

instance : LT EventId := ⟨fun i j => i.value < j.value⟩

instance : LE EventId := ⟨fun i j => i.value ≤ j.value⟩

instance : DecidableLT EventId := fun i j => Nat.decLt i.value j.value

instance : DecidableLE EventId := fun i j => Nat.decLe i.value j.value

/-- The least identifier. -/
def least : EventId := ⟨0, by decide⟩

/-- The greatest identifier. -/
def greatest : EventId := ⟨timestampBound * entropyBound - 1, by decide⟩

instance : Inhabited EventId := ⟨least⟩

/-! ### Parts -/

/-- The time in milliseconds. -/
def timestampMs (i : EventId) : Nat := i.value / entropyBound

/-- The entropy. -/
def entropy (i : EventId) : Nat := i.value % entropyBound

/-- The identifier of a time, which is cut off at the greatest that fits, and of the low 80 bits of the
entropy. -/
def ofParts (timestampMs entropy : Nat) : EventId where
  value := min timestampMs (timestampBound - 1) * entropyBound + entropy % entropyBound
  value_lt := by
    have h₁ : min timestampMs (timestampBound - 1) ≤ timestampBound - 1 := Nat.min_le_right _ _
    have h₂ : entropy % entropyBound < entropyBound := Nat.mod_lt _ (by decide)
    simp only [timestampBound, entropyBound] at *
    omega

/-! ### Bytes -/

/-- The number of bytes of an identifier. -/
def byteLength : Nat := 16

/-- The sixteen bytes of an identifier, most significant first. -/
def toBytes (i : EventId) : Bytes := Bytes.ofNat byteLength i.value

@[simp] theorem length_toBytes (i : EventId) : i.toBytes.length = 16 := by
  simp [toBytes, byteLength]

/-- The identifier of a number, without the bits that do not fit. -/
def ofNat (n : Nat) : EventId where
  value := n % (timestampBound * entropyBound)
  value_lt := Nat.mod_lt _ (by decide)

/-- The identifier of sixteen bytes. -/
def ofBytes? (b : Bytes) : Option EventId :=
  if b.length = byteLength then some (ofNat b.toNat) else none

/-! ### Text -/

/-- The number of characters of the text of an identifier. -/
def textLength : Nat := 26

/-- The thirty-two digits, in ascending order: the numerals and the letters but for i, l, o and u. -/
def digits : List Char := "0123456789abcdefghjkmnpqrstvwxyz".toList

/-- The value of a digit in either case. -/
def digitValue? (b : UInt8) : Option Nat := digits.idxOf? (Char.ofNat b.toNat).toLower

/-- The text of an identifier: its digits to base 32, of which the first is at most 7. -/
def text (i : EventId) : String :=
  String.ofList ((Positional.digits 32 textLength i.value).map fun d => digits.getD d '0')

instance : ToString EventId := ⟨text⟩

/-- Why a text or a byte string is no identifier. -/
inductive Fault
  /-- The text does not have 26 bytes. -/
  | textLength (length : Nat)
  /-- A byte of the text is no digit. -/
  | digit (byte : UInt8)
  /-- The first digit is greater than 7. -/
  | overflow
  /-- The byte string does not have 16 bytes. -/
  | byteLength (length : Nat)
  deriving DecidableEq, Repr

/-- The wording of a fault. -/
def Fault.message : Fault → String
  | .textLength n => s!"expected {EventId.textLength} characters, got {n}"
  | .digit b => s!"invalid character {Quoted.char (Char.ofNat b.toNat)}"
  | .overflow => "value overflows 128 bits"
  | .byteLength n => s!"expected {EventId.byteLength} bytes, got {n}"

/-- The value of a digit, or the fault that it is none. -/
def digitValue (b : UInt8) : Except Fault Nat :=
  match digitValue? b with
  | some d => .ok d
  | none => .error (.digit b)

/-- The identifier that a text of bytes spells. -/
def parseBytes (b : Bytes) : Except Fault EventId :=
  if b.length ≠ textLength then .error (.textLength b.length)
  else match b with
    | [] => .error (.textLength 0)
    | first :: rest => do
      let d ← digitValue first
      if 7 < d then throw .overflow
      let ds ← rest.mapM digitValue
      return ofNat (Positional.value 32 (d :: ds))

/-- The identifier that a text spells, in upper or lower case. -/
def parse (text : String) : Except Fault EventId := parseBytes (Utf8.encode text)

/-- The identifier of a byte string of the right length. -/
def ofBytes (b : Bytes) : Except Fault EventId :=
  match ofBytes? b with
  | some i => .ok i
  | none => .error (.byteLength b.length)

end EventId

end Logbook
