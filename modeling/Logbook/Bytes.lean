import Logbook.Positional

/-!
# Byte strings

Messages, keys and packets are lists of bytes, ordered lexicographically.

## Main definitions

* `Bytes` — a byte string.
* `Bytes.ofNat`, `Bytes.toNat` — big-endian numbers of a fixed width.
* `Bytes.chunks` — the pieces of at most a given size that a byte string is read in.
-/

namespace Logbook

/-- A byte string. -/
abbrev Bytes := List UInt8

namespace Bytes

/-- The lowest `width` bytes of `n`, most significant first. -/
def ofNat (width n : Nat) : Bytes := (Positional.digits 256 width n).map UInt8.ofNat

/-- The number that bytes spell, most significant first. -/
def toNat (b : Bytes) : Nat := Positional.value 256 (b.map UInt8.toNat)

@[simp] theorem length_ofNat (width n : Nat) : (ofNat width n).length = width := by
  simp [ofNat]

/-- The bytes of a text all of whose characters lie below U+0080. -/
def ofAscii (text : String) : Bytes := text.toList.map fun c => UInt8.ofNat c.toNat

/-- Cuts a byte string into pieces of `size` bytes, the last of which may be shorter; a size of zero
counts as one. -/
def chunks (size : Nat) : Bytes → List Bytes
  | [] => []
  | b :: rest => (b :: rest.take (size - 1)) :: chunks size (rest.drop (size - 1))
  termination_by bytes => bytes.length
  decreasing_by simp only [List.length_drop, List.length_cons]; omega

end Bytes

end Logbook
