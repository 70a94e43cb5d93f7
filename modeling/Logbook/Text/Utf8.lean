import Logbook.Bytes

/-!
# UTF-8

Encoding of text as bytes, and a reader that takes bytes apart into characters and ill-formed parts.
An ill-formed part is a *maximal subpart*: the longest start of some well-formed sequence that stands
at its place, or a single byte that starts none.  Both uses of the reader follow from the parts: strict
decoding reports the first ill-formed part, lossy decoding puts one U+FFFD in the place of each.

## Main definitions

* `Utf8.encode` — the bytes of a text.
* `Utf8.parts` — the characters and ill-formed parts of a byte string.
* `Utf8.decode` — the text of a byte string, or where it is ill-formed.
* `Utf8.lossy` — the text of a byte string with ill-formed parts replaced.
-/

namespace Logbook

namespace Utf8

/-- The bytes of a text. -/
def encode (text : String) : Bytes := text.toList.flatMap String.utf8EncodeChar

@[simp] theorem encode_empty : encode "" = [] := rfl

/-! ### The reader -/

/-- A part of a byte string. -/
inductive Part
  /-- A well-formed sequence. -/
  | char (c : Char)
  /-- An ill-formed part of `length` bytes; `atEnd` where more bytes could have completed it. -/
  | fault (length : Nat) (atEnd : Bool)
  deriving DecidableEq, Repr

/-- A sequence of which some bytes have been read. -/
structure Unfinished where
  /-- The number of bytes read. -/
  seen : Nat
  /-- The number of bytes missing. -/
  missing : Nat
  /-- The bits of the code point read so far. -/
  bits : Nat
  /-- The least value that the next byte may have. -/
  least : UInt8 := 0x80
  /-- The greatest value that the next byte may have. -/
  greatest : UInt8 := 0xBF
  deriving DecidableEq, Repr

/-- What a first byte starts. -/
inductive Lead
  /-- A sequence of its own. -/
  | single (c : Char)
  /-- A longer sequence. -/
  | longer (s : Unfinished)
  /-- No sequence at all. -/
  | never
  deriving DecidableEq, Repr

/-- What `b` starts.  The bounds on second bytes leave out overlong forms, surrogates and code points
beyond U+10FFFF. -/
def lead (b : UInt8) : Lead :=
  if b < 0x80 then .single (Char.ofNat b.toNat)
  else if b < 0xC2 then .never
  else if b < 0xE0 then .longer { seen := 1, missing := 1, bits := b.toNat - 0xC0 }
  else if b < 0xF0 then .longer
    { seen := 1, missing := 2, bits := b.toNat - 0xE0
      least := if b = 0xE0 then 0xA0 else 0x80
      greatest := if b = 0xED then 0x9F else 0xBF }
  else if b < 0xF5 then .longer
    { seen := 1, missing := 3, bits := b.toNat - 0xF0
      least := if b = 0xF0 then 0x90 else 0x80
      greatest := if b = 0xF4 then 0x8F else 0xBF }
  else .never

/-- The sequence after one more byte. -/
def Unfinished.push (s : Unfinished) (b : UInt8) : Unfinished where
  seen := s.seen + 1
  missing := s.missing - 1
  bits := s.bits * 64 + (b.toNat - 0x80)

/-- Reads on after the unfinished sequence, if there is one. -/
def partsFrom : Option Unfinished → Bytes → List Part
  | none, [] => []
  | some s, [] => [.fault s.seen true]
  | none, b :: rest =>
    match lead b with
    | .single c => .char c :: partsFrom none rest
    | .longer s => partsFrom (some s) rest
    | .never => .fault 1 false :: partsFrom none rest
  | some s, b :: rest =>
    if s.least ≤ b ∧ b ≤ s.greatest then
      if s.missing = 1 then .char (Char.ofNat (s.push b).bits) :: partsFrom none rest
      else partsFrom (some (s.push b)) rest
    else
      .fault s.seen false ::
        match lead b with
        | .single c => .char c :: partsFrom none rest
        | .longer t => partsFrom (some t) rest
        | .never => .fault 1 false :: partsFrom none rest

/-- The characters and the ill-formed parts of a byte string, in order. -/
def parts (b : Bytes) : List Part := partsFrom none b

/-- The number of bytes of a part. -/
def Part.length : Part → Nat
  | .char c => c.utf8Size
  | .fault length _ => length

/-! ### Strict decoding -/

/-- Where a byte string stops being UTF-8. -/
structure Error where
  /-- The number of bytes before the ill-formed part. -/
  index : Nat
  /-- The length of the ill-formed part, unless more bytes could have completed it. -/
  length : Option Nat
  deriving DecidableEq, Repr

/-- The wording of an error. -/
def Error.message (e : Error) : String :=
  match e.length with
  | some n => s!"invalid utf-8 sequence of {n} bytes from index {e.index}"
  | none => s!"incomplete utf-8 byte sequence from index {e.index}"

/-- The characters of well-formed parts that start `index` bytes into a byte string. -/
def chars (index : Nat) : List Part → Except Error (List Char)
  | [] => .ok []
  | .char c :: rest => (c :: ·) <$> chars (index + c.utf8Size) rest
  | .fault _ true :: _ => .error ⟨index, none⟩
  | .fault n false :: _ => .error ⟨index, some n⟩

/-- The text of a byte string. -/
def decode (b : Bytes) : Except Error String := String.ofList <$> chars 0 (parts b)

/-- The text of a byte string, if it is UTF-8. -/
def decode? (b : Bytes) : Option String := (decode b).toOption

/-! ### Lossy decoding -/

/-- The character shown for a part. -/
def Part.shown : Part → Char
  | .char c => c
  | .fault _ _ => Char.ofNat 0xFFFD

/-- The text of a byte string, with one U+FFFD for each ill-formed part. -/
def lossy (b : Bytes) : String := String.ofList ((parts b).map Part.shown)

end Utf8

end Logbook
