import Logbook.Bytes

/-!
# Lines

A source is a stream of bytes that arrives in buffers.  Its lines end with a line feed, the last one also
with the stream; a carriage return before the end is not part of a line.  Of a line that is too long the
first bytes are kept.

## Main definitions

* `Line` — a line of a source, or the start of one.
* `Line.absorb` — a line with the part of a buffer that belongs to it.
* `Line.read` — the next line of a stream.
* `Line.readAll` — all lines of a stream.
-/

namespace Logbook

/-- A line of a source. -/
structure Line where
  /-- The bytes of the line that are kept. -/
  bytes : Bytes
  /-- Whether there were more. -/
  truncated : Bool
  deriving DecidableEq, Repr

namespace Line

/-- A line of which nothing has been read. -/
def blank : Line := ⟨[], false⟩

/-- The byte that ends a line. -/
def feed : UInt8 := 0x0A

/-- The byte that may stand before the end of a line. -/
def carriageReturn : UInt8 := 0x0D

/-- Adds bytes to a line of at most `max` bytes. -/
def extend (max : Nat) (l : Line) (chunk : Bytes) : Line where
  bytes := l.bytes ++ chunk.take (max - l.bytes.length)
  truncated := l.truncated || decide (max - l.bytes.length < chunk.length)

/-- The line as it is given out, once its end has been reached. -/
def finish (l : Line) : Line :=
  if !l.truncated && l.bytes.getLast? = some carriageReturn then
    { l with bytes := l.bytes.dropLast }
  else l

/-- Adds to a line what a buffer holds of it.  If the line ends there, what follows it is left. -/
def absorb (max : Nat) (l : Line) (buffer : Bytes) : Line × Option Bytes :=
  let extended := l.extend max (buffer.takeWhile (· ≠ feed))
  match buffer.dropWhile (· ≠ feed) with
  | [] => (extended, none)
  | _ :: left => (extended, some left)

/-- The buffers that are left when `left` is left of the first one. -/
def leave (left : Bytes) (buffers : List Bytes) : List Bytes :=
  if left = [] then buffers else left :: buffers

/-- Reads on in a line that has been started, up to the end of it or of the stream. -/
def readOn (max : Nat) (l : Line) : List Bytes → Line × List Bytes
  | [] => (l.finish, [])
  | buffer :: rest =>
    match l.absorb max buffer with
    | (l, some left) => (l.finish, leave left rest)
    | (l, none) => readOn max l rest

/-- The next line of a stream that arrives in some buffers, and the buffers behind it. -/
def read (max : Nat) : List Bytes → Option (Line × List Bytes)
  | [] => none
  | buffers => some (readOn max blank buffers)

/-! ### All lines -/

/-- What is left to read: the bytes, and one for each buffer. -/
def remaining : List Bytes → Nat
  | [] => 0
  | buffer :: rest => buffer.length + 1 + remaining rest

@[simp] theorem remaining_nil : remaining [] = 0 := rfl

@[simp] theorem remaining_cons (buffer : Bytes) (rest : List Bytes) :
    remaining (buffer :: rest) = buffer.length + 1 + remaining rest := rfl

theorem length_le_of_absorb {max : Nat} {l l' : Line} {buffer left : Bytes}
    (h : l.absorb max buffer = (l', some left)) : left.length < buffer.length := by
  unfold absorb at h
  split at h
  · simp at h
  · rename_i c rest hrest
    obtain ⟨-, h⟩ := Prod.mk.injEq .. ▸ h
    obtain rfl := Option.some.inj h
    have := congrArg List.length (List.takeWhile_append_dropWhile (p := (· ≠ feed)) (l := buffer))
    simp only [hrest, List.length_append, List.length_cons] at this
    omega

theorem remaining_leave_lt {left buffer : Bytes} (rest : List Bytes)
    (h : left.length < buffer.length) : remaining (leave left rest) < remaining (buffer :: rest) := by
  rw [leave]
  split
  · rw [remaining_cons]
    omega
  · rw [remaining_cons, remaining_cons]
    omega

theorem remaining_readOn_le (max : Nat) (l : Line) (buffers : List Bytes) :
    remaining (readOn max l buffers).2 ≤ remaining buffers := by
  induction buffers generalizing l with
  | nil => exact Nat.le_refl _
  | cons buffer rest ih =>
    rw [readOn]
    split
    · rename_i h
      exact Nat.le_of_lt (remaining_leave_lt rest (length_le_of_absorb h))
    · refine Nat.le_trans (ih _) ?_
      rw [remaining_cons]
      omega

/-- Each line that is read takes something off the stream. -/
theorem remaining_read_lt {max : Nat} {buffers rest : List Bytes} {l : Line}
    (h : read max buffers = some (l, rest)) : remaining rest < remaining buffers := by
  cases buffers with
  | nil => simp [read] at h
  | cons buffer more =>
    obtain rfl : (readOn max blank (buffer :: more)).2 = rest := by
      simpa [read] using congrArg (Option.map Prod.snd) h
    rw [readOn]
    split
    · rename_i h
      exact remaining_leave_lt more (length_le_of_absorb h)
    · refine Nat.lt_of_le_of_lt (remaining_readOn_le _ _ _) ?_
      rw [remaining_cons]
      omega

/-- All lines of a stream. -/
def readAll (max : Nat) (buffers : List Bytes) : List Line :=
  match _h : read max buffers with
  | some (l, rest) => l :: readAll max rest
  | none => []
  termination_by remaining buffers
  decreasing_by exact remaining_read_lt _h

end Line

end Logbook
