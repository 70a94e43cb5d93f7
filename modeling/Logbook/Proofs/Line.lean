import Logbook.Line
import Mathlib.Data.List.TakeWhile

/-!
# The lines of a stream

Which lines a stream has is said by its bytes: it is split at the line feeds, and each piece is kept as far as there is
room.  A reader gets the stream in buffers, and carries a line that has been started from one buffer to the next.  What
it carries depends on the bytes that it has read of the line and not on how they were cut, so neither do the lines.

## Main definitions

* `Line.started` — what is carried of a line of which some bytes have been read.
* `Line.cut` — the line that a piece of a stream becomes.
* `Line.pieces`, `Line.linesOf` — the pieces of a stream, and its lines.

## Main results

* `Line.absorb_cases` — what a buffer does to a line that has been started.
* `Line.of_read` — the next line is the first piece, and what follows it is left.
* `Line.reads_linesOf` — **the lines of a stream are read, however it is cut into buffers.**
-/

namespace Logbook
namespace Line

/-! ### The lines that a stream has -/

/-- A piece of a stream without a carriage return at its end. -/
def withoutReturn (piece : Bytes) : Bytes :=
  if piece.getLast? = some carriageReturn then piece.dropLast else piece

/-- The line that a piece of a stream becomes. -/
def cut (max : Nat) (piece : Bytes) : Line :=
  if max < piece.length then ⟨piece.take max, true⟩ else ⟨withoutReturn piece, false⟩

/-- The pieces of a stream between line feeds; nothing after the last line feed is no piece. -/
def pieces (stream : Bytes) : List Bytes :=
  let split := stream.splitOn feed
  if split.getLast? = some [] then split.dropLast else split

/-- The lines of a stream. -/
def linesOf (max : Nat) (stream : Bytes) : List Line := (pieces stream).map (cut max)

theorem length_cut_le (max : Nat) (piece : Bytes) : (cut max piece).bytes.length ≤ max := by
  unfold cut withoutReturn
  split
  · exact List.length_take_le _ _
  · split
    · simp
      omega
    · simp
      omega

@[simp] theorem pieces_nil : pieces [] = [] := rfl

theorem pieces_of_notMem {piece : Bytes} (h : feed ∉ piece) (hne : piece ≠ []) : pieces piece = [piece] := by
  simp [pieces, List.splitOn_eq_singleton h, hne]

/-- A line feed ends the first piece. -/
theorem pieces_append {piece : Bytes} (h : feed ∉ piece) (rest : Bytes) :
    pieces (piece ++ feed :: rest) = piece :: pieces rest := by
  have hne : rest.splitOn feed ≠ [] := List.splitOn_ne_nil feed rest
  rw [pieces, pieces, List.splitOn_append_cons_self_of_not_mem h]
  simp only [List.getLast?_cons_of_ne_nil hne, List.dropLast_cons_of_ne_nil hne]
  split <;> rfl

@[simp] theorem linesOf_nil (max : Nat) : linesOf max [] = [] := rfl

theorem linesOf_of_notMem {piece : Bytes} (max : Nat) (h : feed ∉ piece) (hne : piece ≠ []) :
    linesOf max piece = [cut max piece] := by
  rw [linesOf, pieces_of_notMem h hne, List.map_singleton]

theorem linesOf_append {piece : Bytes} (max : Nat) (h : feed ∉ piece) (rest : Bytes) :
    linesOf max (piece ++ feed :: rest) = cut max piece :: linesOf max rest := by
  rw [linesOf, pieces_append h, List.map_cons, linesOf]

/-! ### Lines that have been started -/

/-- What is carried of a line of which some bytes have been read. -/
def started (max : Nat) (part : Bytes) : Line := ⟨part.take max, decide (max < part.length)⟩

@[simp] theorem started_nil (max : Nat) : started max [] = blank := by
  simp [started, blank]

/-- It does not matter in how many steps the bytes were read. -/
theorem extend_started (max : Nat) (part chunk : Bytes) :
    (started max part).extend max chunk = started max (part ++ chunk) := by
  have hroom : max - min max part.length = max - part.length := by omega
  rw [extend, started, started, mk.injEq]
  constructor
  · rw [List.length_take, hroom, List.take_append]
  · rw [List.length_take, hroom, ← Bool.decide_or, List.length_append]
    apply decide_eq_decide.2
    omega

/-- At its end a line that has been started is cut off the whole piece. -/
theorem finish_started (max : Nat) (piece : Bytes) : (started max piece).finish = cut max piece := by
  unfold finish cut withoutReturn started
  by_cases hlong : max < piece.length
  · simp [hlong]
  · have htake : piece.take max = piece := List.take_of_length_le (Nat.le_of_not_lt hlong)
    simp only [htake, hlong, decide_false, Bool.not_false, Bool.true_and, if_false, decide_eq_true_iff]
    split <;> rfl

theorem ne_feed_of_notMem {piece : Bytes} (h : feed ∉ piece) : ∀ b ∈ piece, decide (b ≠ feed) = true :=
  fun _ hb => decide_eq_true fun heq => h (heq ▸ hb)

theorem takeWhile_append {piece : Bytes} (h : feed ∉ piece) (rest : Bytes) :
    (piece ++ feed :: rest).takeWhile (· ≠ feed) = piece := by
  rw [List.takeWhile_append_of_pos (ne_feed_of_notMem h)]
  simp

theorem takeWhile_of_notMem {bytes : Bytes} (h : feed ∉ bytes) : bytes.takeWhile (· ≠ feed) = bytes :=
  List.takeWhile_eq_self_iff.2 (ne_feed_of_notMem h)

/-- What a buffer does to a line that has been started: it holds more of the line, or the end of the line and what is
left behind it. -/
theorem absorb_cases (max : Nat) (part buffer : Bytes) :
    (feed ∉ buffer ∧ (started max part).absorb max buffer = (started max (part ++ buffer), none)) ∨
      ∃ piece left, feed ∉ piece ∧ buffer = piece ++ feed :: left ∧
        (started max part).absorb max buffer = (started max (part ++ piece), some left) := by
  by_cases hfeed : feed ∈ buffer
  · obtain ⟨piece, left, rfl, hpiece⟩ := List.eq_append_cons_of_mem hfeed
    have hdrop : (piece ++ feed :: left).dropWhile (· ≠ feed) = feed :: left := by
      rw [List.dropWhile_append_of_pos (ne_feed_of_notMem hpiece)]
      simp
    right
    refine ⟨piece, left, hpiece, rfl, ?_⟩
    rw [absorb, takeWhile_append hpiece, hdrop, extend_started]
  · left
    refine ⟨hfeed, ?_⟩
    rw [absorb, takeWhile_of_notMem hfeed, List.dropWhile_eq_nil_iff.2 (ne_feed_of_notMem hfeed), extend_started]

/-! ### Reading -/

/-- A stream in buffers, none of which is empty. -/
def Buffered (buffers : List Bytes) : Prop := ∀ buffer ∈ buffers, buffer ≠ []

theorem Buffered.flatten_eq_nil_iff {buffers : List Bytes} (h : Buffered buffers) :
    buffers.flatten = [] ↔ buffers = [] := by
  constructor
  · intro hnil
    cases buffers with
    | nil => rfl
    | cons buffer rest =>
      have hbuffer := h buffer List.mem_cons_self
      simp [hbuffer] at hnil
  · rintro rfl
    rfl

theorem Buffered.leave {buffers : List Bytes} (h : Buffered buffers) (left : Bytes) :
    Buffered (leave left buffers) := by
  unfold Line.leave
  split
  · exact h
  · next hne =>
    intro buffer hbuffer
    rcases List.mem_cons.1 hbuffer with rfl | hbuffer
    · exact hne
    · exact h buffer hbuffer

@[simp] theorem flatten_leave (left : Bytes) (buffers : List Bytes) :
    (leave left buffers).flatten = left ++ buffers.flatten := by
  unfold leave
  split
  · next hnil => simp [hnil]
  · rfl

/-- What is left when the first piece of a stream, or the rest of it, has been read. -/
structure Leaves (stream piece : Bytes) (rest : List Bytes) : Prop where
  /-- The piece ends where the first line feed stands. -/
  notMem : feed ∉ piece
  /-- The rest of the stream is in buffers. -/
  buffered : Buffered rest
  /-- The piece and the line feed behind it have been read, or the whole stream. -/
  eq : stream = piece ∧ rest = [] ∨ stream = piece ++ feed :: rest.flatten

/-- A line that has been started is read up to its end. -/
theorem exists_readOn {buffers : List Bytes} (max : Nat) (part : Bytes) (h : Buffered buffers) :
    ∃ piece rest, readOn max (started max part) buffers = (cut max (part ++ piece), rest) ∧
      Leaves buffers.flatten piece rest := by
  induction buffers generalizing part with
  | nil =>
    refine ⟨[], [], ?_, by simp, nofun, Or.inl ⟨rfl, rfl⟩⟩
    rw [readOn, finish_started, List.append_nil]
  | cons buffer more ih =>
    have hmore : Buffered more := fun b hb => h b (List.mem_cons_of_mem _ hb)
    rcases absorb_cases max part buffer with ⟨hfeed, habsorb⟩ | ⟨piece, left, hfeed, rfl, habsorb⟩
    · -- the line goes on in the next buffer
      obtain ⟨piece, rest, hread, hleaves⟩ := ih (part ++ buffer) hmore
      refine ⟨buffer ++ piece, rest, ?_, ?_, hleaves.buffered, ?_⟩
      · rw [readOn, habsorb, ← List.append_assoc]
        exact hread
      · simp [hfeed, hleaves.notMem]
      · rcases hleaves.eq with ⟨heq, hrest⟩ | heq
        · simp [heq, hrest]
        · simp [heq]
    · refine ⟨piece, leave left more, ?_, hfeed, hmore.leave left, Or.inr ?_⟩
      · rw [readOn, habsorb]
        simp only [finish_started]
      · simp

/-- **The next line is the first piece of a stream, and what follows the piece is left.** -/
theorem of_read {max : Nat} {buffers rest : List Bytes} {l : Line} (h : Buffered buffers)
    (hread : read max buffers = some (l, rest)) :
    ∃ piece, l = cut max piece ∧ Leaves buffers.flatten piece rest ∧ buffers.flatten ≠ [] := by
  have hne : buffers ≠ [] := by
    rintro rfl
    cases hread
  obtain ⟨piece, rest', hreadOn, hleaves⟩ := exists_readOn max [] h
  have hsome : read max buffers = some (readOn max blank buffers) := by
    cases buffers with
    | nil => contradiction
    | cons buffer more => rfl
  rw [hsome, ← started_nil max, hreadOn, Option.some.injEq, Prod.mk.injEq] at hread
  obtain ⟨rfl, rfl⟩ := hread
  exact ⟨piece, by simp, hleaves, mt h.flatten_eq_nil_iff.1 hne⟩

theorem read_eq_none_iff {max : Nat} {buffers : List Bytes} (h : Buffered buffers) :
    read max buffers = none ↔ buffers.flatten = [] := by
  rw [h.flatten_eq_nil_iff]
  cases buffers with
  | nil => simp [read]
  | cons buffer rest => simp [read]

/-- Reading on to the end gives the lines of the stream. -/
theorem readAll_eq (max : Nat) {buffers : List Bytes} (h : Buffered buffers) :
    readAll max buffers = linesOf max buffers.flatten := by
  fun_induction readAll max buffers with
  | case1 buffers l rest hread ih =>
    obtain ⟨piece, rfl, hleaves, hne⟩ := of_read h hread
    rw [ih hleaves.buffered]
    rcases hleaves.eq with ⟨heq, rfl⟩ | heq
    · rw [heq] at hne ⊢
      rw [linesOf_of_notMem max hleaves.notMem hne]
      rfl
    · rw [heq, linesOf_append max hleaves.notMem]
  | case2 buffers hread =>
    rw [(read_eq_none_iff h).1 hread]
    rfl

/-- **The lines of a stream are read, however it is cut into buffers.**  None is longer than `max` bytes.  Nothing is
read at the end of the stream only; each line that is read takes something off the stream, and leaves buffers again of
which none is empty. -/
theorem reads_linesOf (max : Nat) {buffers : List Bytes} (h : ∀ buffer ∈ buffers, buffer ≠ []) :
    readAll max buffers = linesOf max buffers.flatten ∧
      (∀ l ∈ readAll max buffers, l.bytes.length ≤ max) ∧
      (read max buffers = none ↔ buffers.flatten = []) ∧
      ∀ l rest, read max buffers = some (l, rest) →
        (∀ buffer ∈ rest, buffer ≠ []) ∧ ∃ taken ≠ [], buffers.flatten = taken ++ rest.flatten := by
  have hall := readAll_eq max h
  refine ⟨hall, ?_, read_eq_none_iff h, ?_⟩
  · intro l hl
    rw [hall, linesOf, List.mem_map] at hl
    obtain ⟨piece, -, rfl⟩ := hl
    exact length_cut_le max piece
  · intro l rest hread
    obtain ⟨piece, -, hleaves, hne⟩ := of_read h hread
    refine ⟨hleaves.buffered, ?_⟩
    rcases hleaves.eq with ⟨heq, rfl⟩ | heq
    · refine ⟨buffers.flatten, hne, ?_⟩
      simp
    · refine ⟨piece ++ [feed], by simp, ?_⟩
      rw [heq]
      simp

/-- A carriage return and the line feed behind it come in different buffers, and the third line is too long. -/
theorem reads_linesOf_three_buffers :
    let buffers : List Bytes := [[97, 10, 10, 98, 13], [10, 99, 99], [99, 99, 10, 100]]
    (∀ buffer ∈ buffers, buffer ≠ []) ∧
      readAll 3 buffers = [⟨[97], false⟩, ⟨[], false⟩, ⟨[98], false⟩, ⟨[99, 99, 99], true⟩, ⟨[100], false⟩] := by
  intro buffers
  have hne : ∀ buffer ∈ buffers, buffer ≠ [] := by decide
  exact ⟨hne, (reads_linesOf 3 hne).1.trans (by decide)⟩

end Line
end Logbook
