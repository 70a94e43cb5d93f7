import Logbook.Proofs.Line
import Mathlib.Data.List.Induction

/-!
# What becomes of each byte of a stream

A byte of a stream has a place among its lines: the number of line feeds before it, and the number of bytes since the
last of them.  It is found there in the lines that are read, if there is room for it and it is not part of the end of a
line.  A carriage return is part of the end of a line when a line feed follows it; a reader takes the one at the end of
the stream for such a part as well, where nothing follows it any more.  That byte is the only one that is lost.

## Main definitions

* `Line.column` — how many bytes stand between the last line feed and the end of some bytes.
* `Line.EndsLine` — bytes that are part of the end of a line.
* `Line.joined` — lines with line feeds between them.
* `Line.ending` — what may end a stream besides the lines.

## Main results

* `Line.getElem?_cut` — which bytes of a piece its line holds.
* `Line.exists_line` — the line that a byte belongs to.
* `Line.joined_append_ending` — what joining the lines leaves out.
* `Line.reads_content` — **all bytes with room are read, but for the ends of lines and a carriage return at the end of
  the stream.**
-/

namespace Logbook
namespace Line

/-! ### Places -/

/-- How many bytes stand between the last line feed and the end of some bytes. -/
def column (bytes : Bytes) : Nat := bytes.foldl (fun n b => if b = feed then 0 else n + 1) 0

/-- Whether a byte is part of the end of a line, when some bytes follow it. -/
def EndsLine (b : UInt8) (after : Bytes) : Prop := b = feed ∨ b = carriageReturn ∧ after.head? = some feed

instance (b : UInt8) (after : Bytes) : Decidable (EndsLine b after) := inferInstanceAs (Decidable (_ ∨ _))

theorem column_of_notMem {bytes : Bytes} (h : feed ∉ bytes) : column bytes = bytes.length := by
  induction bytes using List.reverseRecOn with
  | nil => rfl
  | append_singleton bytes b ih =>
    rw [List.mem_append, List.mem_singleton, not_or] at h
    rw [column, List.foldl_append, List.foldl_cons, List.foldl_nil, if_neg (Ne.symm h.2), ← column, ih h.1,
      List.length_append, List.length_singleton]

/-- The columns are counted anew behind a line feed. -/
theorem column_append (piece bytes : Bytes) : column (piece ++ feed :: bytes) = column bytes := by
  rw [column, List.foldl_append, List.foldl_cons, if_pos rfl, ← column]

/-! ### Bytes of lines -/

/-- A line holds the bytes of its piece for which there is room, but for a carriage return at the end of a piece that
is not too long. -/
theorem getElem?_cut {max i : Nat} {piece : Bytes} {b : UInt8} :
    (cut max piece).bytes[i]? = some b ↔
      piece[i]? = some b ∧ i < max ∧ ¬ (piece.length ≤ max ∧ i + 1 = piece.length ∧ b = carriageReturn) := by
  rw [cut]
  split
  · next hlong => grind
  · next hshort =>
    rw [withoutReturn]
    split
    · next hreturn =>
      rw [List.getLast?_eq_getElem?] at hreturn
      rw [List.getElem?_dropLast]
      grind
    · next hreturn =>
      rw [List.getLast?_eq_getElem?] at hreturn
      grind

/-- A byte belongs to the line with the number of line feeds before it, and stands there as far from the start as it
stands from the last of them. -/
theorem exists_line (max : Nat) {b : UInt8} (hb : b ≠ feed) (before after : Bytes) :
    ∃ start : Bytes, start.length = column before ∧
      (linesOf max (before ++ b :: after))[before.count feed]? =
        some (cut max (start ++ b :: after.takeWhile (· ≠ feed))) := by
  induction hn : before.count feed generalizing before with
  | zero =>
    have hbefore : feed ∉ before := List.count_eq_zero.1 hn
    refine ⟨before, (column_of_notMem hbefore).symm, ?_⟩
    -- the line goes on to the next line feed, or to the end of the stream
    by_cases hafter : feed ∈ after
    · obtain ⟨rest, left, rfl, hrest⟩ := List.eq_append_cons_of_mem hafter
      have hpiece : feed ∉ before ++ b :: rest := by simp [hbefore, hrest, hb.symm]
      have hstream : before ++ b :: (rest ++ feed :: left) = (before ++ b :: rest) ++ feed :: left := by simp
      rw [takeWhile_append hrest, hstream, linesOf_append max hpiece]
      rfl
    · have hpiece : feed ∉ before ++ b :: after := by simp [hbefore, hafter, hb.symm]
      rw [takeWhile_of_notMem hafter, linesOf_of_notMem max hpiece (by simp)]
      rfl
  | succ n ih =>
    have hmem : feed ∈ before := List.count_pos_iff.1 (by omega)
    obtain ⟨piece, rest, rfl, hpiece⟩ := List.eq_append_cons_of_mem hmem
    have hcount : rest.count feed = n := by
      rw [List.count_append, List.count_eq_zero.2 hpiece, List.count_cons_self] at hn
      omega
    obtain ⟨start, hstart, hline⟩ := ih rest hcount
    refine ⟨start, by rw [column_append, hstart], ?_⟩
    rw [List.append_assoc, List.cons_append, linesOf_append max hpiece, List.getElem?_cons_succ, hline]

/-- Among the bytes of a stream with room in their lines that end no line, only a carriage return at the end of the
stream is not found in the lines. -/
theorem getElem?_linesOf {max : Nat} {before after : Bytes} {b : UInt8} (hends : ¬ EndsLine b after)
    (hroom : column before < max) :
    ((linesOf max (before ++ b :: after))[before.count feed]?.bind fun l => l.bytes[column before]?) = some b ↔
      ¬ (b = carriageReturn ∧ after = []) := by
  rw [EndsLine, not_or] at hends
  obtain ⟨hfeed, hreturn⟩ := hends
  obtain ⟨start, hstart, hline⟩ := exists_line max hfeed before after
  have hbyte : (start ++ b :: after.takeWhile (· ≠ feed))[column before]? = some b := by
    rw [← hstart, List.getElem?_append_right (Nat.le_refl _), Nat.sub_self, List.getElem?_cons_zero]
  -- the byte is the last one of its piece where the stream ends behind it, or a line feed follows
  have hlast : column before + 1 = (start ++ b :: after.takeWhile (· ≠ feed)).length ↔
      after = [] ∨ after.head? = some feed := by
    rw [List.length_append, List.length_cons, hstart]
    cases after with
    | nil => simp
    | cons c after => by_cases hc : c = feed <;> simp [hc]
  rw [hline, Option.bind_some, getElem?_cut, hlast]
  refine ⟨fun ⟨_, _, hkept⟩ ⟨hcr, hnil⟩ => hkept ⟨?_, Or.inl hnil, hcr⟩, fun hkept => ⟨hbyte, hroom, ?_⟩⟩
  · rw [← hlast.2 (Or.inl hnil)]
    exact hroom
  · rintro ⟨-, hnil | hhead, hcr⟩
    · exact hkept ⟨hcr, hnil⟩
    · exact hreturn ⟨hcr, hhead⟩

/-! ### Lines joined again -/

/-- A stream with bytes has lines. -/
theorem linesOf_ne_nil (max : Nat) {stream : Bytes} (h : stream ≠ []) : linesOf max stream ≠ [] := by
  by_cases hfeed : feed ∈ stream
  · obtain ⟨piece, rest, rfl, hpiece⟩ := List.eq_append_cons_of_mem hfeed
    rw [linesOf_append max hpiece]
    exact List.cons_ne_nil _ _
  · rw [linesOf_of_notMem max hfeed h]
    exact List.cons_ne_nil _ _

/-- Lines with line feeds between them. -/
def joined (lines : List Line) : Bytes := [feed].intercalate (lines.map Line.bytes)

/-- A line feed or a carriage return at the end of a stream. -/
def ending (stream : Bytes) : Bytes := stream.getLast?.toList.filter fun b => b = feed ∨ b = carriageReturn

theorem ending_append {rest : Bytes} (h : rest ≠ []) (front : Bytes) : ending (front ++ rest) = ending rest := by
  rw [ending, ending, List.getLast?_append, List.getLast?_eq_some_getLast h, Option.some_or]

/-- **Joining the lines of a stream leaves out no more than its ending**, where no line is too long and no carriage
return stands before a line feed. -/
theorem joined_append_ending {max : Nat} {stream : Bytes} (hshort : ∀ piece ∈ pieces stream, piece.length ≤ max)
    (hreturn : ¬ [carriageReturn, feed] <:+: stream) : joined (linesOf max stream) ++ ending stream = stream := by
  induction hn : stream.count feed generalizing stream with
  | zero =>
    have hfeed : feed ∉ stream := List.count_eq_zero.1 hn
    cases hlast : stream.getLast? with
    | none => simp [List.getLast?_eq_none_iff.1 hlast, joined, ending]
    | some b =>
      obtain ⟨front, rfl⟩ := List.getLast?_eq_some_iff.1 hlast
      have hb : b ≠ feed := fun heq => hfeed (heq ▸ by simp)
      rw [pieces_of_notMem hfeed (by simp), List.forall_mem_singleton] at hshort
      rw [linesOf_of_notMem max hfeed (by simp), joined, cut, if_neg (Nat.not_lt.2 hshort), withoutReturn, ending]
      by_cases hcr : b = carriageReturn
      · simp [hcr]
      · simp [hb, hcr]
  | succ n ih =>
    have hmem : feed ∈ stream := List.count_pos_iff.1 (by omega)
    obtain ⟨piece, rest, rfl, hpiece⟩ := List.eq_append_cons_of_mem hmem
    have hcount : rest.count feed = n := by
      rw [List.count_append, List.count_eq_zero.2 hpiece, List.count_cons_self] at hn
      omega
    rw [pieces_append hpiece, List.forall_mem_cons] at hshort
    have hline : (cut max piece).bytes = piece := by
      rw [cut, if_neg (Nat.not_lt.2 hshort.1), withoutReturn, if_neg]
      intro hlast
      obtain ⟨front, rfl⟩ := List.getLast?_eq_some_iff.1 hlast
      exact hreturn ⟨front, rest, by simp⟩
    rw [linesOf_append max hpiece]
    by_cases hrest : rest = []
    · simp [hrest, joined, hline, ending]
    · have htail : rest <:+: piece ++ feed :: rest := ⟨piece ++ [feed], [], by simp⟩
      have hjoined := ih hshort.2 (fun hpair => hreturn (hpair.trans htail)) hcount
      have hlines : (linesOf max rest).map Line.bytes ≠ [] := mt List.map_eq_nil_iff.1 (linesOf_ne_nil max hrest)
      rw [joined, List.map_cons, List.intercalate_cons_of_ne_nil hlines, ← joined, hline,
        List.append_cons piece feed rest, ending_append hrest, List.append_assoc, hjoined]

/-- Where the ending of a stream is left out, no more than a line feed is missing unless that is a carriage return. -/
theorem eq_up_to_feed_iff {front stream : Bytes} (h : front ++ ending stream = stream) :
    front = stream ∨ front ++ [feed] = stream ↔ stream.getLast? ≠ some carriageReturn := by
  rw [ending] at h
  cases hlast : stream.getLast? with
  | none =>
    rw [hlast, Option.toList_none, List.filter_nil, List.append_nil] at h
    exact iff_of_true (Or.inl h) nofun
  | some b =>
    rw [hlast, Option.toList_some] at h
    by_cases hcr : b = carriageReturn
    · have hending : front ++ [carriageReturn] = stream := by simpa [hcr] using h
      refine iff_of_false ?_ (not_not_intro (congrArg some hcr))
      rintro (heq | heq)
      · rw [← hending] at heq
        exact absurd heq (by simp)
      · exact absurd (List.append_cancel_left (heq.trans hending.symm)) (by decide)
    · refine iff_of_true ?_ fun heq => hcr (Option.some.inj heq)
      by_cases hfeed : b = feed
      · exact Or.inr (by simpa [hfeed] using h)
      · exact Or.inl (by simpa [hfeed, hcr] using h)

/-! ### Reading -/

/-- **All bytes with room are read, but for the ends of lines and a carriage return at the end of the stream.**

A byte that is not part of the end of a line, and that has room in its line, stands in that line at its column, unless it
is a carriage return at the end of the stream.  So where no line is too long and no carriage return stands before a line
feed, the lines with line feeds between them are the stream, up to a line feed at its end, just where no carriage return
ends it. -/
theorem reads_content (max : Nat) {buffers : List Bytes} (h : ∀ buffer ∈ buffers, buffer ≠ []) :
    (∀ before b after, buffers.flatten = before ++ b :: after → ¬ EndsLine b after → column before < max →
      (((readAll max buffers)[before.count feed]?.bind fun l => l.bytes[column before]?) = some b ↔
        ¬ (b = carriageReturn ∧ after = []))) ∧
    ((∀ piece ∈ pieces buffers.flatten, piece.length ≤ max) → ¬ [carriageReturn, feed] <:+: buffers.flatten →
      (joined (readAll max buffers) = buffers.flatten ∨ joined (readAll max buffers) ++ [feed] = buffers.flatten ↔
        buffers.flatten.getLast? ≠ some carriageReturn)) := by
  rw [readAll_eq max h]
  refine ⟨fun before b after hstream hends hroom => ?_, fun hshort hreturn => ?_⟩
  · rw [hstream]
    exact getElem?_linesOf hends hroom
  · exact eq_up_to_feed_iff (joined_append_ending hshort hreturn)

/-- A carriage return stands at the end of a buffer, with the last room in its line, and the next line is too long. -/
theorem reads_content_three_buffers :
    let buffers : List Bytes := [[97, 98, 13], [99, 10, 100], [101, 102, 103, 10]]
    (∀ buffer ∈ buffers, buffer ≠ []) ∧
      ((readAll 3 buffers)[0]?.bind fun l => l.bytes[2]?) = some carriageReturn ∧
      ((readAll 3 buffers)[1]?.bind fun l => l.bytes[2]?) = some 102 ∧
      joined (readAll 4 buffers) ++ [feed] = buffers.flatten := by
  intro buffers
  have hne : ∀ buffer ∈ buffers, buffer ≠ [] := by decide
  obtain ⟨hread, -⟩ := reads_content 3 hne
  obtain ⟨-, hjoined⟩ := reads_content 4 hne
  have hfirst := (hread [97, 98] 13 [99, 10, 100, 101, 102, 103, 10] rfl (by decide) (by decide)).2 (by decide)
  have hsecond := (hread [97, 98, 13, 99, 10, 100, 101] 102 [103, 10] rfl (by decide) (by decide)).2 (by decide)
  have hstream := (hjoined (by decide) (by decide)).2 (by decide)
  exact ⟨hne, hfirst, hsecond, hstream.resolve_left (by rw [readAll_eq 4 hne]; decide)⟩

/-- A carriage return at the end of a stream is content with room in its line, and is lost. -/
theorem reads_content_not_final_return :
    let buffers : List Bytes := [[97, 13]]
    (∀ buffer ∈ buffers, buffer ≠ []) ∧ buffers.flatten = [97] ++ carriageReturn :: [] ∧
      ¬ EndsLine carriageReturn [] ∧ column [97] < 8 ∧ readAll 8 buffers = [⟨[97], false⟩] := by
  intro buffers
  have hne : ∀ buffer ∈ buffers, buffer ≠ [] := by decide
  exact ⟨hne, rfl, by decide, by decide, (readAll_eq 8 hne).trans (by decide)⟩

end Line
end Logbook
