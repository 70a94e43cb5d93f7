import Logbook.Proofs.Elements
import Logbook.Proofs.Readers
import Logbook.Syslog.Scanning

/-!
# Scanning in place and reading from the start

A scanner at an offset does what the reader does with the bytes from there on.  So slices stay within the packet,
although an offset may pass its end on the way, behind a backslash that is the last byte.

## Main definitions

* `Syslog.Same` — whether a scan and a reading come to the same.
* `Syslog.Agrees` — whether a scanner does what a reader does.

## Main results

* `Syslog.scanData_eq_elementsEnd` — both find the same end of structured data.
* `Syslog.agrees_packet` — the scanner of packets agrees with their reader.
* `Syslog.scan_cases` — **a scan gives what is read, and never slices beyond the packet.**
-/

namespace Logbook.Syslog

variable {α β : Type} {input : Bytes}

/-- Whether a scan and a reading come to the same: to one value, where the reading leaves what stands behind the
offset of the scan, or to one fault. -/
inductive Same (input : Bytes) : Except Halt (α × Nat) → Except Fault (α × Bytes) → Prop
  /-- Both succeed. -/
  | ok (a : α) {pos : Nat} (h : pos ≤ input.length) : Same input (.ok (a, pos)) (.ok (a, input.drop pos))
  /-- Both fail. -/
  | error (fault : Fault) : Same input (.error (.fault fault)) (.error fault)

/-- Whether a scanner does at any offset within the packet what a reader does with the bytes from there on. -/
def Agrees (input : Bytes) (x : Scanner α) (y : Reader α) : Prop :=
  ∀ pos ≤ input.length, Same input (x.run pos) (y.run (input.drop pos))

/-! ### Putting agreeing pieces together -/

theorem Agrees.pure (a : α) : Agrees input (Pure.pure a) (Pure.pure a) := fun _ hpos => .ok a hpos

theorem Agrees.throw (fault : Fault) :
    Agrees (α := α) input (MonadExcept.throw (.fault fault)) (MonadExcept.throw fault) :=
  fun _ _ => .error fault

theorem Agrees.bind {x : Scanner α} {y : Reader α} {f : α → Scanner β} {g : α → Reader β} (h : Agrees input x y)
    (hrest : ∀ a, Agrees input (f a) (g a)) : Agrees input (x >>= f) (y >>= g) := by
  intro pos hpos
  have hsame := h pos hpos
  generalize hx : x.run pos = r, hy : y.run (input.drop pos) = r' at hsame
  cases hsame with
  | ok a hpos' =>
    rw [run_bind_ok hx, run_bind_ok hy]
    exact hrest a _ hpos'
  | error fault =>
    rw [run_bind_error hx, run_bind_error hy]
    exact .error fault

theorem Agrees.ite {x x' : Scanner α} {y y' : Reader α} (p : Prop) [Decidable p] (h : Agrees input x y)
    (h' : Agrees input x' y') : Agrees input (if p then x else x') (if p then y else y') := by
  split
  · exact h
  · exact h'

/-- A check that fails alike. -/
theorem Agrees.unless {x : Scanner α} {y : Reader α} {f : β → Scanner α} {g : β → Reader α} (p : Prop) [Decidable p]
    (fault : Fault) (h : Agrees input x y) :
    Agrees input (if p then MonadExcept.throw (.fault fault) >>= f else x)
      (if p then MonadExcept.throw fault >>= g else y) :=
  .ite p (fun _ _ => .error fault) h

/-! ### Runs of bytes -/

/-- The byte at an offset stands before those behind it. -/
theorem drop_eq_cons {pos : Nat} (h : pos < input.length) : input.drop pos = input[pos] :: input.drop (pos + 1) :=
  List.drop_eq_getElem_cons h

theorem head?_drop_eq (pos : Nat) : (input.drop pos).head? = input[pos]? := List.head?_drop

namespace Scanner

theorem peek_run (pos : Nat) : (peek input).run pos = .ok (input[pos]?, pos) := rfl

theorem slice_run {start stop : Nat} (h : start ≤ stop) (h' : stop ≤ input.length) (pos : Nat) :
    (slice input start stop).run pos = .ok ((input.drop start).take (stop - start), pos) := by
  rw [slice, if_pos ⟨h, h'⟩]
  rfl

/-- Where a run ends. -/
theorem runEnd_spec (p : UInt8 → Bool) {pos : Nat} (h : pos ≤ input.length) :
    pos ≤ runEnd input p pos ∧ runEnd input p pos ≤ input.length ∧
      (input.drop pos).take (runEnd input p pos - pos) = (input.drop pos).takeWhile p ∧
        input.drop (runEnd input p pos) = (input.drop pos).dropWhile p := by
  fun_induction runEnd input p pos with
  | case1 pos hlt hp ih =>
    obtain ⟨hle, hle', htake, hdrop⟩ := ih hlt
    rw [drop_eq_cons hlt, List.takeWhile_cons_of_pos hp, List.dropWhile_cons_of_pos hp]
    refine ⟨by omega, hle', ?_, hdrop⟩
    rw [show runEnd input p (pos + 1) - pos = runEnd input p (pos + 1) - (pos + 1) + 1 by omega, List.take_succ_cons,
      htake]
  | case2 pos hlt hp =>
    rw [Nat.sub_self, List.take_zero, drop_eq_cons hlt, List.takeWhile_cons_of_neg hp, List.dropWhile_cons_of_neg hp]
    exact ⟨Nat.le_refl pos, h, rfl, rfl⟩
  | case3 pos hlt =>
    rw [List.drop_eq_nil_of_le (Nat.not_lt.1 hlt)]
    exact ⟨Nat.le_refl pos, h, List.take_nil, rfl⟩

/-- A run is passed over. -/
theorem takeWhile_run (p : UInt8 → Bool) {pos : Nat} (h : pos ≤ input.length) :
    ∃ stop, stop ≤ input.length ∧ (input.drop pos).dropWhile p = input.drop stop ∧
      (takeWhile input p).run pos = .ok ((input.drop pos).takeWhile p, stop) := by
  obtain ⟨hle, hle', htake, hdrop⟩ := runEnd_spec p h
  refine ⟨_, hle', hdrop.symm, ?_⟩
  unfold takeWhile
  rw [run_bind_ok rfl]
  dsimp only
  rw [run_bind_ok rfl, slice_run hle hle', htake]

end Scanner

theorem agrees_expect (byte : UInt8) (place : String) :
    Agrees input (Scanner.expect input byte place) (expect input.length byte place) := by
  intro pos hpos
  unfold Scanner.expect expect
  rw [run_bind_ok (Scanner.peek_run pos), run_bind_ok rfl]
  by_cases hlt : pos < input.length
  · rw [drop_eq_cons hlt, List.getElem?_eq_getElem hlt]
    dsimp only
    by_cases hbyte : input[pos] = byte
    · rw [if_neg (not_not_intro (congrArg some hbyte)), if_pos hbyte]
      exact .ok () hlt
    · have hoffset : input.length - (input[pos] :: input.drop (pos + 1)).length = pos := by
        rw [List.length_cons, List.length_drop]
        omega
      rw [if_pos fun h => hbyte (Option.some.inj h), if_neg hbyte, hoffset]
      exact .error _
  · obtain rfl : pos = input.length := by omega
    rw [List.drop_length, List.getElem?_eq_none (Nat.le_refl _), if_pos (by exact nofun)]
    exact .error _

theorem agrees_number (name : String) : Agrees input (Scanner.number input name) (number name) := by
  intro pos hpos
  obtain ⟨stop, hstop, hdrop, hrun⟩ := Scanner.takeWhile_run isDigit hpos
  unfold Scanner.number number
  rw [run_bind_ok hrun, run_bind_ok rfl]
  dsimp only
  by_cases hlength :
      ((input.drop pos).takeWhile isDigit).isEmpty = true ∨ 3 < ((input.drop pos).takeWhile isDigit).length
  · rw [if_pos hlength, if_pos hlength]
    exact .error _
  · rw [if_neg hlength, if_neg hlength, hdrop]
    exact .ok _ hstop

theorem agrees_field (name : String) (max : Nat) :
    Agrees input (Scanner.field input name max) (field name max) := by
  intro pos hpos
  obtain ⟨stop, hstop, hdrop, hrun⟩ := Scanner.takeWhile_run (· ≠ blank) hpos
  unfold Scanner.field field
  rw [run_bind_ok hrun, run_bind_ok rfl]
  dsimp only
  generalize (input.drop pos).takeWhile (· ≠ blank) = token
  by_cases hempty : token.isEmpty = true
  · rw [if_pos hempty, if_pos hempty]
    exact .error _
  rw [if_neg hempty, if_neg hempty, run_bind_ok rfl, hdrop]
  -- from here on, both stand behind the field
  exact Agrees.ite _ (.pure _) (.unless _ _ (.unless _ _ (.pure _))) stop hstop

theorem agrees_timestamp : Agrees input (Scanner.timestamp input) timestamp := by
  refine (agrees_field "TIMESTAMP" 64).bind fun value => ?_
  cases value with
  | none => exact .pure none
  | some text =>
    dsimp only
    cases Stamp.read text.toList with
    | ok stamp => exact .pure (some stamp)
    | error fault => exact .throw _

/-! ### Structured data -/

/-- A byte at the start of a slice. -/
theorem cons_slice {pos stop : Nat} (h : pos < input.length) (hstop : pos + 1 ≤ stop) :
    input[pos] :: (input.drop (pos + 1)).take (stop - (pos + 1)) = (input.drop pos).take (stop - pos) := by
  rw [drop_eq_cons h, show stop - pos = stop - (pos + 1) + 1 by omega, List.take_succ_cons]

/-- Slices one behind another. -/
theorem slice_append_slice {pos mid stop : Nat} (h : pos ≤ mid) (hstop : mid ≤ stop) :
    (input.drop pos).take (mid - pos) ++ (input.drop mid).take (stop - mid) = (input.drop pos).take (stop - pos) := by
  rw [show stop - pos = (mid - pos) + (stop - mid) by omega, List.take_add, List.drop_drop,
    show pos + (mid - pos) = mid by omega]

/-- The state in an element. -/
def DataState.within (quoted : Bool) : DataState := if quoted then .quoted else .inside

/-- What is scanned from an offset in an element on, where the element ends at `stop`. -/
def upTo (input : Bytes) (pos : Nat) (stop : Option Nat) : Option (Bytes × Bytes) :=
  stop.bind fun stop => behind ((input.drop pos).take (stop - pos)) <$> scanData .outside (input.drop stop)

/-- A byte more of an element. -/
theorem scanData_upTo {state state' : DataState} {pos : Nat} {stop : Option Nat} (hlt : pos < input.length)
    (hnext : state.next input[pos] = some state') (hstop : ∀ n ∈ stop, pos + 1 ≤ n)
    (h : scanData state' (input.drop (pos + 1)) = upTo input (pos + 1) stop) :
    scanData state (input.drop pos) = upTo input pos stop := by
  cases stop with
  | none =>
    rw [drop_eq_cons hlt, scanData_cons hnext, h]
    rfl
  | some n =>
    have hbehind := scanData_behind hnext h
    rw [cons_slice hlt (hstop n rfl), ← drop_eq_cons hlt] at hbehind
    exact hbehind

/-- An element ends where the states say. -/
theorem scanData_within (quoted : Bool) (pos : Nat) :
    scanData (.within quoted) (input.drop pos) = upTo input pos (Scanner.elementEnd input quoted pos) := by
  have hgt {quoted : Bool} {pos : Nat} : ∀ n ∈ Scanner.elementEnd input quoted pos, pos < n :=
    fun _ hn => (Scanner.lt_of_elementEnd hn).1
  fun_induction Scanner.elementEnd input quoted pos with
  | case1 quoted pos hlt hbackslash ih =>
    obtain ⟨hb, rfl⟩ := hbackslash
    have hnext : DataState.quoted.next input[pos] = some .hidden := by
      rw [hb]
      rfl
    refine scanData_upTo hlt hnext (fun n hn => ?_) ?_
    · exact Nat.le_trans (Nat.le_succ _) (Nat.le_of_lt (hgt n hn))
    by_cases hlt' : pos + 1 < input.length
    · exact scanData_upTo hlt' rfl (fun n hn => Nat.le_of_lt (hgt n hn)) ih
    · -- the backslash is the last byte, and the offset behind the next one is beyond the end
      rw [List.drop_eq_nil_of_le (Nat.not_lt.1 hlt'), Scanner.elementEnd, dif_neg (by omega)]
      rfl
  | case2 quoted pos hlt hbackslash hquote ih =>
    refine scanData_upTo hlt ?_ (fun n hn => Nat.le_of_lt (hgt n hn)) ih
    rw [hquote]
    cases quoted <;> rfl
  | case3 quoted pos hlt hbackslash hquote hbracket =>
    obtain ⟨hb, hquoted⟩ := hbracket
    obtain rfl := Bool.eq_false_iff.2 hquoted
    have hnext : DataState.inside.next input[pos] = some .outside := by
      rw [hb]
      rfl
    have hone : (input.drop pos).take (pos + 1 - pos) = [input[pos]] := by
      rw [drop_eq_cons hlt, Nat.add_sub_cancel_left, List.take_succ_cons, List.take_zero]
    rw [upTo, Option.bind_some, hone, drop_eq_cons hlt]
    exact scanData_cons hnext _
  | case4 quoted pos hlt hbackslash hquote hbracket ih =>
    refine scanData_upTo hlt ?_ (fun n hn => Nat.le_of_lt (hgt n hn)) ih
    cases quoted with
    | true =>
      have hb : input[pos] ≠ backslash := fun hb => hbackslash ⟨hb, rfl⟩
      show DataState.quoted.next input[pos] = some .quoted
      rw [DataState.next, if_neg hb, if_neg hquote]
    | false =>
      have hb : input[pos] ≠ closingBracket := fun hb => hbracket ⟨hb, Bool.false_ne_true⟩
      show DataState.inside.next input[pos] = some .inside
      rw [DataState.next, if_neg hquote, if_neg hb]
  | case5 quoted pos hlt =>
    rw [List.drop_eq_nil_of_le (Nat.not_lt.1 hlt)]
    cases quoted <;> rfl

/-- Elements end behind the offset where they start, and within the packet. -/
theorem le_of_elementsEnd {pos stop : Nat} (hpos : pos ≤ input.length)
    (h : Scanner.elementsEnd input pos = some stop) : pos ≤ stop ∧ stop ≤ input.length := by
  fun_induction Scanner.elementsEnd input pos with
  | case1 pos hb mid hmid ih =>
    obtain ⟨hlt, hle⟩ := Scanner.lt_of_elementEnd hmid
    obtain ⟨hle', hstop⟩ := ih hle h
    exact ⟨by omega, hstop⟩
  | case2 => cases h
  | case3 pos hb =>
    obtain rfl := Option.some.inj h
    exact ⟨Nat.le_refl _, hpos⟩

/-- An element starts with a bracket. -/
theorem scanData_bracket {pos : Nat} (h : input[pos]? = some bracket) :
    scanData .outside (input.drop pos) = upTo input pos (Scanner.elementEnd input false (pos + 1)) := by
  obtain ⟨hlt, heq⟩ := List.getElem?_eq_some_iff.1 h
  have hnext : DataState.outside.next input[pos] = some .inside := by
    rw [heq]
    rfl
  exact scanData_upTo hlt hnext (fun n hn => Nat.le_of_lt (Scanner.lt_of_elementEnd hn).1)
    (scanData_within false (pos + 1))

/-- **Structured data end where the states say.** -/
theorem scanData_eq_elementsEnd {pos : Nat} (hpos : pos ≤ input.length) :
    scanData .outside (input.drop pos) =
      (Scanner.elementsEnd input pos).map fun stop => ((input.drop pos).take (stop - pos), input.drop stop) := by
  fun_induction Scanner.elementsEnd input pos with
  | case1 pos hb mid hmid ih =>
    obtain ⟨hle, hle'⟩ := Scanner.lt_of_elementEnd hmid
    rw [scanData_bracket hb, hmid, upTo, Option.bind_some, ih hle']
    cases hstop : Scanner.elementsEnd input mid with
    | none => rfl
    | some stop =>
      have hmore := (le_of_elementsEnd hle' hstop).1
      simp only [Option.map_eq_map, Option.map_some, behind]
      rw [slice_append_slice (by omega) hmore]
  | case2 pos hb hnone =>
    rw [scanData_bracket hb, hnone]
    rfl
  | case3 pos hb =>
    rw [Option.map_some, Nat.sub_self, List.take_zero]
    by_cases hlt : pos < input.length
    · have hne : input[pos] ≠ bracket := fun heq => hb (by rw [List.getElem?_eq_getElem hlt, heq])
      rw [drop_eq_cons hlt, scanData, DataState.next, if_neg hne]
    · rw [List.drop_eq_nil_of_le (Nat.not_lt.1 hlt)]
      rfl

theorem agrees_structuredData : Agrees input (Scanner.structuredData input) structuredData := by
  intro pos hpos
  unfold Scanner.structuredData structuredData
  rw [run_bind_ok (Scanner.peek_run pos), run_bind_ok rfl]
  by_cases hlt : pos < input.length
  · rw [drop_eq_cons hlt, List.getElem?_eq_getElem hlt]
    dsimp only
    by_cases hnil : input[pos] = nil
    · rw [if_pos hnil, if_pos hnil]
      exact .ok none hlt
    by_cases hbracket : input[pos] = bracket
    · rw [if_neg hnil, if_neg hnil, if_pos hbracket, if_pos hbracket, ← drop_eq_cons hlt,
        scanData_eq_elementsEnd hpos, run_bind_ok rfl]
      cases hstop : Scanner.elementsEnd input pos with
      | none => exact .error _
      | some stop =>
        obtain ⟨hle, hle'⟩ := le_of_elementsEnd hpos hstop
        dsimp only [Option.map_some]
        rw [run_bind_ok rfl, run_bind_ok (Scanner.slice_run hle hle' stop), run_bind_ok rfl]
        cases Utf8.decode ((input.drop pos).take (stop - pos)) with
        | ok text => exact .ok (some text) hle'
        | error e => exact .error _
    · rw [if_neg hnil, if_neg hnil, if_neg hbracket, if_neg hbracket]
      exact .error _
  · obtain rfl : pos = input.length := by omega
    rw [List.drop_length, List.getElem?_eq_none (Nat.le_refl _)]
    exact .error _

/-! ### The whole packet -/

theorem agrees_body : Agrees input (Scanner.body input) (body input.length) := by
  intro pos hpos
  unfold Scanner.body body
  rw [run_bind_ok (Scanner.peek_run pos), run_bind_ok rfl]
  by_cases hlt : pos < input.length
  · rw [drop_eq_cons hlt, List.getElem?_eq_getElem hlt, if_neg (by exact Bool.false_ne_true),
      if_neg (by exact Bool.false_ne_true), ← drop_eq_cons hlt]
    refine (agrees_expect blank _).bind (fun _ => ?_) pos hpos
    intro mid hmid
    have hslice := Scanner.slice_run hmid (Nat.le_refl _) mid
    rw [List.take_of_length_le (Nat.le_of_eq List.length_drop)] at hslice
    rw [run_bind_ok rfl, run_bind_ok hslice, run_bind_ok rfl]
    exact .ok _ hmid
  · have hend : Same input (.ok ((none : Option Bytes), pos)) (.ok (none, input.drop pos)) := .ok none hpos
    rw [List.drop_eq_nil_of_le (Nat.not_lt.1 hlt)] at hend ⊢
    rw [List.getElem?_eq_none (Nat.not_lt.1 hlt)]
    exact hend

theorem agrees_start : Agrees input (Scanner.start input) (start input.length) := by
  refine (agrees_expect _ _).bind fun _ => (agrees_number _).bind fun priority => ?_
  refine .unless _ _ ((agrees_expect _ _).bind fun _ => ?_)
  intro pos hpos
  rw [run_bind_ok (Scanner.peek_run pos), run_bind_ok rfl, head?_drop_eq]
  exact Agrees.unless _ _ ((agrees_number _).bind fun _ => .pure _) pos hpos

theorem agrees_nextField (previous name : String) (max : Nat) :
    Agrees input (Scanner.nextField input previous name max) (nextField input.length previous name max) :=
  (agrees_expect blank _).bind fun _ => agrees_field name max

/-- **The scanner of packets agrees with their reader.** -/
theorem agrees_packet : Agrees input (Scanner.packet input) (packet input.length) := by
  refine agrees_start.bind ?_
  rintro ⟨priority, version⟩
  refine (agrees_expect _ _).bind fun _ => ?_
  refine agrees_timestamp.bind fun _ => ?_
  refine (agrees_nextField _ _ _).bind fun _ => ?_
  refine (agrees_nextField _ _ _).bind fun _ => ?_
  refine (agrees_nextField _ _ _).bind fun _ => ?_
  refine (agrees_nextField _ _ _).bind fun _ => ?_
  refine (agrees_expect _ _).bind fun _ => ?_
  refine agrees_structuredData.bind fun _ => ?_
  exact agrees_body.bind fun _ => .pure _

/-- **A scan gives what is read, and never slices beyond the packet.** -/
theorem scan_cases (bytes : Bytes) :
    (∃ m, scan bytes = .ok m ∧ read bytes = .ok m) ∨
      ∃ fault, scan bytes = .error (.fault fault) ∧ read bytes = .error (.malformed fault.message) := by
  have hsame : Same bytes ((Scanner.packet bytes).run 0) ((packet bytes.length).run bytes) :=
    agrees_packet 0 (Nat.zero_le _)
  rw [scan, read]
  generalize (Scanner.packet bytes).run 0 = r, (packet bytes.length).run bytes = r' at hsame ⊢
  cases hsame with
  | ok m hpos => exact Or.inl ⟨m, rfl, rfl⟩
  | error fault => exact Or.inr ⟨fault, rfl, rfl⟩

end Logbook.Syslog
