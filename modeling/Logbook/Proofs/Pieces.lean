import Logbook.Proofs.Elements
import Logbook.Proofs.Field

/-!
# The start and the end of packets

What the reader takes for the start of a packet, for structured data and for the text behind them.  Each piece is read
back in front of what may follow it, and nothing else is read.

## Main definitions

* `Syslog.ending` — what stands behind structured data.

## Main results

* `Syslog.start_run`, `Syslog.of_start_run` — the priority and the version.
* `Syslog.structuredData_run`, `Syslog.of_structuredData_run` — structured data.
* `Syslog.body_run`, `Syslog.of_body_run` — the text.
-/

namespace Logbook.Syslog

/-! ### The start of a packet -/

/-- The digits of the priority and of the version are read. -/
theorem start_run {priority version : Bytes} (hpriority : IsNumber priority) (hle : valueOf priority ≤ 191)
    (hversion : IsNumber version) (hnought : version.head? ≠ some 0x30) (total : Nat) (rest : Bytes) :
    (start total).run (opening :: (priority ++ closing :: (version ++ blank :: rest))) =
      .ok ((valueOf priority, valueOf version), blank :: rest) := by
  have hhead : (version ++ blank :: rest).head? ≠ some 0x30 := by
    rwa [hversion.head?_append]
  unfold start
  rw [run_bind_ok (expect_run _ _ _ _), run_bind_ok (number_run hpriority _ rfl _), if_neg (Nat.not_lt.2 hle),
    run_bind_ok (expect_run _ _ _ _), run_bind_ok rfl, if_neg hhead, run_bind_ok (number_run hversion _ rfl _)]
  rfl

/-- Only such digits are read as a priority and a version. -/
theorem of_start_run {total priority version : Nat} {bytes rest : Bytes}
    (h : (start total).run bytes = .ok ((priority, version), rest)) :
    ∃ ps vs, IsNumber ps ∧ priority = valueOf ps ∧ priority ≤ 191 ∧ IsNumber vs ∧ version = valueOf vs ∧
      vs.head? ≠ some 0x30 ∧ bytes = opening :: (ps ++ closing :: (vs ++ rest)) := by
  unfold start at h
  obtain ⟨_, _, hopening, h⟩ := of_run_bind h
  obtain ⟨_, _, hnumber, h⟩ := of_run_bind h
  obtain ⟨hle, h⟩ := of_run_unless h
  obtain ⟨_, _, hclosing, h⟩ := of_run_bind h
  rw [run_bind_ok rfl] at h
  obtain ⟨hnought, h⟩ := of_run_unless h
  obtain ⟨_, _, hnumber', h⟩ := of_run_bind h
  cases h
  obtain ⟨ps, hps, hpriority, rfl⟩ := of_number_run hnumber
  obtain ⟨vs, hvs, hversion, rfl⟩ := of_number_run hnumber'
  rw [hvs.head?_append] at hnought
  rw [of_expect_run hopening, of_expect_run hclosing]
  exact ⟨ps, vs, hps, hpriority, Nat.not_lt.1 hle, hvs, hversion, hnought, rfl⟩

/-- The priority and the version are read back. -/
theorem start_run_number {priority version : Nat} (hpriority : priority ≤ 191) (hversion : 1 ≤ version)
    (hversion' : version ≤ 999) (total : Nat) (rest : Bytes) :
    (start total).run (opening :: (Message.number priority ++ closing :: (Message.number version ++ blank :: rest))) =
      .ok ((priority, version), blank :: rest) := by
  have hnought := head?_number (Nat.one_le_iff_ne_zero.1 hversion) []
  rw [List.append_nil] at hnought
  have hrun := start_run (isNumber_number (show priority < 1000 by omega)) (by rwa [value_number])
    (isNumber_number (show version < 1000 by omega)) hnought total rest
  rwa [value_number, value_number] at hrun

/-! ### Structured data -/

theorem Elements.exists_cons {d : Bytes} (h : Elements d) : ∃ rest, d = bracket :: rest := by
  cases h with
  | one => exact ⟨_, rfl⟩
  | more => exact ⟨_, rfl⟩

/-- Structured data are read back. -/
theorem structuredData_run {value : Option String} (h : ∀ text ∈ value, Elements (Utf8.encode text)) {rest : Bytes}
    (hrest : rest.head? ≠ some bracket) :
    structuredData.run (Message.field value ++ rest) = .ok (value, rest) := by
  cases value with
  | none => rfl
  | some text =>
    have helements := h text rfl
    have hscan := scanData_elements helements hrest
    rw [Message.field]
    obtain ⟨data, hdata⟩ := helements.exists_cons
    have hdecode := Utf8.decode_encode text
    rw [hdata] at hscan hdecode ⊢
    rw [List.cons_append] at hscan ⊢
    unfold structuredData
    rw [run_bind_ok rfl]
    simp only
    rw [if_neg (by decide), if_pos trivial, hscan]
    simp only
    rw [run_bind_ok rfl, hdecode]
    rfl

/-- Structured data that are read stood at the start, and they are elements. -/
theorem of_structuredData_run {bytes rest : Bytes} {value : Option String}
    (h : structuredData.run bytes = .ok (value, rest)) :
    bytes = Message.field value ++ rest ∧ ∀ text ∈ value, Elements (Utf8.encode text) := by
  unfold structuredData at h
  rw [run_bind_ok rfl] at h
  cases bytes with
  | nil => cases h
  | cons b bytes =>
    simp only at h
    split at h
    case isTrue hb =>
      cases h
      rw [hb]
      exact ⟨rfl, fun text htext => nomatch htext⟩
    case isFalse =>
      split at h
      case isFalse => cases h
      case isTrue hb =>
        cases hscan : scanData .outside (b :: bytes) with
        | none => rw [hscan] at h; cases h
        | some scanned =>
          obtain ⟨data, after⟩ := scanned
          rw [hscan] at h
          simp only at h
          rw [run_bind_ok rfl] at h
          cases hdecode : Utf8.decode data with
          | error e => rw [hdecode] at h; cases h
          | ok text =>
            rw [hdecode] at h
            cases h
            obtain ⟨heq, hscanned⟩ := of_scanData hscan
            rw [Utf8.decode_eq_ok_iff.1 hdecode] at heq hscanned hscan
            refine ⟨heq, fun text' htext' => ?_⟩
            rw [← Option.some.inj htext']
            refine hscanned.resolve_left fun hnil => ?_
            -- the first bracket is scanned
            rw [hnil] at hscan
            rw [scanData_cons (by rw [DataState.next, if_pos hb])] at hscan
            cases hrest : scanData .inside bytes with
            | none => rw [hrest] at hscan; cases hscan
            | some r => rw [hrest] at hscan; cases hscan

/-! ### The text -/

/-- What stands behind the structured data: nothing, or a blank and a text. -/
def ending (message : Option Bytes) : Bytes :=
  match message with
  | some text => blank :: text
  | none => []

theorem head?_ending (message : Option Bytes) : (ending message).head? ≠ some bracket := by
  cases message with
  | none => exact nofun
  | some text =>
    intro h
    exact absurd (Option.some.inj h) (by decide)

/-- The text is read without a mark. -/
theorem body_run (total : Nat) (message : Option Bytes) :
    (body total).run (ending message) = .ok (message.map withoutMark, message.getD []) := by
  cases message with
  | none => rfl
  | some text =>
    unfold body
    rw [run_bind_ok rfl, if_neg (by exact Bool.false_ne_true), ending, run_bind_ok (expect_run _ _ _ _),
      run_bind_ok rfl]
    rfl

/-- What follows the structured data is nothing, or a blank and a text. -/
theorem of_body_run {total : Nat} {bytes rest : Bytes} {body' : Option Bytes}
    (h : (body total).run bytes = .ok (body', rest)) :
    ∃ message, body' = message.map withoutMark ∧ bytes = ending message := by
  unfold body at h
  rw [run_bind_ok rfl] at h
  split at h
  case isTrue hempty =>
    cases h
    exact ⟨none, rfl, List.isEmpty_iff.1 hempty⟩
  case isFalse =>
    obtain ⟨_, _, hblank, h⟩ := of_run_bind h
    cases h
    exact ⟨some _, rfl, of_expect_run hblank⟩

end Logbook.Syslog
