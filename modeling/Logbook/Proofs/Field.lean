import Logbook.Proofs.Decimal
import Logbook.Proofs.Readers
import Logbook.Proofs.Utf8
import Logbook.Syslog.Reading

/-!
# Numbers and fields of packets

What the reader takes for a number or for a field of the header, and which numbers and fields it reads back.

## Main definitions

* `Syslog.IsNumber`, `Syslog.valueOf` — the digits of a number, and the number that they spell.
* `Syslog.FitsField` — the values that a field of the header can have.

## Main results

* `Syslog.number_run`, `Syslog.of_number_run` — one to three digits are read as a number, and nothing else is.
* `Syslog.field_run`, `Syslog.fits_of_field` — **fields that fit are read back, and only such are read.**
-/

namespace Logbook.Syslog

theorem isVisible_iff (b : UInt8) : isVisible b = true ↔ 33 ≤ b.toNat ∧ b.toNat ≤ 126 := by
  rw [isVisible, Bool.and_eq_true, decide_eq_true_iff, decide_eq_true_iff, UInt8.le_iff_toNat_le,
    UInt8.le_iff_toNat_le]
  exact Iff.rfl

theorem ne_blank_of_isVisible {b : UInt8} (h : isVisible b = true) : b ≠ blank := by
  rintro rfl
  cases h

/-! ### Numbers -/

/-- The number that digits spell. -/
def valueOf (digits : Bytes) : Nat := Positional.value 10 (digits.map fun b => b.toNat - 0x30)

/-- Whether bytes are one to three digits. -/
structure IsNumber (digits : Bytes) : Prop where
  /-- There is a digit. -/
  ne_nil : digits ≠ []
  /-- There are at most three. -/
  length_le : digits.length ≤ 3
  /-- There is nothing else. -/
  digits : ∀ b ∈ digits, isDigit b = true

theorem IsNumber.head?_append {digits : Bytes} (h : IsNumber digits) (rest : Bytes) :
    (digits ++ rest).head? = digits.head? := by
  cases digits with
  | nil => exact absurd rfl h.ne_nil
  | cons b digits => rfl

/-- Digits are read up to what follows them. -/
theorem number_run {digits : Bytes} (h : IsNumber digits) (name : String) {c : UInt8} (hc : isDigit c = false)
    (rest : Bytes) : (number name).run (digits ++ c :: rest) = .ok (valueOf digits, c :: rest) := by
  have htake : (digits ++ c :: rest).takeWhile isDigit = digits := by
    rw [List.takeWhile_append_of_pos h.digits, List.takeWhile_cons_of_neg (by rw [hc]; exact Bool.false_ne_true),
      List.append_nil]
  have hdrop : (digits ++ c :: rest).dropWhile isDigit = c :: rest := by
    rw [List.dropWhile_append_of_pos h.digits, List.dropWhile_cons_of_neg (by rw [hc]; exact Bool.false_ne_true)]
  have hlength : ¬ (digits.isEmpty = true ∨ 3 < digits.length) := by
    rw [List.isEmpty_iff]
    exact not_or.2 ⟨h.ne_nil, Nat.not_lt.2 h.length_le⟩
  unfold number
  rw [run_bind_ok rfl]
  simp only [htake, hdrop]
  rw [if_neg hlength, run_bind_ok rfl]
  rfl

/-- Only digits are read as a number. -/
theorem of_number_run {name : String} {bytes rest : Bytes} {n : Nat} (h : (number name).run bytes = .ok (n, rest)) :
    ∃ digits, IsNumber digits ∧ n = valueOf digits ∧ bytes = digits ++ rest := by
  unfold number at h
  rw [run_bind_ok rfl] at h
  dsimp only at h
  obtain ⟨hlength, h⟩ := of_run_unless h
  obtain ⟨hne, hle⟩ := not_or.1 hlength
  rw [run_bind_ok rfl] at h
  cases h
  exact ⟨_, ⟨mt List.isEmpty_iff.2 hne, Nat.not_lt.1 hle, List.all_eq_true.1 List.all_takeWhile⟩, rfl,
    List.takeWhile_append_dropWhile.symm⟩

theorem isDigit_bounds {b : UInt8} (h : isDigit b = true) :
    b.toNat - 0x30 < 10 ∧ (b ≠ 0x30 → 1 ≤ b.toNat - 0x30) := by
  rw [isDigit, Bool.and_eq_true, decide_eq_true_iff, decide_eq_true_iff, UInt8.le_iff_toNat_le,
    UInt8.le_iff_toNat_le] at h
  obtain ⟨hle, hle'⟩ : 48 ≤ b.toNat ∧ b.toNat ≤ 57 := h
  refine ⟨by omega, fun hne => ?_⟩
  have : b.toNat ≠ 48 := fun heq => hne (UInt8.toNat_inj.1 heq)
  omega

theorem le_foldl (ds : List Nat) (n : Nat) : n ≤ ds.foldl (fun n d => n * 10 + d) n := by
  induction ds generalizing n with
  | nil => exact Nat.le_refl n
  | cons d ds ih =>
    have hle := ih (n * 10 + d)
    rw [List.foldl_cons]
    omega

/-- Digits spell a number below a thousand, and not zero when the first is no nought. -/
theorem IsNumber.bounds {digits : Bytes} (h : IsNumber digits) :
    valueOf digits < 1000 ∧ (digits.head? ≠ some 0x30 → 1 ≤ valueOf digits) := by
  constructor
  · have hlt : valueOf digits < 10 ^ (digits.map fun b => b.toNat - 0x30).length := by
      refine Positional.value_lt fun d hd => ?_
      obtain ⟨b, hb, rfl⟩ := List.mem_map.1 hd
      exact (isDigit_bounds (h.digits b hb)).1
    rw [List.length_map] at hlt
    exact Nat.lt_of_lt_of_le hlt (Nat.pow_le_pow_right (Nat.succ_pos 9) h.length_le)
  · intro hnought
    cases digits with
    | nil => exact absurd rfl h.ne_nil
    | cons b digits =>
      have hone := (isDigit_bounds (h.digits b List.mem_cons_self)).2 fun hb => hnought (congrArg some hb)
      have hle := le_foldl (digits.map fun b => b.toNat - 0x30) (b.toNat - 0x30)
      rw [valueOf, Positional.value, List.map_cons, List.foldl_cons, Nat.zero_mul, Nat.zero_add]
      exact Nat.le_trans hone hle

/-! ### The digits of a number -/

theorem value_number (n : Nat) : valueOf (Message.number n) = n := by
  have hmap : (Message.number n).map (fun b => b.toNat - 0x30) = (Decimal.natural n).map fun c => c.toNat - 48 := by
    rw [Message.number, List.map_map]
    refine List.map_congr_left fun c hc => ?_
    obtain ⟨d, hd, rfl⟩ := Decimal.exists_of_mem_natural hc
    have hdigits : ∀ d < 10, (UInt8.ofNat (Decimal.digitChar d).toNat).toNat - 0x30 =
        (Decimal.digitChar d).toNat - 48 := by decide
    exact hdigits d hd
  rw [valueOf, hmap]
  exact Decimal.valueOf_natural n

/-- Only zero starts with a nought. -/
theorem head?_number {n : Nat} (h : n ≠ 0) (rest : Bytes) : (Message.number n ++ rest).head? ≠ some 0x30 := by
  rw [Message.number, List.head?_append, List.head?_map]
  cases hhead : (Decimal.natural n).head? with
  | none => exact absurd (List.head?_eq_none_iff.1 hhead) (Decimal.natural_ne_nil n)
  | some c =>
    intro heq
    obtain ⟨d, hd, rfl⟩ := Decimal.exists_of_mem_natural (List.mem_of_mem_head? hhead)
    have hdigits : ∀ d < 10, UInt8.ofNat (Decimal.digitChar d).toNat = 0x30 → Decimal.digitChar d = '0' := by decide
    exact Decimal.head?_natural h (by rw [hhead, hdigits d hd (Option.some.inj heq)])

/-- A number below a thousand has one to three digits. -/
theorem isNumber_number {n : Nat} (hn : n < 1000) : IsNumber (Message.number n) where
  ne_nil := mt List.map_eq_nil_iff.1 (Decimal.natural_ne_nil n)
  length_le := by
    rw [Message.number, List.length_map]
    exact (Decimal.length_natural_le_iff (by decide)).2 hn
  digits := by
    intro b hb
    obtain ⟨c, hc, rfl⟩ := List.mem_map.1 hb
    obtain ⟨d, hd, rfl⟩ := Decimal.exists_of_mem_natural hc
    have hdigits : ∀ d < 10, isDigit (UInt8.ofNat (Decimal.digitChar d).toNat) = true := by decide
    exact hdigits d hd

/-! ### Fields -/

/-- The values that a field of the header can have: nil, or some visible ASCII characters, not too many and not just
a dash. -/
def FitsField (max : Nat) (value : Option String) : Prop :=
  ∀ text ∈ value, text ≠ "" ∧ text ≠ "-" ∧ (Utf8.encode text).length ≤ max ∧
    ∀ b ∈ Utf8.encode text, 33 ≤ b.toNat ∧ b.toNat ≤ 126

/-- A text fits if checks of its bytes succeed. -/
theorem fitsField_some_iff {max : Nat} {text : String} : FitsField max (some text) ↔
    text ≠ "" ∧ text ≠ "-" ∧ (Utf8.encode text).length ≤ max ∧ (Utf8.encode text).all isVisible = true := by
  have hall : (Utf8.encode text).all isVisible = true ↔ ∀ b ∈ Utf8.encode text, 33 ≤ b.toNat ∧ b.toNat ≤ 126 :=
    List.all_eq_true.trans (forall₂_congr fun b _ => isVisible_iff b)
  rw [hall]
  refine ⟨fun h => h text rfl, fun h text' htext => ?_⟩
  rwa [← Option.some.inj htext]

instance {max : Nat} {text : String} : Decidable (FitsField max (some text)) :=
  decidable_of_iff _ fitsField_some_iff.symm

theorem encode_dash : Utf8.encode "-" = [nil] := by decide

/-- A text with visible ASCII characters only is that of its bytes. -/
theorem ofList_encode {text : String} (h : ∀ b ∈ Utf8.encode text, 33 ≤ b.toNat ∧ b.toNat ≤ 126) :
    String.ofList ((Utf8.encode text).map fun b => Char.ofNat b.toNat) = text := by
  refine Utf8.encode_injective (Utf8.encode_ofList fun b hb => ?_)
  have := h b hb
  omega

/-- A text of visible characters is read up to the blank behind it. -/
theorem field_run_some {text : String} (hempty : text ≠ "") (hdash : text ≠ "-")
    (hvisible : ∀ b ∈ Utf8.encode text, 33 ≤ b.toNat ∧ b.toNat ≤ 126) (name : String) (max : Nat)
    (rest : Bytes) :
    (field name max).run (Utf8.encode text ++ blank :: rest) =
      if max < (Utf8.encode text).length then .error (.tooLong name max) else .ok (some text, blank :: rest) := by
  have hall : ∀ b ∈ Utf8.encode text, isVisible b = true := fun b hb => (isVisible_iff b).2 (hvisible b hb)
  have hblank : ∀ b ∈ Utf8.encode text, decide (b ≠ blank) = true := fun b hb =>
    decide_eq_true (ne_blank_of_isVisible (hall b hb))
  have htake : (Utf8.encode text ++ blank :: rest).takeWhile (· ≠ blank) = Utf8.encode text := by
    rw [List.takeWhile_append_of_pos hblank, List.takeWhile_cons_of_neg (by decide), List.append_nil]
  have hdrop : (Utf8.encode text ++ blank :: rest).dropWhile (· ≠ blank) = blank :: rest := by
    rw [List.dropWhile_append_of_pos hblank, List.dropWhile_cons_of_neg (by decide)]
  have hne : ¬ (Utf8.encode text).isEmpty = true := fun hnil =>
    hempty (Utf8.encode_injective (List.isEmpty_iff.1 hnil))
  have hnil : Utf8.encode text ≠ [nil] := fun heq => hdash (Utf8.encode_injective (heq.trans encode_dash.symm))
  unfold field
  rw [run_bind_ok rfl]
  simp only [htake, hdrop]
  rw [if_neg hne, run_bind_ok rfl, if_neg hnil]
  split
  · rfl
  · rw [if_neg (not_not_intro (List.all_eq_true.2 hall)), ofList_encode hvisible]
    rfl

/-- A field that fits is read back. -/
theorem field_run {max : Nat} {value : Option String} (h : FitsField max value) (name : String) (rest : Bytes) :
    (field name max).run (Message.field value ++ blank :: rest) = .ok (value, blank :: rest) := by
  cases value with
  | none => rfl
  | some text =>
    obtain ⟨hempty, hdash, hlength, hvisible⟩ := h text rfl
    rw [Message.field, field_run_some hempty hdash hvisible, if_neg (Nat.not_lt.2 hlength)]

/-- A field that is read fits. -/
theorem fits_of_field {name : String} {max : Nat} {bytes rest : Bytes} {value : Option String}
    (h : (field name max).run bytes = .ok (value, rest)) : FitsField max value := by
  unfold field at h
  rw [run_bind_ok rfl] at h
  dsimp only at h
  obtain ⟨hempty, h⟩ := of_run_unless h
  rw [run_bind_ok rfl] at h
  generalize bytes.takeWhile (· ≠ blank) = token at hempty h
  split at h
  case isTrue =>
    cases h
    exact fun text htext => nomatch htext
  case isFalse hdash =>
    obtain ⟨hlength, h⟩ := of_run_unless h
    obtain ⟨hvisible, h⟩ := of_run_unless h
    cases h
    have hbytes : ∀ b ∈ token, 33 ≤ b.toNat ∧ b.toNat ≤ 126 := fun b hb =>
      (isVisible_iff b).1 (List.all_eq_true.1 (Decidable.not_not.1 hvisible) b hb)
    have hencode := Utf8.encode_ofList fun b hb => Nat.lt_of_le_of_lt (hbytes b hb).2 (by decide)
    intro text htext
    rw [← Option.some.inj htext]
    refine ⟨fun heq => ?_, fun heq => ?_, ?_, ?_⟩
    · rw [heq] at hencode
      exact hempty (List.isEmpty_iff.2 hencode.symm)
    · rw [heq, encode_dash] at hencode
      exact hdash hencode.symm
    · rw [hencode]
      exact Nat.not_lt.1 hlength
    · rw [hencode]
      exact hbytes

/-- A field that is read stood at the start. -/
theorem eq_of_field {name : String} {max : Nat} {bytes rest : Bytes} {value : Option String}
    (h : (field name max).run bytes = .ok (value, rest)) : bytes = Message.field value ++ rest := by
  unfold field at h
  rw [run_bind_ok rfl] at h
  dsimp only at h
  obtain ⟨-, h⟩ := of_run_unless h
  rw [run_bind_ok rfl] at h
  have hbytes := (List.takeWhile_append_dropWhile (p := (· ≠ blank)) (l := bytes)).symm
  generalize bytes.takeWhile (· ≠ blank) = token at h hbytes
  split at h
  case isTrue hdash =>
    cases h
    rw [hdash] at hbytes
    exact hbytes
  case isFalse =>
    obtain ⟨-, h⟩ := of_run_unless h
    obtain ⟨hvisible, h⟩ := of_run_unless h
    cases h
    rw [Message.field, Utf8.encode_ofList]
    · exact hbytes
    · intro b hb
      have := (isVisible_iff b).1 (List.all_eq_true.1 (Decidable.not_not.1 hvisible) b hb)
      omega

theorem expect_run (total : Nat) (byte : UInt8) (place : String) (rest : Bytes) :
    (expect total byte place).run (byte :: rest) = .ok ((), rest) := by
  show StateT.run (if byte = byte then _ else _) _ = _
  rw [if_pos rfl]
  rfl

theorem of_expect_run {total : Nat} {byte : UInt8} {place : String} {bytes rest : Bytes} {u : Unit}
    (h : (expect total byte place).run bytes = .ok (u, rest)) : bytes = byte :: rest := by
  unfold expect at h
  rw [run_bind_ok rfl] at h
  cases bytes with
  | nil => cases h
  | cons b bytes =>
    dsimp only at h
    split at h
    case isTrue hb => cases h; rw [hb]
    case isFalse => cases h

/-- The next field is read back. -/
theorem nextField_run {max : Nat} {value : Option String} (h : FitsField max value) (total : Nat)
    (previous name : String) (rest : Bytes) :
    (nextField total previous name max).run (blank :: (Message.field value ++ blank :: rest)) =
      .ok (value, blank :: rest) := by
  rw [nextField, run_bind_ok (expect_run _ _ _ _), field_run h]

/-- The next field stood behind a blank, and it fits. -/
theorem of_nextField {total max : Nat} {previous name : String} {bytes rest : Bytes} {value : Option String}
    (h : (nextField total previous name max).run bytes = .ok (value, rest)) :
    bytes = blank :: (Message.field value ++ rest) ∧ FitsField max value := by
  rw [nextField] at h
  obtain ⟨_, _, hblank, h⟩ := of_run_bind h
  rw [of_expect_run hblank, eq_of_field h]
  exact ⟨rfl, fits_of_field h⟩

end Logbook.Syslog
