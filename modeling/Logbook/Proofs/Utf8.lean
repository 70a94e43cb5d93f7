import Logbook.Text.Utf8

/-!
# What encoding keeps

The reader takes the bytes of a text apart into exactly its characters, so a text can be read back from its
bytes, and texts without a NUL have bytes without zeros.

## Main results

* `Utf8.decode_encode`, `Utf8.decode_eq_ok_iff` — a text is read back from its bytes, and from no others.
* `Utf8.encode_injective` — texts with the same bytes are equal.
* `Utf8.zero_mem_encode_iff` — zero bytes come from NULs only.
* `Utf8.flatMap_encodeChar`, `Utf8.encode_ofList` — ASCII texts and their bytes have the same numbers.
-/

namespace Logbook
namespace Utf8

/-! ### Bytes as numbers -/

theorem ofNat_lt_iff {m n : Nat} (hm : m < 256) (hn : n < 256) :
    UInt8.ofNat m < UInt8.ofNat n ↔ m < n := by
  rw [UInt8.lt_iff_toNat_lt, UInt8.toNat_ofNat', UInt8.toNat_ofNat', Nat.mod_eq_of_lt hm,
    Nat.mod_eq_of_lt hn]

theorem ofNat_eq_iff {m n : Nat} (hm : m < 256) (hn : n < 256) :
    UInt8.ofNat m = UInt8.ofNat n ↔ m = n := by
  rw [← UInt8.toNat_inj, UInt8.toNat_ofNat', UInt8.toNat_ofNat', Nat.mod_eq_of_lt hm,
    Nat.mod_eq_of_lt hn]

theorem toNat_ofNat {n : Nat} (hn : n < 256) : (UInt8.ofNat n).toNat = n := by
  rw [UInt8.toNat_ofNat', Nat.mod_eq_of_lt hn]

/-! ### First bytes -/

theorem lead_single {n : Nat} (h : n < 0x80) : lead (UInt8.ofNat n) = .single (Char.ofNat n) := by
  have hlt : UInt8.ofNat n < 0x80 := (ofNat_lt_iff (n := 0x80) (by omega) (by omega)).2 h
  rw [lead, if_pos hlt, toNat_ofNat (by omega)]

theorem lead_two {n : Nat} (h : 0xC2 ≤ n) (h' : n < 0xE0) :
    lead (UInt8.ofNat n) = .longer { seen := 1, missing := 1, bits := n - 0xC0 } := by
  have h₁ : ¬ UInt8.ofNat n < 0x80 := mt (ofNat_lt_iff (n := 0x80) (by omega) (by omega)).1 (by omega)
  have h₂ : ¬ UInt8.ofNat n < 0xC2 := mt (ofNat_lt_iff (n := 0xC2) (by omega) (by omega)).1 (by omega)
  have h₃ : UInt8.ofNat n < 0xE0 := (ofNat_lt_iff (n := 0xE0) (by omega) (by omega)).2 h'
  rw [lead, if_neg h₁, if_neg h₂, if_pos h₃, toNat_ofNat (by omega)]

theorem lead_three {n : Nat} (h : 0xE0 ≤ n) (h' : n < 0xF0) :
    lead (UInt8.ofNat n) = .longer
      { seen := 1, missing := 2, bits := n - 0xE0
        least := if n = 0xE0 then 0xA0 else 0x80
        greatest := if n = 0xED then 0x9F else 0xBF } := by
  have h₁ : ¬ UInt8.ofNat n < 0x80 := mt (ofNat_lt_iff (n := 0x80) (by omega) (by omega)).1 (by omega)
  have h₂ : ¬ UInt8.ofNat n < 0xC2 := mt (ofNat_lt_iff (n := 0xC2) (by omega) (by omega)).1 (by omega)
  have h₃ : ¬ UInt8.ofNat n < 0xE0 := mt (ofNat_lt_iff (n := 0xE0) (by omega) (by omega)).1 (by omega)
  have h₄ : UInt8.ofNat n < 0xF0 := (ofNat_lt_iff (n := 0xF0) (by omega) (by omega)).2 h'
  have h₅ : UInt8.ofNat n = 0xE0 ↔ n = 0xE0 := ofNat_eq_iff (n := 0xE0) (by omega) (by omega)
  have h₆ : UInt8.ofNat n = 0xED ↔ n = 0xED := ofNat_eq_iff (n := 0xED) (by omega) (by omega)
  rw [lead, if_neg h₁, if_neg h₂, if_neg h₃, if_pos h₄, toNat_ofNat (by omega)]
  simp only [h₅, h₆]

theorem lead_four {n : Nat} (h : 0xF0 ≤ n) (h' : n < 0xF5) :
    lead (UInt8.ofNat n) = .longer
      { seen := 1, missing := 3, bits := n - 0xF0
        least := if n = 0xF0 then 0x90 else 0x80
        greatest := if n = 0xF4 then 0x8F else 0xBF } := by
  have h₁ : ¬ UInt8.ofNat n < 0x80 := mt (ofNat_lt_iff (n := 0x80) (by omega) (by omega)).1 (by omega)
  have h₂ : ¬ UInt8.ofNat n < 0xC2 := mt (ofNat_lt_iff (n := 0xC2) (by omega) (by omega)).1 (by omega)
  have h₃ : ¬ UInt8.ofNat n < 0xE0 := mt (ofNat_lt_iff (n := 0xE0) (by omega) (by omega)).1 (by omega)
  have h₄ : ¬ UInt8.ofNat n < 0xF0 := mt (ofNat_lt_iff (n := 0xF0) (by omega) (by omega)).1 (by omega)
  have h₅ : UInt8.ofNat n < 0xF5 := (ofNat_lt_iff (n := 0xF5) (by omega) (by omega)).2 h'
  have h₆ : UInt8.ofNat n = 0xF0 ↔ n = 0xF0 := ofNat_eq_iff (n := 0xF0) (by omega) (by omega)
  have h₇ : UInt8.ofNat n = 0xF4 ↔ n = 0xF4 := ofNat_eq_iff (n := 0xF4) (by omega) (by omega)
  rw [lead, if_neg h₁, if_neg h₂, if_neg h₃, if_neg h₄, if_pos h₅, toNat_ofNat (by omega)]
  simp only [h₆, h₇]

/-! ### Further bytes -/

/-- A byte that carries the six bits `n` and that the sequence allows is taken into it. -/
theorem partsFrom_some {s : Unfinished} {n : Nat} (hn : n < 64) (hleast : s.least.toNat ≤ n + 0x80)
    (hgreatest : n + 0x80 ≤ s.greatest.toNat) (rest : Bytes) :
    partsFrom (some s) (UInt8.ofNat (n + 0x80) :: rest) =
      if s.missing = 1 then .char (Char.ofNat (s.bits * 64 + n)) :: partsFrom none rest
      else partsFrom (some
        { seen := s.seen + 1, missing := s.missing - 1, bits := s.bits * 64 + n }) rest := by
  have htoNat : (UInt8.ofNat (n + 0x80)).toNat = n + 0x80 := toNat_ofNat (by omega)
  have hbounds : s.least ≤ UInt8.ofNat (n + 0x80) ∧ UInt8.ofNat (n + 0x80) ≤ s.greatest := by
    rw [UInt8.le_iff_toNat_le, UInt8.le_iff_toNat_le, htoNat]
    exact ⟨hleast, hgreatest⟩
  have hpush : s.push (UInt8.ofNat (n + 0x80)) =
      { seen := s.seen + 1, missing := s.missing - 1, bits := s.bits * 64 + n } := by
    rw [Unfinished.push, htoNat, Nat.add_sub_cancel]
  rw [partsFrom, if_pos hbounds, hpush]

/-! ### Texts -/

/-- The bytes of a character, by the size of its code point. -/
theorem encodeChar_eq (c : Char) :
    String.utf8EncodeChar c =
      if c.toNat ≤ 0x7F then [UInt8.ofNat c.toNat]
      else if c.toNat ≤ 0x7FF then
        [UInt8.ofNat (c.toNat / 64 % 32 + 0xC0), UInt8.ofNat (c.toNat % 64 + 0x80)]
      else if c.toNat ≤ 0xFFFF then
        [UInt8.ofNat (c.toNat / 4096 % 16 + 0xE0), UInt8.ofNat (c.toNat / 64 % 64 + 0x80),
          UInt8.ofNat (c.toNat % 64 + 0x80)]
      else
        [UInt8.ofNat (c.toNat / 262144 % 8 + 0xF0), UInt8.ofNat (c.toNat / 4096 % 64 + 0x80),
          UInt8.ofNat (c.toNat / 64 % 64 + 0x80), UInt8.ofNat (c.toNat % 64 + 0x80)] := rfl

/-- The bytes of a character are read as that character. -/
theorem partsFrom_encodeChar (c : Char) (rest : Bytes) :
    partsFrom none (String.utf8EncodeChar c ++ rest) = .char c :: partsFrom none rest := by
  have hvalid : c.toNat < 0xD800 ∨ 0xDFFF < c.toNat ∧ c.toNat < 0x110000 := c.valid
  have hc : Char.ofNat c.toNat = c := Char.ofNat_toNat c
  rw [encodeChar_eq]
  generalize c.toNat = v at hvalid hc ⊢
  by_cases h₁ : v ≤ 0x7F
  · rw [if_pos h₁, List.singleton_append, partsFrom, lead_single (by omega), hc]
  rw [if_neg h₁]
  by_cases h₂ : v ≤ 0x7FF
  · have hlead : v / 64 % 32 = v / 64 := by omega
    have hsum : (v / 64 + 0xC0 - 0xC0) * 64 + v % 64 = v := by omega
    rw [if_pos h₂, hlead, List.cons_append, partsFrom, lead_two (by omega) (by omega)]
    simp only [List.singleton_append]
    rw [partsFrom_some (by omega) (by simp) (by simp; omega)]
    simp only [if_pos, hsum, hc]
  rw [if_neg h₂]
  -- the first byte of a longer sequence also narrows the bounds of the second one
  by_cases h₃ : v ≤ 0xFFFF
  · have hlead : v / 4096 % 16 = v / 4096 := by omega
    have hsum : ((v / 4096 + 0xE0 - 0xE0) * 64 + v / 64 % 64) * 64 + v % 64 = v := by omega
    rw [if_pos h₃, hlead, List.cons_append, partsFrom, lead_three (by omega) (by omega)]
    simp only [List.cons_append, List.nil_append]
    rw [partsFrom_some (by omega) (by simp only []; split <;> simp <;> omega)
      (by simp only []; split <;> simp <;> omega)]
    simp only [if_neg (show ¬ 2 = 1 by omega)]
    rw [partsFrom_some (by omega) (by simp) (by simp; omega)]
    simp only [if_pos, hsum, hc]
  · have hlead : v / 262144 % 8 = v / 262144 := by omega
    have hsum : (((v / 262144 + 0xF0 - 0xF0) * 64 + v / 4096 % 64) * 64 + v / 64 % 64) * 64 + v % 64 =
        v := by omega
    rw [if_neg h₃, hlead, List.cons_append, partsFrom, lead_four (by omega) (by omega)]
    simp only [List.cons_append, List.nil_append]
    rw [partsFrom_some (by omega) (by simp only []; split <;> simp <;> omega)
      (by simp only []; split <;> simp <;> omega)]
    simp only [if_neg (show ¬ 3 = 1 by omega)]
    rw [partsFrom_some (by omega) (by simp) (by simp; omega)]
    simp only [if_neg (show ¬ 3 - 1 = 1 by omega)]
    rw [partsFrom_some (by omega) (by simp) (by simp; omega)]
    simp only [if_pos, hsum, hc]

theorem parts_flatMap (text : List Char) :
    parts (text.flatMap String.utf8EncodeChar) = text.map .char := by
  induction text with
  | nil => rfl
  | cons c text ih => rw [List.flatMap_cons, parts, partsFrom_encodeChar, ← parts, ih, List.map_cons]

/-- **A text is taken apart into its characters.** -/
theorem parts_encode (text : String) : parts (encode text) = text.toList.map .char :=
  parts_flatMap text.toList

theorem chars_map_char (index : Nat) (text : List Char) : chars index (text.map .char) = .ok text := by
  induction text generalizing index with
  | nil => rfl
  | cons c text ih => rw [List.map_cons, chars, ih]; rfl

/-- A text is read back from its bytes. -/
@[simp] theorem decode_encode (text : String) : decode (encode text) = .ok text := by
  rw [decode, parts_encode, chars_map_char]
  exact congrArg Except.ok String.ofList_toList

/-- Texts with the same bytes are equal. -/
theorem encode_injective {s t : String} (h : encode s = encode t) : s = t := by
  have hs := decode_encode s
  rw [h, decode_encode] at hs
  exact (Except.ok.inj hs).symm

/-- A zero byte stands for a NUL. -/
theorem zero_mem_encodeChar_iff (c : Char) : 0 ∈ String.utf8EncodeChar c ↔ c = '\x00' := by
  have hzero {n : Nat} (h : n < 256) : 0 = UInt8.ofNat n ↔ 0 = n :=
    ofNat_eq_iff (m := 0) (by omega) h
  constructor
  · intro h
    apply Char.toNat_inj.1
    change c.toNat = 0
    rw [encodeChar_eq] at h
    -- of all the bytes, only the single one of a small code point has no high bit set
    split at h
    · rw [List.mem_singleton, hzero (by omega)] at h
      exact h.symm
    · exfalso
      split at h <;> (try split at h) <;>
        simp (disch := omega) only [List.mem_cons, List.not_mem_nil, or_false, hzero] at h <;> omega
  · rintro rfl
    decide

/-- The bytes of a text hold a zero exactly where the text holds a NUL. -/
theorem zero_mem_encode_iff (text : String) : 0 ∈ encode text ↔ '\x00' ∈ text.toList := by
  rw [encode, List.mem_flatMap]
  constructor
  · rintro ⟨c, hc, hzero⟩
    rwa [← (zero_mem_encodeChar_iff c).1 hzero]
  · intro h
    exact ⟨_, h, (zero_mem_encodeChar_iff _).2 rfl⟩

/-! ### Well-formed bytes -/

/-- A byte is what its number stands for. -/
theorem eq_ofNat {b : UInt8} {n : Nat} (h : b.toNat = n) : b = UInt8.ofNat n := by
  rw [← h, UInt8.ofNat_toNat]

/-- What stands for a code point stands for its character. -/
theorem toNat_char {v : Nat} (h : v < 0xD800 ∨ 0xDFFF < v ∧ v < 0x110000) : (Char.ofNat v).toNat = v := by
  have hvalid : v.isValidChar := h
  rw [Char.ofNat, dif_pos hvalid]
  rfl

/-- What follows the start of a sequence goes on with it, where nothing is ill-formed. -/
theorem exists_of_partsFrom_some {s : Unfinished} {rest : Bytes} {text : List Char}
    (h : partsFrom (some s) rest = text.map .char) :
    ∃ b rest', rest = b :: rest' ∧ s.least.toNat ≤ b.toNat ∧ b.toNat ≤ s.greatest.toNat ∧
      if s.missing = 1 then
        ∃ text', text = Char.ofNat (s.push b).bits :: text' ∧ partsFrom none rest' = text'.map .char
      else partsFrom (some (s.push b)) rest' = text.map .char := by
  cases rest with
  | nil => cases text <;> simp [partsFrom] at h
  | cons b rest' =>
    rw [partsFrom] at h
    split at h
    case isFalse => cases text <;> simp at h
    case isTrue hbounds =>
      refine ⟨b, rest', rfl, UInt8.le_iff_toNat_le.1 hbounds.1, UInt8.le_iff_toNat_le.1 hbounds.2, ?_⟩
      split at h
      case isTrue hone =>
        rw [if_pos hone]
        cases text with
        | nil => cases h
        | cons c text' =>
          rw [List.map_cons, List.cons.injEq, Part.char.injEq] at h
          exact ⟨text', by rw [h.1], h.2⟩
      case isFalse hmore => rw [if_neg hmore]; exact h

/-- The bytes of the character with a code point, where it takes more than one. -/
theorem encodeChar_ofNat {v : Nat} (h : v < 0xD800 ∨ 0xDFFF < v ∧ v < 0x110000) :
    String.utf8EncodeChar (Char.ofNat v) =
      if v ≤ 0x7F then [UInt8.ofNat v]
      else if v ≤ 0x7FF then [UInt8.ofNat (v / 64 % 32 + 0xC0), UInt8.ofNat (v % 64 + 0x80)]
      else if v ≤ 0xFFFF then
        [UInt8.ofNat (v / 4096 % 16 + 0xE0), UInt8.ofNat (v / 64 % 64 + 0x80), UInt8.ofNat (v % 64 + 0x80)]
      else
        [UInt8.ofNat (v / 262144 % 8 + 0xF0), UInt8.ofNat (v / 4096 % 64 + 0x80),
          UInt8.ofNat (v / 64 % 64 + 0x80), UInt8.ofNat (v % 64 + 0x80)] := by
  rw [encodeChar_eq, toNat_char h]

/-- The bytes of a character are those that it is read from. -/
theorem flatMap_of_partsFrom (bytes : Bytes) (text : List Char)
    (h : partsFrom none bytes = text.map .char) : text.flatMap String.utf8EncodeChar = bytes := by
  match bytes with
  | [] =>
    cases text with
    | nil => rfl
    | cons c text => cases h
  | b :: rest =>
    have hb := b.toNat_lt
    rw [partsFrom, lead] at h
    simp only [UInt8.lt_iff_toNat_lt, ← UInt8.toNat_inj, UInt8.reduceToNat] at h
    by_cases h₁ : b.toNat < 0x80
    · simp only [if_pos h₁] at h
      cases text with
      | nil => cases h
      | cons c text =>
        rw [List.map_cons, List.cons.injEq, Part.char.injEq] at h
        rw [List.flatMap_cons, flatMap_of_partsFrom rest text h.2, ← h.1, encodeChar_ofNat (by omega),
          if_pos (by omega), UInt8.ofNat_toNat]
        rfl
    by_cases h₂ : b.toNat < 0xC2
    · simp only [if_neg h₁, if_pos h₂] at h
      cases text <;> cases h
    by_cases h₃ : b.toNat < 0xE0
    · simp only [if_neg h₁, if_neg h₂, if_pos h₃] at h
      obtain ⟨c, rest, rfl, hleast, hgreatest, htext⟩ := exists_of_partsFrom_some h
      simp only [↓reduceIte, Unfinished.push, UInt8.reduceToNat] at hleast hgreatest htext
      obtain ⟨text, rfl, hrest⟩ := htext
      rw [List.flatMap_cons, flatMap_of_partsFrom rest text hrest, encodeChar_ofNat (by omega),
        if_neg (by omega), if_pos (by omega), ← eq_ofNat (b := b) (by omega), ← eq_ofNat (b := c) (by omega)]
      rfl
    by_cases h₄ : b.toNat < 0xF0
    · rw [if_neg h₁, if_neg h₂, if_neg h₃, if_pos h₄] at h
      obtain ⟨c, rest, rfl, hleast, hgreatest, htext⟩ := exists_of_partsFrom_some h
      simp only [↓reduceIte, Unfinished.push, Nat.reduceEqDiff] at htext
      obtain ⟨d, rest, rfl, hleast', hgreatest', htext⟩ := exists_of_partsFrom_some htext
      simp only [↓reduceIte, Unfinished.push, UInt8.reduceToNat] at hleast' hgreatest' htext
      obtain ⟨text, rfl, hrest⟩ := htext
      -- the narrower bounds on the second byte leave out overlong forms and surrogates
      have hsecond : 0x80 ≤ c.toNat ∧ c.toNat ≤ 0xBF ∧ (b.toNat = 0xE0 → 0xA0 ≤ c.toNat) ∧
          (b.toNat = 0xED → c.toNat ≤ 0x9F) := by
        revert hleast hgreatest
        simp only
        split <;> split <;> simp only [UInt8.reduceToNat] <;> omega
      clear hleast hgreatest h
      rw [List.flatMap_cons, flatMap_of_partsFrom rest text hrest, encodeChar_ofNat (by omega),
        if_neg (by omega), if_neg (by omega), if_pos (by omega), ← eq_ofNat (b := b) (by omega),
        ← eq_ofNat (b := c) (by omega), ← eq_ofNat (b := d) (by omega)]
      rfl
    by_cases h₅ : b.toNat < 0xF5
    · rw [if_neg h₁, if_neg h₂, if_neg h₃, if_neg h₄, if_pos h₅] at h
      obtain ⟨c, rest, rfl, hleast, hgreatest, htext⟩ := exists_of_partsFrom_some h
      simp only [↓reduceIte, Unfinished.push, Nat.reduceEqDiff] at htext
      obtain ⟨d, rest, rfl, hleast', hgreatest', htext⟩ := exists_of_partsFrom_some htext
      simp only [↓reduceIte, Unfinished.push, Nat.reduceSub, Nat.reduceEqDiff, UInt8.reduceToNat]
        at hleast' hgreatest' htext
      obtain ⟨e, rest, rfl, hleast'', hgreatest'', htext⟩ := exists_of_partsFrom_some htext
      simp only [↓reduceIte, Unfinished.push, UInt8.reduceToNat] at hleast'' hgreatest'' htext
      obtain ⟨text, rfl, hrest⟩ := htext
      -- here they leave out overlong forms and what lies beyond the last code point
      have hsecond : 0x80 ≤ c.toNat ∧ c.toNat ≤ 0xBF ∧ (b.toNat = 0xF0 → 0x90 ≤ c.toNat) ∧
          (b.toNat = 0xF4 → c.toNat ≤ 0x8F) := by
        revert hleast hgreatest
        simp only
        split <;> split <;> simp only [UInt8.reduceToNat] <;> omega
      clear hleast hgreatest h
      rw [List.flatMap_cons, flatMap_of_partsFrom rest text hrest, encodeChar_ofNat (by omega),
        if_neg (by omega), if_neg (by omega), if_neg (by omega), ← eq_ofNat (b := b) (by omega),
        ← eq_ofNat (b := c) (by omega), ← eq_ofNat (b := d) (by omega), ← eq_ofNat (b := e) (by omega)]
      rfl
    · rw [if_neg h₁, if_neg h₂, if_neg h₃, if_neg h₄, if_neg h₅] at h
      cases text <;> cases h
  termination_by bytes.length

theorem eq_map_of_chars {ps : List Part} {index : Nat} {text : List Char} (h : chars index ps = .ok text) :
    ps = text.map .char := by
  induction ps generalizing index text with
  | nil => rw [← Except.ok.inj h]; rfl
  | cons p ps ih =>
    cases p with
    | char c =>
      rw [chars] at h
      cases hrest : chars (index + c.utf8Size) ps with
      | error e => rw [hrest] at h; cases h
      | ok rest =>
        rw [hrest] at h
        rw [← Except.ok.inj h, List.map_cons, ih hrest]
    | fault length atEnd => cases atEnd <;> cases h

/-- **A byte string is read as a text just where it is its encoding.** -/
theorem decode_eq_ok_iff {bytes : Bytes} {text : String} : decode bytes = .ok text ↔ bytes = encode text := by
  constructor
  · intro h
    rw [decode] at h
    cases hchars : chars 0 (parts bytes) with
    | error e => rw [hchars] at h; cases h
    | ok cs =>
      rw [hchars] at h
      rw [← Except.ok.inj h, encode, String.toList_ofList]
      exact (flatMap_of_partsFrom bytes cs (eq_map_of_chars hchars)).symm
  · rintro rfl
    exact decode_encode text

/-! ### ASCII -/

/-- Characters below 128 are encoded by their code points. -/
theorem flatMap_encodeChar {cs : List Char} (h : ∀ c ∈ cs, c.toNat < 128) :
    cs.flatMap String.utf8EncodeChar = cs.map fun c => UInt8.ofNat c.toNat := by
  induction cs with
  | nil => rfl
  | cons c cs ih =>
    have hc := h c List.mem_cons_self
    rw [List.flatMap_cons, List.map_cons, ih fun d hd => h d (List.mem_cons_of_mem _ hd), encodeChar_eq,
      if_pos (by omega)]
    rfl

/-- Bytes below 128 are the encoding of the characters with their code points. -/
theorem encode_ofList {bytes : Bytes} (h : ∀ b ∈ bytes, b.toNat < 128) :
    encode (String.ofList (bytes.map fun b => Char.ofNat b.toNat)) = bytes := by
  have htoNat : ∀ b ∈ bytes, (Char.ofNat b.toNat).toNat = b.toNat := fun b hb => by
    have := h b hb
    exact toNat_char (by omega)
  rw [encode, String.toList_ofList, flatMap_encodeChar, List.map_map]
  · conv => rhs; rw [← List.map_id bytes]
    refine List.map_congr_left fun b hb => ?_
    rw [Function.comp_apply, htoNat b hb, UInt8.ofNat_toNat, id]
  · intro c hc
    obtain ⟨b, hb, rfl⟩ := List.mem_map.1 hc
    rw [htoNat b hb]
    exact h b hb

end Utf8
end Logbook
