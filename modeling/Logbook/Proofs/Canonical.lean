import Logbook.Proofs.Base64
import Logbook.Proofs.Readers

/-!
# Canonical base64

A text spells a byte string if the bits of its symbols, six each, are those of the bytes, eight each, followed by fewer
than six zeros.  This leaves no choice: the zeros are as many as the lengths ask for, and the symbols are the digits of
one number.  The reader takes nothing else.  A symbol is known by its byte, padding and single symbols are refused, and so
is a last group whose spare bits are not zero.

## Main definitions

* `Base64.Spells` — a text spells a byte string.

## Main results

* `Base64.spells_iff` — a byte string has one spelling.
* `Base64.decode_eq_ok_iff` — **a text is read as the byte string that it spells.**
-/

namespace Logbook

namespace Base64

variable {b group : Bytes} {s : String} {l : List Nat} {start : Nat}

/-! ### Spellings -/

/-- A text spells a byte string: its symbols have the bits of the bytes and, behind them, fewer than six zeros. -/
def Spells (s : String) (b : Bytes) : Prop :=
  ∃ vs : List Nat, (∀ v ∈ vs, v < 64) ∧ s.toList = vs.map symbol ∧
    ∃ zeros < 6, 6 * vs.length = 8 * b.length + zeros ∧ Positional.value 64 vs = Bytes.toNat b * 2 ^ zeros

/-- The symbols that are written for a byte string have its bits and fewer than six zeros. -/
theorem value_values (b : Bytes) :
    ∃ zeros < 6, 6 * (values b).length = 8 * b.length + zeros ∧
      Positional.value 64 (values b) = Bytes.toNat b * 2 ^ zeros := by
  induction b using values.induct with
  | case1 => exact ⟨0, by decide, rfl, rfl⟩
  | case2 a =>
    have hlt := Bytes.toNat_lt [a]
    refine ⟨4, by decide, rfl, ?_⟩
    rw [values, Positional.value_digits]
    exact Nat.mod_eq_of_lt (by simp only [List.length_singleton] at hlt; omega)
  | case3 a b =>
    have hlt := Bytes.toNat_lt [a, b]
    refine ⟨2, by decide, rfl, ?_⟩
    rw [values, Positional.value_digits]
    exact Nat.mod_eq_of_lt (by simp only [List.length_cons, List.length_nil] at hlt; omega)
  | case4 a b c rest ih =>
    obtain ⟨zeros, hzeros, hlength, hvalue⟩ := ih
    have hlt := Bytes.toNat_lt [a, b, c]
    have hgroup : Positional.value 64 (Positional.digits 64 4 (Bytes.toNat [a, b, c])) = Bytes.toNat [a, b, c] := by
      rw [Positional.value_digits]
      exact Nat.mod_eq_of_lt (by simp only [List.length_cons, List.length_nil] at hlt; omega)
    have hpow : 64 ^ (values rest).length = 256 ^ rest.length * 2 ^ zeros := by
      rw [show 64 = 2 ^ 6 from rfl, show 256 = 2 ^ 8 from rfl, ← Nat.pow_mul, ← Nat.pow_mul, ← Nat.pow_add, hlength]
    refine ⟨zeros, hzeros, ?_, ?_⟩
    · rw [values, List.length_append, Positional.length_digits]
      simp only [List.length_cons]
      omega
    · have hbytes : Bytes.toNat (a :: b :: c :: rest) = Bytes.toNat [a, b, c] * 256 ^ rest.length + Bytes.toNat rest :=
        (Positional.value_append 256 [a.toNat, b.toNat, c.toNat] (rest.map UInt8.toNat)).trans
          (by rw [List.length_map]; rfl)
      rw [values, Positional.value_append, hgroup, hvalue, hpow, hbytes, Nat.add_mul, Nat.mul_assoc]

theorem toList_encode (b : Bytes) : (encode b).toList = (values b).map symbol := by
  rw [encode, String.toList_ofList, encodeChars_eq]

/-- **A byte string has one spelling**, the one that is written for it. -/
theorem spells_iff : Spells s b ↔ s = encode b := by
  constructor
  · rintro ⟨vs, hlt, hs, zeros, hzeros, hlength, hvalue⟩
    obtain ⟨zeros', hzeros', hlength', hvalue'⟩ := value_values b
    -- both have the fewest symbols in which the bytes fit, hence the same zeros
    have hsame : vs.length = (values b).length ∧ zeros = zeros' := by omega
    obtain ⟨hsame, rfl⟩ := hsame
    have hvs : vs = values b := by
      rw [← Positional.digits_value hlt, hvalue, ← hvalue', hsame]
      exact Positional.digits_value fun v hv => lt_of_mem_values hv
    rw [← String.toList_inj, hs, hvs, toList_encode]
  · rintro rfl
    exact ⟨values b, fun v hv => lt_of_mem_values hv, toList_encode b, value_values b⟩

/-! ### What is read -/

/-- A symbol is known by its byte. -/
theorem of_valueAt {offset v : Nat} {x : UInt8} (h : valueAt offset x = .ok v) : v < 64 ∧ x = symbolByte v := by
  have hall : ∀ n < 256, ∀ v ∈ valueOf? (UInt8.ofNat n), v < 64 ∧ UInt8.ofNat n = symbolByte v := by decide +kernel
  rw [valueAt] at h
  split at h
  · rename_i w hw
    obtain rfl : w = v := Except.ok.inj h
    have hx := hall x.toNat x.toNat_lt
    rw [UInt8.ofNat_toNat] at hx
    exact hx w hw
  · cases h

/-- A group that is read without padding has nothing but symbols. -/
theorem of_lastValues {position : Nat} {vs : List (UInt8 × Nat)}
    (h : lastValues start position group = .ok (vs, false)) :
    ∃ l : List Nat, (∀ v ∈ l, v < 64) ∧ group = l.map symbolByte ∧ vs.map (·.2) = l := by
  induction group generalizing position vs with
  | nil =>
    obtain ⟨rfl, -⟩ := Prod.mk.inj (Except.ok.inj h)
    exact ⟨[], nofun, rfl, rfl⟩
  | cons x rest ih =>
    rw [lastValues] at h
    split at h
    · split at h
      · cases h
      · split at h
        · cases h
        · cases h
    · obtain ⟨v, hv, h⟩ := bind_eq_ok_iff.1 h
      obtain ⟨⟨more, padded⟩, hmore, h⟩ := bind_eq_ok_iff.1 h
      obtain ⟨rfl, rfl⟩ := Prod.mk.inj (Except.ok.inj h)
      obtain ⟨hlt, hx⟩ := of_valueAt hv
      obtain ⟨l, hl, hrest, hvs⟩ := ih hmore
      exact ⟨v :: l, List.forall_mem_cons.2 ⟨hlt, hl⟩, congrArg₂ List.cons hx hrest, congrArg (v :: ·) hvs⟩

/-- The spare bits of a last group of `count` symbols are those by which its number is too large. -/
def spare (count : Nat) : Nat := if count = 2 then 16 else if count = 3 then 4 else 1

/-- A last group that is read has at least two symbols, and its spare bits are zero. -/
theorem of_decodeLast (h : decodeLast start group = .ok b) :
    ∃ l : List Nat, (∀ v ∈ l, v < 64) ∧ group = l.map symbolByte ∧ 2 ≤ l.length ∧
      Positional.value 64 l % spare l.length = 0 ∧
      b = Bytes.ofNat (l.length - 1) (Positional.value 64 l / spare l.length) := by
  rw [decodeLast] at h
  obtain ⟨⟨vs, padded⟩, hvs, h⟩ := bind_eq_ok_iff.1 h
  dsimp only at h
  by_cases htwo : vs.length < 2
  · rw [if_pos htwo] at h
    cases h
  rw [if_neg htwo] at h
  cases padded with
  | true => cases h
  | false =>
    obtain ⟨l, hlt, hgroup, rfl⟩ := of_lastValues hvs
    change (if Positional.value 64 (vs.map (·.2)) % spare vs.length ≠ 0 then _ else _) = _ at h
    by_cases hspare : Positional.value 64 (vs.map (·.2)) % spare vs.length ≠ 0
    · rw [if_pos hspare] at h
      cases h
    · rw [if_neg hspare] at h
      refine ⟨vs.map (·.2), hlt, hgroup, ?_⟩
      rw [List.length_map]
      exact ⟨Nat.le_of_not_lt htwo, not_not.1 hspare, (Except.ok.inj h).symm⟩

/-- The symbols of up to three bytes are the digits of their number, made larger by the spare bits. -/
theorem values_of_length_le (hpos : 0 < b.length) (hle : b.length ≤ 3) :
    values b = Positional.digits 64 (b.length + 1) (Bytes.toNat b * spare (b.length + 1)) := by
  match b, hpos, hle with
  | [x], _, _ => rfl
  | [x, y], _, _ => rfl
  | [x, y, z], _, _ => rw [values, values, List.append_nil]; exact congrArg _ (Nat.mul_one _).symm

/-- Two to four symbols whose spare bits are zero are those of the bytes that are read from them. -/
theorem values_ofNat (h : ∀ v ∈ l, v < 64) (htwo : 2 ≤ l.length) (hfour : l.length ≤ 4)
    (hspare : Positional.value 64 l % spare l.length = 0) :
    values (Bytes.ofNat (l.length - 1) (Positional.value 64 l / spare l.length)) = l := by
  have hlt := Positional.value_lt h
  -- the number without its spare bits fits into the bytes
  have hfits : Positional.value 64 l / spare l.length < 256 ^ (l.length - 1) := by
    have hcases : l.length = 2 ∨ l.length = 3 ∨ l.length = 4 := by omega
    rcases hcases with hlength | hlength | hlength <;> rw [hlength] at hlt ⊢ <;> exact Nat.div_lt_of_lt_mul hlt
  have hlength : (Bytes.ofNat (l.length - 1) (Positional.value 64 l / spare l.length)).length + 1 = l.length := by
    rw [Bytes.length_ofNat]
    omega
  rw [values_of_length_le (by omega) (by omega), hlength, Bytes.toNat_ofNat, Nat.mod_eq_of_lt hfits,
    Nat.div_mul_cancel (Nat.dvd_of_mod_eq_zero hspare), Positional.digits_value h]

/-- A last group of up to four bytes that is read is the one that is written. -/
theorem eq_of_decodeLast (hfour : group.length ≤ 4) (h : decodeLast start group = .ok b) :
    group = (values b).map symbolByte := by
  obtain ⟨l, hlt, rfl, htwo, hspare, rfl⟩ := of_decodeLast h
  rw [List.length_map] at hfour
  rw [values_ofNat hlt htwo hfour hspare]

/-- Three bytes in front are written in front. -/
theorem values_append (hb : b.length = 3) (rest : Bytes) : values (b ++ rest) = values b ++ values rest := by
  match b, hb with
  | [x, y, z], _ => rw [values, values, List.append_nil]; rfl

/-- **Bytes that are read are those of a spelling.** -/
theorem eq_of_decodeFrom (h : decodeFrom start group = .ok b) : group = (values b).map symbolByte := by
  induction start, group using decodeFrom.induct generalizing b with
  | case1 =>
    obtain rfl : [] = b := Except.ok.inj h
    rfl
  | case2 start x y z w rest hlast =>
    rw [decodeFrom, if_pos hlast] at h
    rw [List.isEmpty_iff.1 hlast]
    exact eq_of_decodeLast (Nat.le_refl 4) h
  | case3 start x y z w rest hlast ih =>
    rw [decodeFrom, if_neg hlast] at h
    obtain ⟨p, hp, h⟩ := bind_eq_ok_iff.1 h
    obtain ⟨q, hq, h⟩ := bind_eq_ok_iff.1 h
    obtain ⟨r, hr, h⟩ := bind_eq_ok_iff.1 h
    obtain ⟨s, hs, h⟩ := bind_eq_ok_iff.1 h
    obtain ⟨more, hmore, h⟩ := bind_eq_ok_iff.1 h
    obtain rfl := Except.ok.inj h
    obtain ⟨hplt, rfl⟩ := of_valueAt hp
    obtain ⟨hqlt, rfl⟩ := of_valueAt hq
    obtain ⟨hrlt, rfl⟩ := of_valueAt hr
    obtain ⟨hslt, rfl⟩ := of_valueAt hs
    have hlt : ∀ v ∈ [p, q, r, s], v < 64 := by
      simp only [List.forall_mem_cons, List.not_mem_nil, false_implies, implies_true, and_true]
      exact ⟨hplt, hqlt, hrlt, hslt⟩
    have hgroup : values (Bytes.ofNat 3 (Positional.value 64 [p, q, r, s])) = [p, q, r, s] := by
      have hvalues := values_ofNat hlt (Nat.le_add_left 2 2) (Nat.le_refl 4) (Nat.mod_one _)
      rwa [show spare [p, q, r, s].length = 1 from rfl, Nat.div_one] at hvalues
    rw [values_append (Bytes.length_ofNat 3 _), hgroup, List.map_append, ← ih hmore]
    rfl
  | case4 start group hnil hlong =>
    have hfour : group.length ≤ 4 := by
      by_contra hmore
      obtain ⟨x, y, z, w, rest, rfl⟩ : ∃ x y z w rest, group = x :: y :: z :: w :: rest := by
        rcases group with _ | ⟨x, _ | ⟨y, _ | ⟨z, _ | ⟨w, rest⟩⟩⟩⟩
        all_goals simp at hmore ⊢
      exact hlong x y z w rest rfl
    rw [decodeFrom] at h
    · exact eq_of_decodeLast hfour h
    · exact hnil
    · exact hlong

/-- **A text is read as the byte string that it spells**, and no other text is read. -/
theorem decode_eq_ok_iff : decode (Utf8.encode s) = .ok b ↔ Spells s b := by
  rw [spells_iff]
  constructor
  · intro h
    rw [decode] at h
    split at h
    · cases h
    · exact Utf8.encode_injective ((eq_of_decodeFrom h).trans (encode_bytes b).symm)
  · rintro rfl
    exact decode_encode b

end Base64

end Logbook
