import Logbook.Base64
import Logbook.Proofs.Numerals
import Logbook.Proofs.Utf8

/-!
# Reading base64 back

A byte string is taken apart into groups of three bytes, each of which is four symbols; the spare bits of a last group
are zero.  So the reader finds no fault in what the writer has spelt, and puts the same bytes together.

## Main results

* `Base64.decode_encode` — a byte string is read back from its spelling.
-/

namespace Logbook

namespace Base64

/-! ### Symbols -/

/-- The byte of the symbol of a six-bit value. -/
def symbolByte (v : Nat) : UInt8 := UInt8.ofNat (symbol v).toNat

theorem encodeChar_symbol {v : Nat} (h : v < 64) :
    String.utf8EncodeChar (symbol v) = [symbolByte v] := by
  have hall : ∀ v < 64, String.utf8EncodeChar (symbol v) = [symbolByte v] := by decide
  exact hall v h

theorem valueOf?_symbolByte {v : Nat} (h : v < 64) : valueOf? (symbolByte v) = some v := by
  have hall : ∀ v < 64, valueOf? (symbolByte v) = some v := by decide
  exact hall v h

theorem symbolByte_ne_pad {v : Nat} (h : v < 64) : symbolByte v ≠ pad := by
  have hall : ∀ v < 64, symbolByte v ≠ pad := by decide
  exact hall v h

theorem valueAt_symbolByte {v : Nat} (h : v < 64) (offset : Nat) :
    valueAt offset (symbolByte v) = .ok v := by
  rw [valueAt, valueOf?_symbolByte h]

/-! ### The six-bit values of a byte string -/

/-- The six-bit values that are spelt for a byte string. -/
def values : Bytes → List Nat
  | [] => []
  | [a] => Positional.digits 64 2 (Bytes.toNat [a] * 16)
  | [a, b] => Positional.digits 64 3 (Bytes.toNat [a, b] * 4)
  | a :: b :: c :: rest => Positional.digits 64 4 (Bytes.toNat [a, b, c]) ++ values rest

theorem encodeChars_eq (b : Bytes) : encodeChars b = (values b).map symbol := by
  induction b using encodeChars.induct with
  | case1 => rfl
  | case2 a => rfl
  | case3 a b => rfl
  | case4 a b c rest ih => rw [encodeChars, values, List.map_append, ih, symbols]

theorem lt_of_mem_values {b : Bytes} {v : Nat} (h : v ∈ values b) : v < 64 := by
  induction b using values.induct with
  | case1 => cases h
  | case2 a => exact Positional.lt_of_mem_digits (by decide) h
  | case3 a b => exact Positional.lt_of_mem_digits (by decide) h
  | case4 a b c rest ih =>
    rw [values, List.mem_append] at h
    rcases h with h | h
    · exact Positional.lt_of_mem_digits (by decide) h
    · exact ih h

/-- The bytes of a spelling are those of its symbols. -/
theorem encode_bytes (b : Bytes) : Utf8.encode (encode b) = (values b).map symbolByte := by
  have hflat : ∀ {l : List Nat}, (∀ v ∈ l, v < 64) →
      (l.map symbol).flatMap String.utf8EncodeChar = l.map symbolByte := by
    intro l
    induction l with
    | nil => intro _; rfl
    | cons v l ih =>
      intro h
      rw [List.map_cons, List.flatMap_cons, encodeChar_symbol (h v List.mem_cons_self),
        ih fun v hv => h v (List.mem_cons_of_mem _ hv)]
      rfl
  rw [Utf8.encode, encode, String.toList_ofList, encodeChars_eq]
  exact hflat fun v hv => lt_of_mem_values hv

/-! ### Reading back -/

theorem lastValues_map (start : Nat) : ∀ {l : List Nat} (position : Nat), (∀ v ∈ l, v < 64) →
    lastValues start position (l.map symbolByte) =
      .ok (l.map fun v => (symbolByte v, v), false) := by
  intro l
  induction l with
  | nil => intro position _; rfl
  | cons v l ih =>
    intro position h
    have hv := h v List.mem_cons_self
    rw [List.map_cons, lastValues, if_neg (symbolByte_ne_pad hv), valueAt_symbolByte hv,
      ih (position + 1) fun v hv => h v (List.mem_cons_of_mem _ hv)]
    rfl

/-- A last group is read back if its spare bits are zero. -/
theorem decodeLast_map (start : Nat) {l : List Nat} (h : ∀ v ∈ l, v < 64) (hlength : 2 ≤ l.length)
    {spare n : Nat} (hspare : (if l.length = 2 then 16 else if l.length = 3 then 4 else 1) = spare)
    (hpos : 0 < spare) (hvalue : Positional.value 64 l = n * spare) :
    decodeLast start (l.map symbolByte) = .ok (Bytes.ofNat (l.length - 1) n) := by
  have hsnd : (l.map fun v => (symbolByte v, v)).map (·.2) = l := by
    rw [List.map_map]
    exact List.map_id l
  have hlong : ¬ (l.map fun v => (symbolByte v, v)).length < 2 := by
    rw [List.length_map]
    exact Nat.not_lt_of_le hlength
  rw [decodeLast, lastValues_map start 0 h]
  simp only [bind, Except.bind, if_neg hlong, hsnd]
  rw [if_neg Bool.false_ne_true]
  simp only [List.length_map, hspare, hvalue, Nat.mul_mod_left, Nat.mul_div_cancel n hpos]
  rfl

theorem values_ne_nil {b : Bytes} (h : b ≠ []) : values b ≠ [] := by
  match b with
  | [] => exact absurd rfl h
  | [a] => exact nofun
  | [a, b] => exact nofun
  | a :: b :: c :: rest => exact nofun

/-- A last group of one to three bytes is read back. -/
theorem decodeLast_values (start spare : Nat) {b : Bytes}
    (hlength : (values b).length = b.length + 1) (hb : 0 < b.length)
    (hspare : (if b.length = 1 then 16 else if b.length = 2 then 4 else 1) = spare)
    (hvalue : Positional.value 64 (values b) = Bytes.toNat b * spare) :
    decodeLast start ((values b).map symbolByte) = .ok b := by
  have hpos : 0 < spare := by
    rw [← hspare]
    split
    · decide
    · split <;> decide
  have hspare' :
      (if (values b).length = 2 then 16 else if (values b).length = 3 then 4 else 1) = spare := by
    rw [hlength, ← hspare]
    simp only [Nat.reduceEqDiff]
  have hlast := decodeLast_map start (fun v hv => lt_of_mem_values hv) (by omega) hspare' hpos hvalue
  rw [hlast, hlength, Nat.add_sub_cancel, Bytes.ofNat_toNat]

/-- The bytes of a text that spells a byte string are read back group by group. -/
theorem decodeFrom_map (b : Bytes) : ∀ start : Nat,
    decodeFrom start ((values b).map symbolByte) = .ok b := by
  induction b using values.induct with
  | case1 => intro start; rfl
  | case2 a =>
    intro start
    have hlt := Bytes.toNat_lt [a]
    show decodeLast start ((values [a]).map symbolByte) = .ok [a]
    refine decodeLast_values start 16 rfl (Nat.zero_lt_succ _) rfl ?_
    rw [values, Positional.value_digits]
    exact Nat.mod_eq_of_lt (by simp only [List.length_singleton] at hlt; omega)
  | case3 a b =>
    intro start
    have hlt := Bytes.toNat_lt [a, b]
    show decodeLast start ((values [a, b]).map symbolByte) = .ok [a, b]
    refine decodeLast_values start 4 rfl (Nat.zero_lt_succ _) rfl ?_
    rw [values, Positional.value_digits]
    exact Nat.mod_eq_of_lt (by simp only [List.length_cons, List.length_nil] at hlt; omega)
  | case4 a b c rest ih =>
    intro start
    have hlt := Bytes.toNat_lt [a, b, c]
    have hvalue : Positional.value 64 (Positional.digits 64 4 (Bytes.toNat [a, b, c])) =
        Bytes.toNat [a, b, c] := by
      rw [Positional.value_digits]
      exact Nat.mod_eq_of_lt (by simp only [List.length_cons, List.length_nil] at hlt; omega)
    -- whether the group is the last one decides how it is read
    cases rest with
    | nil =>
      show decodeLast start ((values [a, b, c]).map symbolByte) = .ok [a, b, c]
      refine decodeLast_values start 1 rfl (Nat.zero_lt_succ _) rfl ?_
      rw [values, values, List.append_nil, hvalue, Nat.mul_one]
    | cons d rest =>
      have hdigit : ∀ v ∈ Positional.digits 64 4 (Bytes.toNat [a, b, c]), v < 64 :=
        fun v hv => Positional.lt_of_mem_digits (by decide) hv
      obtain ⟨p, q, r, s, hdigits⟩ :
          ∃ p q r s, Positional.digits 64 4 (Bytes.toNat [a, b, c]) = [p, q, r, s] :=
        ⟨_, _, _, _, rfl⟩
      have hmore : ((values (d :: rest)).map symbolByte).isEmpty = false := by
        rw [List.isEmpty_eq_false_iff, ne_eq, List.map_eq_nil_iff]
        exact values_ne_nil nofun
      have hbytes : Bytes.ofNat 3 (Bytes.toNat [a, b, c]) = [a, b, c] := Bytes.ofNat_toNat [a, b, c]
      rw [values, hdigits, List.map_append]
      rw [hdigits] at hvalue hdigit
      simp only [List.forall_mem_cons] at hdigit
      obtain ⟨hp, hq, hr, hs, -⟩ := hdigit
      show decodeFrom start (symbolByte p :: symbolByte q :: symbolByte r :: symbolByte s ::
        (values (d :: rest)).map symbolByte) = _
      rw [decodeFrom, hmore, valueAt_symbolByte hp, valueAt_symbolByte hq, valueAt_symbolByte hr,
        valueAt_symbolByte hs, ih]
      simp only [bind, Except.bind, hvalue, hbytes]
      rfl

/-- **A byte string is read back from its spelling.** -/
theorem decode_encode (b : Bytes) : decode (Utf8.encode (encode b)) = .ok b := by
  have hlast : ¬ (((values b).map symbolByte).length % 4 = 1 ∧
      ((values b).map symbolByte).getLastD 0 ≠ pad ∧
        valueOf? (((values b).map symbolByte).getLastD 0) = none) := by
    rintro ⟨hlength, -, hvalue⟩
    have hne : (values b).map symbolByte ≠ [] := by
      intro hnil
      rw [hnil] at hlength
      cases hlength
    -- the last symbol is one that spells a value
    have hmem := List.getLast_mem hne
    rw [List.getLastD_eq_getLast?, List.getLast?_eq_some_getLast hne, Option.getD_some] at hvalue
    obtain ⟨v, hv, heq⟩ := List.mem_map.1 hmem
    rw [← heq, valueOf?_symbolByte (lt_of_mem_values hv)] at hvalue
    cases hvalue
  rw [encode_bytes, decode]
  exact (if_neg hlast).trans (decodeFrom_map b 0)

/-- Only the empty byte string is spelt by an empty text. -/
theorem encode_ne_empty {b : Bytes} (h : b ≠ []) : encode b ≠ "" := by
  intro hempty
  have hbytes := encode_bytes b
  rw [hempty, Utf8.encode_empty, eq_comm, List.map_eq_nil_iff] at hbytes
  exact values_ne_nil h hbytes

end Base64

end Logbook
