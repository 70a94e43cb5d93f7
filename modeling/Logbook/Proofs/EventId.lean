import Logbook.Proofs.Numerals
import Logbook.Proofs.Readers
import Logbook.Proofs.Utf8

/-!
# The texts of identifiers

Twenty-six digits of five bits each hold two bits more than an identifier has, so the first digit stops at 7.  With that
one restriction every list of digits is an identifier, and every identifier is one list of digits.  A text is read in
either case, so it spells an identifier just where its lower case is the text of that identifier.  As the digits stand in
ascending order in the alphabet, and those in the alphabet in ascending order of their bytes, texts compare as the numbers
do.

The digits are also those that shifts and masks of a word of 128 bits give, and shifting them into such a word again
loses no bit on the way.

## Main definitions

* `EventId.Spelling` — the texts that spell an identifier.
* `EventId.shiftIn` — a word into which digits are shifted.

## Main results

* `EventId.parse_eq_ok_iff` — which text is read as which identifier.
* `EventId.exists_parse_iff` — which texts are read at all.
* `EventId.toList_text_eq_shifts`, `EventId.toNat_shiftIn_take` — the digits as shifts of a word.
* `EventId.compare_text` — the order of texts.
* `EventId.texts_isomorphic` — **identifiers and their texts correspond, and so do their orders.**
-/

namespace Logbook.EventId

variable {i j : EventId} {s : String} {b : Bytes} {ds : List Nat} {d : Nat}

/-! ### Digits -/

/-- The character of a digit. -/
def digitChar (d : Nat) : Char := digits.getD d '0'

/-- The digits of an identifier. -/
def digitsOf (i : EventId) : List Nat := Positional.digits 32 textLength i.value

theorem length_digitsOf (i : EventId) : i.digitsOf.length = 26 := Positional.length_digits 32 26 i.value

theorem lt_of_mem_digitsOf (h : d ∈ i.digitsOf) : d < 32 := Positional.lt_of_mem_digits (by decide) h

theorem toList_text (i : EventId) : i.text.toList = i.digitsOf.map digitChar := by
  rw [text, String.toList_ofList]
  rfl

theorem value_lt_pow_digits (i : EventId) : i.value < 32 ^ 26 := Nat.lt_of_lt_of_le i.value_lt (by decide)

theorem value_digitsOf (i : EventId) : Positional.value 32 i.digitsOf = i.value := by
  rw [digitsOf, Positional.value_digits, Nat.mod_eq_of_lt (by exact i.value_lt_pow_digits)]

/-- A character of the alphabet is that of the digit that is its place. -/
theorem digitChar_idxOf {c : Char} (h : c ∈ digits) : digits.idxOf c < 32 ∧ digitChar (digits.idxOf c) = c := by
  have hlt : digits.idxOf c < digits.length := List.idxOf_lt_length_of_mem h
  refine ⟨hlt, ?_⟩
  rw [digitChar, List.getD_eq_getElem?_getD, List.getElem?_eq_getElem hlt, Option.getD_some, List.getElem_idxOf]

theorem mem_digits_iff {c : Char} : c ∈ digits ↔ ∃ d < 32, digitChar d = c := by
  have hmem : ∀ d < 32, digitChar d ∈ digits := by decide
  exact ⟨fun h => ⟨digits.idxOf c, digitChar_idxOf h⟩, fun ⟨d, hd, h⟩ => h ▸ hmem d hd⟩

theorem digitChar_lt : ∀ d < 32, (digitChar d).toNat < 128 := by decide

/-- Only the first eight digits do not stand behind 7. -/
theorem digitChar_le_seven_iff : ∀ d < 32, digitChar d ≤ '7' ↔ d ≤ 7 := by decide

/-- A digit is told from the others by its character. -/
theorem idxOf?_eq_some_iff {c : Char} : digits.idxOf? c = some d ↔ d < 32 ∧ digitChar d = c := by
  have hfind : ∀ d < 32, digits.idxOf? (digitChar d) = some d := by decide
  constructor
  · intro h
    obtain ⟨hlt, hget, -⟩ := List.idxOf?_eq_some_iff.1 h
    refine ⟨hlt, ?_⟩
    rw [digitChar, List.getD_eq_getElem?_getD, List.getElem?_eq_getElem hlt, Option.getD_some, hget]
  · rintro ⟨hd, rfl⟩
    exact hfind d hd

/-! ### Bytes that are read as digits -/

/-- The character with the code of a byte, in lower case. -/
def lowered (b : UInt8) : Char := (Char.ofNat b.toNat).toLower

theorem digitValue_eq_ok_iff {b : UInt8} : digitValue b = .ok d ↔ d < 32 ∧ digitChar d = lowered b := by
  rw [← idxOf?_eq_some_iff, digitValue, digitValue?, ← lowered]
  cases digits.idxOf? (lowered b) with
  | none => exact ⟨nofun, nofun⟩
  | some e => exact ⟨fun h => congrArg some (Except.ok.inj h), fun h => congrArg Except.ok (Option.some.inj h)⟩

/-- Bytes are read as digits one by one. -/
theorem mapM_digitValue_eq_ok_iff :
    b.mapM digitValue = .ok ds ↔ (∀ d ∈ ds, d < 32) ∧ ds.map digitChar = b.map lowered := by
  induction b generalizing ds with
  | nil =>
    rw [List.mapM_nil, List.map_nil, List.map_eq_nil_iff]
    constructor
    · intro h
      obtain rfl : [] = ds := Except.ok.inj h
      exact ⟨nofun, rfl⟩
    · rintro ⟨-, rfl⟩
      rfl
  | cons first rest ih =>
    rw [List.mapM_cons, bind_eq_ok_iff]
    constructor
    · rintro ⟨d, hfirst, h⟩
      obtain ⟨more, hrest, h⟩ := bind_eq_ok_iff.1 h
      obtain rfl : d :: more = ds := Except.ok.inj h
      obtain ⟨hd, hchar⟩ := digitValue_eq_ok_iff.1 hfirst
      obtain ⟨hmore, hchars⟩ := ih.1 hrest
      exact ⟨List.forall_mem_cons.2 ⟨hd, hmore⟩, congrArg₂ List.cons hchar hchars⟩
    · rintro ⟨hlt, hchars⟩
      cases ds with
      | nil => cases hchars
      | cons d more =>
        obtain ⟨hd, hmore⟩ := List.forall_mem_cons.1 hlt
        obtain ⟨hchar, hchars⟩ := List.cons.inj hchars
        exact ⟨d, digitValue_eq_ok_iff.2 ⟨hd, hchar⟩, bind_eq_ok_iff.2 ⟨more, ih.2 ⟨hmore, hchars⟩, rfl⟩⟩

/-- Digits of which the first is at most 7 spell the number of an identifier. -/
theorem value_lt_iff {first : Nat} {rest : List Nat} (hlength : rest.length = 25) (h : ∀ d ∈ rest, d < 32) :
    Positional.value 32 (first :: rest) < timestampBound * entropyBound ↔ first ≤ 7 := by
  have hrest := Positional.value_lt h
  rw [hlength] at hrest
  rw [Positional.value_cons, hlength, timestampBound, entropyBound]
  constructor <;> intro hlt <;> omega

/-- The digits of the identifier that digits spell. -/
theorem digitsOf_ofNat (hlength : ds.length = 26) (h : ∀ d ∈ ds, d < 32)
    (hlt : Positional.value 32 ds < timestampBound * entropyBound) :
    (ofNat (Positional.value 32 ds)).digitsOf = ds := by
  have hdigits := Positional.digits_value h
  have hvalue : (ofNat (Positional.value 32 ds)).value = Positional.value 32 ds := Nat.mod_eq_of_lt hlt
  rw [hlength] at hdigits
  rw [digitsOf, hvalue]
  exact hdigits

theorem ofNat_value_digitsOf (i : EventId) : ofNat (Positional.value 32 i.digitsOf) = i := by
  rw [value_digitsOf]
  exact EventId.ext (Nat.mod_eq_of_lt i.value_lt)

/-- The first digit of an identifier is at most 7. -/
theorem exists_digitsOf (i : EventId) :
    ∃ first rest, i.digitsOf = first :: rest ∧ rest.length = 25 ∧ first ≤ 7 ∧ ∀ d ∈ first :: rest, d < 32 := by
  have hlength := i.length_digitsOf
  have hlt : ∀ d ∈ i.digitsOf, d < 32 := fun d hd => lt_of_mem_digitsOf hd
  have hvalue := i.value_digitsOf
  generalize i.digitsOf = ds at hlength hlt hvalue ⊢
  cases ds with
  | nil => cases hlength
  | cons first rest =>
    have hrest : rest.length = 25 := Nat.succ.inj hlength
    refine ⟨first, rest, rfl, hrest, ?_, hlt⟩
    rw [← value_lt_iff hrest (List.forall_mem_cons.1 hlt).2, hvalue]
    exact i.value_lt

theorem parseBytes_cons (first : UInt8) (rest : Bytes) :
    parseBytes (first :: rest) =
      if rest.length ≠ 25 then .error (.textLength (rest.length + 1))
      else do
        let d ← digitValue first
        if 7 < d then throw .overflow
        let ds ← rest.mapM digitValue
        return ofNat (Positional.value 32 (d :: ds)) := by
  simp only [parseBytes, List.length_cons, textLength, ne_eq, Nat.reduceEqDiff]

/-- **Bytes are read as the identifier whose text they are in either case.** -/
theorem parseBytes_eq_ok_iff : parseBytes b = .ok i ↔ b.map lowered = i.text.toList := by
  rw [toList_text]
  cases b with
  | nil =>
    obtain ⟨d, ds, hdigits, -⟩ := i.exists_digitsOf
    rw [hdigits]
    exact ⟨nofun, nofun⟩
  | cons first rest =>
    rw [parseBytes_cons]
    constructor
    · intro h
      split at h
      · cases h
      · rename_i hrest
        obtain ⟨d, hfirst, h⟩ := bind_eq_ok_iff.1 h
        split at h
        · cases h
        · rename_i hseven
          obtain ⟨ds, hmap, h⟩ := bind_eq_ok_iff.1 h
          obtain rfl : ofNat (Positional.value 32 (d :: ds)) = i := Except.ok.inj h
          obtain ⟨hd, hchar⟩ := digitValue_eq_ok_iff.1 hfirst
          obtain ⟨hds, hchars⟩ := mapM_digitValue_eq_ok_iff.1 hmap
          have hlength : ds.length = 25 := by
            have h := congrArg List.length hchars
            rw [List.length_map, List.length_map] at h
            omega
          have hlt := (value_lt_iff hlength hds).2 (Nat.le_of_not_lt hseven)
          rw [digitsOf_ofNat (congrArg (· + 1) hlength) (List.forall_mem_cons.2 ⟨hd, hds⟩) hlt]
          exact (congrArg₂ List.cons hchar hchars).symm
    · intro h
      obtain ⟨d, ds, hdigits, hlength, hseven, hlt⟩ := i.exists_digitsOf
      rw [hdigits] at h
      obtain ⟨hchar, hchars⟩ := List.cons.inj h
      obtain ⟨hd, hds⟩ := List.forall_mem_cons.1 hlt
      have hrest : rest.length = 25 := by
        have h := congrArg List.length hchars
        rw [List.length_map, List.length_map] at h
        omega
      have hi := i.ofNat_value_digitsOf
      rw [hdigits] at hi
      rw [if_neg (not_not.2 hrest), digitValue_eq_ok_iff.2 ⟨hd, hchar.symm⟩,
        mapM_digitValue_eq_ok_iff.2 ⟨hds, hchars.symm⟩]
      show (if 7 < d then throw Fault.overflow else _) = _
      rw [if_neg (Nat.not_lt_of_le hseven)]
      exact congrArg Except.ok hi

/-! ### Texts in either case -/

/-- Only the letters from A to Z change in lower case, by 32. -/
theorem toLower_cases (c : Char) :
    c.toLower = c ∨ 65 ≤ c.toNat ∧ c.toNat ≤ 90 ∧ c.toLower.toNat = c.toNat + 32 := by
  by_cases h : c.val ≥ 'A'.val ∧ c.val ≤ 'Z'.val
  · have hlow : 65 ≤ c.toNat := UInt32.le_iff_toNat_le.1 h.1
    have hhigh : c.toNat ≤ 90 := UInt32.le_iff_toNat_le.1 h.2
    have hlower : c.toLower.val = c.val + ('a'.val - 'A'.val) := congrArg Char.val (dif_pos h)
    refine Or.inr ⟨hlow, hhigh, ?_⟩
    rw [Char.toNat, hlower, UInt32.toNat_add]
    exact Nat.mod_eq_of_lt (by change c.toNat + 32 < 2 ^ 32; omega)
  · exact Or.inl (dif_neg h)

theorem toNat_lt_of_toLower {c : Char} (h : c.toLower.toNat < 128) : c.toNat < 128 := by
  rcases toLower_cases c with hsame | ⟨-, hhigh, -⟩
  · rwa [hsame] at h
  · omega

theorem toLower_le_seven_iff {c : Char} : c.toLower ≤ '7' ↔ c ≤ '7' := by
  have hseven (c : Char) : c ≤ '7' ↔ c.toNat ≤ 55 := Iff.rfl
  rcases toLower_cases c with hsame | ⟨hlow, -, hlower⟩
  · rw [hsame]
  · rw [hseven, hseven, hlower]
    omega

theorem toList_toLower (s : String) : s.toLower.toList = s.toList.map Char.toLower := String.toList_map

theorem toList_toUpper (s : String) : s.toUpper.toList = s.toList.map Char.toUpper := String.toList_map

/-- Bytes and characters have the same digits in lower case, as all of these lie below 128. -/
theorem map_lowered_encode_eq_iff {cs : List Char} (h : ∀ c ∈ cs, c.toNat < 128) :
    (Utf8.encode s).map lowered = cs ↔ s.toList.map Char.toLower = cs := by
  constructor
  · rintro rfl
    have hlt : ∀ b ∈ Utf8.encode s, b.toNat < 128 := by
      intro b hb
      have hlow := toNat_lt_of_toLower (h (lowered b) (List.mem_map_of_mem hb))
      rwa [Utf8.toNat_char (Or.inl (Nat.lt_trans b.toNat_lt (by decide)))] at hlow
    have hs := Utf8.encode_injective (Utf8.encode_ofList hlt)
    rw [← String.toList_inj, String.toList_ofList] at hs
    rw [← hs, List.map_map]
    rfl
  · rintro rfl
    have hlt : ∀ c ∈ s.toList, c.toNat < 128 :=
      fun c hc => toNat_lt_of_toLower (h c.toLower (List.mem_map_of_mem hc))
    rw [Utf8.encode, Utf8.flatMap_encodeChar hlt, List.map_map]
    refine List.map_congr_left fun c hc => ?_
    rw [Function.comp_apply, lowered, Utf8.toNat_ofNat (Nat.lt_trans (hlt c hc) (by decide)), Char.ofNat_toNat]

theorem toNat_lt_of_mem_text {c : Char} (h : c ∈ i.text.toList) : c.toNat < 128 := by
  rw [toList_text] at h
  obtain ⟨d, hd, rfl⟩ := List.mem_map.1 h
  exact digitChar_lt d (lt_of_mem_digitsOf hd)

/-- **A text is read as the identifier whose text it is in lower case.** -/
theorem parse_eq_ok_iff : parse s = .ok i ↔ s.toLower = i.text := by
  rw [parse, parseBytes_eq_ok_iff, map_lowered_encode_eq_iff fun c hc => toNat_lt_of_mem_text hc, ← String.toList_inj,
    toList_toLower]

/-- The text of an identifier is read back, and so is what it becomes in either case. -/
theorem parse_text (i : EventId) :
    parse i.text = .ok i ∧ parse i.text.toLower = .ok i ∧ parse i.text.toUpper = .ok i := by
  have hlower : ∀ d < 32, (digitChar d).toLower = digitChar d := by decide
  have hupper : ∀ d < 32, (digitChar d).toUpper.toLower = digitChar d := by decide
  have htext : i.text.toLower = i.text := by
    rw [← String.toList_inj, toList_toLower, toList_text, List.map_map]
    exact List.map_congr_left fun d hd => hlower d (lt_of_mem_digitsOf hd)
  refine ⟨parse_eq_ok_iff.2 htext, parse_eq_ok_iff.2 (by rw [htext, htext]), parse_eq_ok_iff.2 ?_⟩
  rw [← String.toList_inj, toList_toLower, toList_toUpper, toList_text, List.map_map, List.map_map]
  exact List.map_congr_left fun d hd => hupper d (lt_of_mem_digitsOf hd)

/-- The text of an identifier has one byte for each of its digits. -/
theorem length_text (i : EventId) : i.text.length = 26 ∧ (Utf8.encode i.text).length = 26 := by
  constructor
  · rw [← String.length_toList, toList_text, List.length_map, length_digitsOf]
  · rw [Utf8.encode, Utf8.flatMap_encodeChar fun c hc => toNat_lt_of_mem_text hc, List.length_map, toList_text,
      List.length_map, length_digitsOf]

/-! ### Which texts are read -/

/-- The texts that spell an identifier. -/
structure Spelling (s : String) : Prop where
  /-- The text has twenty-six bytes. -/
  length : (Utf8.encode s).length = 26
  /-- Its characters are digits in either case. -/
  digit : ∀ c ∈ s.toList, c.toLower ∈ digits
  /-- The first one is at most 7. -/
  first : ∀ c ∈ s.toList.head?, c ≤ '7'

/-- Characters that are digits in either case are those of a list of digits. -/
theorem exists_map_digitChar {cs : List Char} (h : ∀ c ∈ cs, c.toLower ∈ digits) :
    ∃ ds : List Nat, (∀ d ∈ ds, d < 32) ∧ ds.map digitChar = cs.map Char.toLower := by
  refine ⟨cs.map fun c => digits.idxOf c.toLower, ?_, ?_⟩
  · intro d hd
    obtain ⟨c, hc, rfl⟩ := List.mem_map.1 hd
    exact (digitChar_idxOf (h c hc)).1
  · rw [List.map_map]
    exact List.map_congr_left fun c hc => (digitChar_idxOf (h c hc)).2

/-- **The texts that are read are the spellings.** -/
theorem exists_parse_iff : (∃ i, parse s = .ok i) ↔ Spelling s := by
  constructor
  · rintro ⟨i, h⟩
    have hbytes := parseBytes_eq_ok_iff.1 h
    have hchars := congrArg String.toList (parse_eq_ok_iff.1 h)
    rw [toList_toLower, toList_text] at hchars
    refine ⟨?_, fun c hc => ?_, fun c hc => ?_⟩
    · rw [← List.length_map (f := lowered), hbytes, toList_text, List.length_map, length_digitsOf]
    · have hlower : c.toLower ∈ i.digitsOf.map digitChar := hchars ▸ List.mem_map_of_mem hc
      obtain ⟨d, hd, heq⟩ := List.mem_map.1 hlower
      exact mem_digits_iff.2 ⟨d, lt_of_mem_digitsOf hd, heq⟩
    · obtain ⟨d, ds, hdigits, -, hseven, hlt⟩ := i.exists_digitsOf
      have hhead : (s.toList.map Char.toLower).head? = some (digitChar d) := by rw [hchars, hdigits]; rfl
      rw [List.head?_map, hc, Option.map_some, Option.some.injEq] at hhead
      rw [← toLower_le_seven_iff, hhead, digitChar_le_seven_iff d (hlt d List.mem_cons_self)]
      exact hseven
  · rintro ⟨hlength, hdigit, hfirst⟩
    obtain ⟨ds, hlt, hchars⟩ := exists_map_digitChar hdigit
    have hascii : ∀ c ∈ ds.map digitChar, c.toNat < 128 := by
      intro c hc
      obtain ⟨d, hd, rfl⟩ := List.mem_map.1 hc
      exact digitChar_lt d (hlt d hd)
    have hds : ds.length = 26 := by
      rw [← hlength, ← List.length_map (f := lowered), (map_lowered_encode_eq_iff hascii).2 hchars.symm, List.length_map]
    cases ds with
    | nil => cases hds
    | cons d ds =>
      have hseven : d ≤ 7 := by
        have hhead := congrArg List.head? hchars
        rw [List.map_cons, List.head?_cons, List.head?_map, eq_comm, Option.map_eq_some_iff] at hhead
        obtain ⟨c, hc, heq⟩ := hhead
        rw [← digitChar_le_seven_iff d (hlt d List.mem_cons_self), ← heq, toLower_le_seven_iff]
        exact hfirst c hc
      have hvalue := (value_lt_iff (Nat.succ.inj hds) (List.forall_mem_cons.1 hlt).2).2 hseven
      refine ⟨ofNat (Positional.value 32 (d :: ds)), parse_eq_ok_iff.2 ?_⟩
      rw [← String.toList_inj, toList_text, digitsOf_ofNat hds hlt hvalue, hchars, toList_toLower]

/-! ### Words of 128 bits -/

/-- A word of 128 bits into which digits are shifted from the right, five bits each. -/
def shiftIn (ds : List Nat) : BitVec 128 := ds.foldl (fun word d => word <<< 5 ||| BitVec.ofNat 128 d) 0

/-- As long as the number fits, the word is what the digits spell. -/
theorem toNat_shiftIn (h : ∀ d ∈ ds, d < 32) (hfits : Positional.value 32 ds < 2 ^ 128) :
    (shiftIn ds).toNat = Positional.value 32 ds := by
  induction ds using List.reverseRecOn with
  | nil => rfl
  | append_singleton ds d ih =>
    obtain ⟨hds, hd⟩ := List.forall_mem_append.1 h
    have hd : d < 2 ^ 5 := hd d List.mem_cons_self
    rw [Positional.value_concat] at hfits ⊢
    have ih := ih hds (by omega)
    rw [shiftIn, List.foldl_append, List.foldl_cons, List.foldl_nil, ← shiftIn, BitVec.toNat_or, BitVec.toNat_shiftLeft,
      BitVec.toNat_ofNat, ih, Nat.mod_eq_of_lt (by omega), Nat.shiftLeft_eq, Nat.mod_eq_of_lt (by omega),
      ← Nat.shiftLeft_eq, ← Nat.shiftLeft_add_eq_or_of_lt hd, Nat.shiftLeft_eq]

/-- **However many digits have been shifted in, the word holds the high bits of the identifier**, and none is lost. -/
theorem toNat_shiftIn_take (i : EventId) {k : Nat} (hk : k ≤ 26) :
    (shiftIn (i.digitsOf.take k)).toNat = i.value / 32 ^ (26 - k) := by
  have hlt : ∀ d ∈ i.digitsOf.take k, d < 32 := fun d hd => lt_of_mem_digitsOf (List.mem_of_mem_take hd)
  have hvalue : Positional.value 32 (i.digitsOf.take k) = i.value / 32 ^ (26 - k) := by
    have hpow : i.value < 32 ^ k * 32 ^ (26 - k) := by
      rw [← Nat.pow_add, Nat.add_sub_cancel' hk]
      exact i.value_lt_pow_digits
    rw [digitsOf, textLength, Positional.take_digits hk, Positional.value_digits]
    exact Nat.mod_eq_of_lt (Nat.div_lt_of_lt_mul (by rwa [Nat.mul_comm]))
  rw [← hvalue]
  refine toNat_shiftIn hlt ?_
  rw [hvalue]
  exact Nat.lt_of_le_of_lt (Nat.div_le_self _ _) i.value_lt

/-- **The text is written from shifts of the word.** -/
theorem toList_text_eq_shifts (i : EventId) :
    i.text.toList = (List.range 26).map fun k =>
      digitChar (BitVec.ofNat 128 i.value >>> (125 - 5 * k) &&& 31).toNat := by
  rw [toList_text, digitsOf, Positional.digits_eq_map_range, List.map_map]
  refine List.map_congr_left fun k hk => ?_
  have hk : k < 26 := List.mem_range.1 hk
  have hmask : (31 : BitVec 128).toNat = 2 ^ 5 - 1 := rfl
  have hvalue : i.value < 2 ^ 128 := i.value_lt
  rw [Function.comp_apply, BitVec.toNat_and, BitVec.toNat_ushiftRight, BitVec.toNat_ofNat, Nat.mod_eq_of_lt hvalue, hmask,
    Nat.and_two_pow_sub_one_eq_mod, Nat.shiftRight_eq_div_pow, show 125 - 5 * k = 5 * (textLength - 1 - k) by
      rw [textLength]; omega, Nat.pow_mul]

/-- The bytes of a text are read as the digits of its identifier. -/
theorem mapM_digitValue_of_parse (h : parse s = .ok i) : (Utf8.encode s).mapM digitValue = .ok i.digitsOf := by
  rw [mapM_digitValue_eq_ok_iff, ← toList_text, parseBytes_eq_ok_iff.1 h]
  exact ⟨fun d hd => lt_of_mem_digitsOf hd, rfl⟩

/-! ### Order -/

/-- **Texts compare as the bytes do.** -/
theorem compare_text (i j : EventId) :
    compare (Utf8.encode i.text) (Utf8.encode j.text) = compare i.toBytes j.toBytes := by
  have hbytes (i : EventId) : Utf8.encode i.text = i.digitsOf.map fun d => UInt8.ofNat (digitChar d).toNat := by
    rw [Utf8.encode, Utf8.flatMap_encodeChar fun c hc => toNat_lt_of_mem_text hc, toList_text, List.map_map]
    rfl
  have hdigit : ∀ d < 32, ∀ e < 32,
      compare (UInt8.ofNat (digitChar d).toNat) (UInt8.ofNat (digitChar e).toNat) = compare d e := by decide
  rw [hbytes, hbytes, compare_toBytes,
    compare_map fun d hd e he => hdigit d (lt_of_mem_digitsOf hd) e (lt_of_mem_digitsOf he)]
  exact Positional.compare_digits (by decide) 26 i.value_lt_pow_digits j.value_lt_pow_digits

/-- Identifiers compare by their times and then by their entropies. -/
theorem compare_parts (i j : EventId) :
    (compare i.timestampMs j.timestampMs).then (compare i.entropy j.entropy) = compare i.toBytes j.toBytes := by
  rw [compare_toBytes]
  exact Positional.compare_div_mod (by decide) i.value j.value

/-- **Identifiers and their texts correspond, and so do their orders.**  Every identifier has a text of twenty-six
bytes, written from shifts of its word, which is read back in either case.  The texts that are read are the spellings;
the identifier of one has its lower case as text, and shifting in its digits one after another loses no bit.  Texts,
bytes, and times with entropies are in one order. -/
theorem texts_isomorphic :
    (∀ i : EventId, i.text.length = 26 ∧ (Utf8.encode i.text).length = 26 ∧
      (i.text.toList = (List.range 26).map fun k =>
        digitChar (BitVec.ofNat 128 i.value >>> (125 - 5 * k) &&& 31).toNat) ∧
      parse i.text = .ok i ∧ parse i.text.toLower = .ok i ∧ parse i.text.toUpper = .ok i) ∧
    (∀ s : String, (∃ i, parse s = .ok i) ↔ Spelling s) ∧
    (∀ (s : String) (i : EventId), parse s = .ok i → i.text = s.toLower ∧
      ∃ ds, (Utf8.encode s).mapM digitValue = .ok ds ∧ ds.length = 26 ∧
        ∀ k ≤ 26, (shiftIn (ds.take k)).toNat = i.value / 32 ^ (26 - k)) ∧
    ∀ i j : EventId, compare (Utf8.encode i.text) (Utf8.encode j.text) = compare i.toBytes j.toBytes ∧
      (compare i.timestampMs j.timestampMs).then (compare i.entropy j.entropy) = compare i.toBytes j.toBytes := by
  refine ⟨fun i => ?_, fun s => exists_parse_iff, fun s i h => ⟨(parse_eq_ok_iff.1 h).symm, ?_⟩,
    fun i j => ⟨compare_text i j, compare_parts i j⟩⟩
  · obtain ⟨hchars, hbytes⟩ := i.length_text
    exact ⟨hchars, hbytes, i.toList_text_eq_shifts, i.parse_text⟩
  · exact ⟨i.digitsOf, mapM_digitValue_of_parse h, i.length_digitsOf, fun k hk => i.toNat_shiftIn_take hk⟩

/-- A text in upper case is that of its identifier but for the case. -/
theorem texts_isomorphic_upper :
    parse "01ARZ3NDEKTSV4RRFFQ69G5FAV" = .ok (ofNat 1777027686520646174104517696511196507) ∧
    (ofNat 1777027686520646174104517696511196507).text = "01ARZ3NDEKTSV4RRFFQ69G5FAV".toLower ∧
    ∃ ds, (Utf8.encode "01ARZ3NDEKTSV4RRFFQ69G5FAV").mapM digitValue = .ok ds ∧ ds.length = 26 ∧
      ∀ k ≤ 26, (shiftIn (ds.take k)).toNat =
        (ofNat 1777027686520646174104517696511196507).value / 32 ^ (26 - k) := by
  have hparse : parse "01ARZ3NDEKTSV4RRFFQ69G5FAV" = .ok (ofNat 1777027686520646174104517696511196507) := by
    decide +kernel
  exact ⟨hparse, texts_isomorphic.2.2.1 _ _ hparse⟩

/-- The greatest identifier begins with 7, and the next number has no text. -/
example : parse "7zzzzzzzzzzzzzzzzzzzzzzzzz" = .ok greatest ∧ parse "80000000000000000000000000" = .error .overflow := by
  decide +kernel

end Logbook.EventId
