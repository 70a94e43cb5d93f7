import Logbook.Json.Reading
import Logbook.Proofs.Decimal
import Logbook.Proofs.Utf8
import Mathlib.Tactic.IntervalCases

/-!
# How tokens are spelt

What a value is written with is cut into its tokens again: strings with all their escapes, numbers up to where
something else begins, and blanks not at all.

## Main definitions

* `Json.Token.Lexes` — a document is cut into these tokens.
* `Json.Token.Closes` — a document that does not go on with a number.

## Main results

* `Json.Token.stringPieces_quoted` — a text is read back from between its quotes.
* `Json.Token.lexes_quoted`, `Json.Token.lexes_natural` — strings and numbers in front of a document.
-/

namespace Logbook.Json.Token

/-! ### Bytes of characters -/

/-- The bytes of a character are its own, or beyond those of all ASCII characters. -/
theorem toNat_of_mem_encodeChar {c : Char} {b : UInt8} (h : b ∈ String.utf8EncodeChar c) :
    b.toNat = c.toNat ∨ 0x80 ≤ b.toNat := by
  have hhigh {n : Nat} (h : 0x80 ≤ n) (h' : n < 256) : 0x80 ≤ (UInt8.ofNat n).toNat := by
    rw [Utf8.toNat_ofNat h']
    exact h
  rw [Utf8.encodeChar_eq] at h
  split at h
  · rw [List.mem_singleton] at h
    rw [h, Utf8.toNat_ofNat (by omega)]
    exact Or.inl rfl
  · -- all bytes of a longer form have their highest bit set
    refine Or.inr ?_
    split at h
    all_goals try split at h
    all_goals
      simp only [List.mem_cons, List.not_mem_nil, or_false] at h
      rcases h with rfl | rfl | rfl | rfl <;> exact hhigh (by omega) (by omega)

/-! ### Strings -/

theorem stringPieces_quote (rest : Bytes) : stringPieces (byte '"' :: rest) = some ([], rest) := by
  rw [stringPieces.eq_def]
  cases rest with
  | nil => exact if_pos rfl
  | cons e rest => exact if_pos rfl

theorem stringPieces_plain {b : UInt8} (hquote : b ≠ byte '"') (hslash : b ≠ byte '\\') (hlow : ¬ b < 0x20)
    (rest : Bytes) :
    stringPieces (b :: rest) = (fun r => (Piece.byte b :: r.1, r.2)) <$> stringPieces rest := by
  cases rest with
  | nil =>
    rw [stringPieces.eq_def, stringPieces.eq_def]
    exact if_neg hquote
  | cons e rest =>
    rw [stringPieces.eq_def]
    simp only [if_neg hquote, if_neg hslash, if_neg hlow]
    cases stringPieces (e :: rest) <;> rfl

theorem stringPieces_short {e b : UInt8} (hnum : e ≠ byte 'u') (h : shortEscape? e = some b) (rest : Bytes) :
    stringPieces (byte '\\' :: e :: rest) = (fun r => (Piece.byte b :: r.1, r.2)) <$> stringPieces rest := by
  rw [stringPieces.eq_def]
  simp only [show byte '\\' ≠ byte '"' by decide, if_neg hnum, h, if_true, if_false]
  cases stringPieces rest <;> rfl

theorem stringPieces_unit {h₁ h₂ h₃ h₄ : UInt8} {ds : List Nat}
    (h : [h₁, h₂, h₃, h₄].mapM hexDigit? = some ds) (rest : Bytes) :
    stringPieces (byte '\\' :: byte 'u' :: h₁ :: h₂ :: h₃ :: h₄ :: rest) =
      (fun r => (Piece.unit (Positional.value 16 ds) :: r.1, r.2)) <$> stringPieces rest := by
  rw [stringPieces, if_neg (by decide), if_pos rfl, if_pos rfl, h]
  cases stringPieces rest <;> simp

theorem joinPieces_byte (b : UInt8) (pieces : List Piece) :
    joinPieces (.byte b :: pieces) = (b :: ·) <$> joinPieces pieces := by
  rw [joinPieces]

/-- A code unit that is half of no pair stands for itself. -/
theorem joinPieces_unit {n : Nat} (hhigh : isHigh n = false) (hlow : isLow n = false) (pieces : List Piece) :
    joinPieces (.unit n :: pieces) = (String.utf8EncodeChar (Char.ofNat n) ++ ·) <$> joinPieces pieces := by
  cases pieces with
  | nil => simp [joinPieces, hhigh, hlow]
  | cons piece pieces =>
    cases piece with
    | byte b =>
      rw [joinPieces.eq_def, joinPieces_byte]
      simp only [hhigh, hlow, Bool.or_self, Bool.false_eq_true, if_false]
      cases joinPieces pieces <;> rfl
    | unit m =>
      rw [joinPieces]
      simp only [hhigh, hlow, Bool.false_eq_true, if_false]

/-- Bytes in a string that are read as other bytes, whatever follows them. -/
def Stands (written meant : Bytes) : Prop :=
  ∃ pieces : List Piece,
    (∀ rest, stringPieces (written ++ rest) = (fun r => (pieces ++ r.1, r.2)) <$> stringPieces rest) ∧
      ∀ more, joinPieces (pieces ++ more) = (meant ++ ·) <$> joinPieces more

theorem Stands.append {written meant written' meant' : Bytes} (h : Stands written meant)
    (h' : Stands written' meant') : Stands (written ++ written') (meant ++ meant') := by
  obtain ⟨pieces, hread, hjoin⟩ := h
  obtain ⟨pieces', hread', hjoin'⟩ := h'
  refine ⟨pieces ++ pieces', fun rest => ?_, fun more => ?_⟩
  · rw [List.append_assoc, hread, hread']
    cases stringPieces rest <;> simp
  · rw [List.append_assoc, hjoin, hjoin']
    cases joinPieces more <;> simp

theorem stands_nil : Stands [] [] :=
  ⟨[], fun rest => (id_map (stringPieces rest)).symm, fun more => (id_map (joinPieces more)).symm⟩

/-- Bytes that are neither quotes nor backslashes nor control characters stand for themselves. -/
theorem stands_plain {bytes : Bytes} (h : ∀ b ∈ bytes, b ≠ byte '"' ∧ b ≠ byte '\\' ∧ ¬ b < 0x20) :
    Stands bytes bytes := by
  induction bytes with
  | nil => exact stands_nil
  | cons b bytes ih =>
    obtain ⟨hquote, hslash, hlow⟩ := h b List.mem_cons_self
    have hb : Stands [b] [b] :=
      ⟨[.byte b], fun rest => stringPieces_plain hquote hslash hlow rest, fun more => joinPieces_byte b more⟩
    exact hb.append (ih fun b hb => h b (List.mem_cons_of_mem _ hb))

theorem stands_short {e b : UInt8} (hnum : e ≠ byte 'u') (h : shortEscape? e = some b) :
    Stands [byte '\\', e] [b] :=
  ⟨[.byte b], fun rest => stringPieces_short hnum h rest, fun more => joinPieces_byte b more⟩

theorem hexDigit?_digitChar : ∀ d < 16, hexDigit? (byte (Nat.digitChar d)) = some d := by decide

theorem encodeChar_digitChar : ∀ d < 16, String.utf8EncodeChar (Nat.digitChar d) = [byte (Nat.digitChar d)] := by
  decide

/-- A control character stands for itself in its numeric escape. -/
theorem stands_control {c : Char} (h : c.toNat < 0x20) :
    Stands ((['\\', 'u', '0', '0'] ++ hexPair c.toNat).flatMap String.utf8EncodeChar) (String.utf8EncodeChar c) := by
  have hpair : hexPair c.toNat = [Nat.digitChar (c.toNat / 16 % 16), Nat.digitChar (c.toNat % 16)] := rfl
  have hhigh := Nat.mod_lt (c.toNat / 16) (show 0 < 16 by decide)
  have hlow := Nat.mod_lt c.toNat (show 0 < 16 by decide)
  have hdigitBytes : [Nat.digitChar (c.toNat / 16 % 16), Nat.digitChar (c.toNat % 16)].flatMap
      String.utf8EncodeChar = [byte (Nat.digitChar (c.toNat / 16 % 16)), byte (Nat.digitChar (c.toNat % 16))] := by
    rw [List.flatMap_cons, List.flatMap_singleton, encodeChar_digitChar _ hhigh, encodeChar_digitChar _ hlow]
    rfl
  have hwritten : (['\\', 'u', '0', '0'] ++ hexPair c.toNat).flatMap String.utf8EncodeChar =
      [byte '\\', byte 'u', byte '0', byte '0', byte (Nat.digitChar (c.toNat / 16 % 16)),
        byte (Nat.digitChar (c.toNat % 16))] := by
    rw [hpair, List.flatMap_append, hdigitBytes]
    rfl
  have hdigits : [byte '0', byte '0', byte (Nat.digitChar (c.toNat / 16 % 16)),
      byte (Nat.digitChar (c.toNat % 16))].mapM hexDigit? = some [0, 0, c.toNat / 16 % 16, c.toNat % 16] := by
    simp only [List.mapM_cons, List.mapM_nil, hexDigit?_digitChar _ hhigh, hexDigit?_digitChar _ hlow]
    rfl
  have hvalue : Positional.value 16 [0, 0, c.toNat / 16 % 16, c.toNat % 16] = c.toNat := by
    show (((0 * 16 + 0) * 16 + 0) * 16 + c.toNat / 16 % 16) * 16 + c.toNat % 16 = c.toNat
    omega
  have hunit : isHigh c.toNat = false ∧ isLow c.toNat = false := by
    constructor <;> simp [isHigh, isLow] <;> omega
  -- the escape is read as one code unit, which is the character
  refine ⟨[.unit c.toNat], fun rest => ?_, fun more => ?_⟩
  · rw [hwritten]
    have := stringPieces_unit hdigits rest
    rw [hvalue] at this
    exact this
  · have := joinPieces_unit hunit.1 hunit.2 more
    rw [Char.ofNat_toNat] at this
    exact this

/-- The form of a character in a string stands for that character. -/
theorem stands_escape (c : Char) :
    Stands ((escape c).flatMap String.utf8EncodeChar) (String.utf8EncodeChar c) := by
  have hshort {e : UInt8} {b : UInt8} (hnum : e ≠ byte 'u') (h : shortEscape? e = some b) :
      Stands [byte '\\', e] [b] := stands_short hnum h
  rw [escape]
  by_cases hquote : c = '"'
  · subst hquote
    exact hshort (by decide) (by decide)
  by_cases hslash : c = '\\'
  · subst hslash
    exact hshort (by decide) (by decide)
  rw [if_neg hquote, if_neg hslash]
  -- the other characters that have an escape of their own
  iterate 5
    split
    · rename_i h
      subst h
      exact hshort (by decide) (by decide)
  split
  · rename_i h
    exact stands_control h
  · rename_i hlow
    rw [List.flatMap_singleton]
    refine stands_plain fun b hb => ?_
    have hb := toNat_of_mem_encodeChar hb
    have hne {d : Char} (hd : d.toNat < 0x80) (hne : c ≠ d) : b ≠ byte d := by
      rintro rfl
      rw [byte, Utf8.toNat_ofNat (by omega)] at hb
      exact hne (Char.toNat_inj.1 (show c.toNat = d.toNat by omega))
    refine ⟨hne (by decide) hquote, hne (by decide) hslash, ?_⟩
    rw [UInt8.lt_iff_toNat_lt]
    show ¬ b.toNat < 32
    omega

theorem stands_flatMap_escape (text : List Char) :
    Stands ((text.flatMap escape).flatMap String.utf8EncodeChar) (text.flatMap String.utf8EncodeChar) := by
  induction text with
  | nil => exact stands_nil
  | cons c text ih =>
    rw [List.flatMap_cons, List.flatMap_append, List.flatMap_cons]
    exact (stands_escape c).append ih

/-- What is behind the opening quote of a text. -/
def behindQuote (text : String) : Bytes :=
  (text.toList.flatMap escape).flatMap String.utf8EncodeChar ++ [byte '"']

theorem flatMap_quoted (text : String) :
    (quoted text).flatMap String.utf8EncodeChar = byte '"' :: behindQuote text := by
  rw [quoted, List.flatMap_append, List.flatMap_cons, behindQuote]
  rfl

/-- **A text is read back from between its quotes.** -/
theorem stringPieces_quoted (text : String) (rest : Bytes) :
    ∃ pieces, stringPieces (behindQuote text ++ rest) = some (pieces, rest) ∧ textOf pieces = some text := by
  obtain ⟨pieces, hread, hjoin⟩ := stands_flatMap_escape text.toList
  refine ⟨pieces, ?_, ?_⟩
  · rw [behindQuote, List.append_assoc, List.singleton_append, hread, stringPieces_quote]
    simp
  · have hbytes : joinPieces pieces = some (Utf8.encode text) := by
      have := hjoin []
      rw [List.append_nil, joinPieces] at this
      rw [this]
      simp [Utf8.encode]
    rw [textOf, hbytes]
    show Utf8.decode? (Utf8.encode text) = some text
    rw [Utf8.decode?, Utf8.decode_encode]
    rfl

/-! ### Tokens in front of a document -/

/-- A document is cut into these tokens. -/
def Lexes (document : Bytes) (tokens : List Token) : Prop :=
  ∀ fuel, document.length ≤ fuel → lexWithin fuel document = some tokens

/-- A document that does not go on with a number. -/
def Closes (document : Bytes) : Prop :=
  ∀ b ∈ document.head?, isDigit b = false ∧ b ≠ byte '.' ∧ b ≠ byte 'e' ∧ b ≠ byte 'E'

variable {document : Bytes} {tokens : List Token}

theorem closes_nil : Closes [] := nofun

theorem closes_cons {b : UInt8} (h : isDigit b = false ∧ b ≠ byte '.' ∧ b ≠ byte 'e' ∧ b ≠ byte 'E')
    (document : Bytes) : Closes (b :: document) := by
  intro b' hb'
  rw [List.head?_cons, Option.mem_some_iff] at hb'
  exact hb' ▸ h

theorem lexes_nil : Lexes [] [] := fun fuel _ => by rw [lexWithin]

theorem lex_eq (h : Lexes document tokens) : lex document = some tokens := h _ (Nat.le_refl _)

/-- A blank is no token. -/
theorem lexes_blank {b : UInt8} (hb : isBlank b = true) (h : Lexes document tokens) :
    Lexes (b :: document) tokens := by
  intro fuel hfuel
  cases fuel with
  | zero => cases hfuel
  | succ fuel =>
    rw [lexWithin, if_pos hb]
    exact h fuel (Nat.le_of_succ_le_succ hfuel)

/-- The first token, and what follows it. -/
theorem lexes_next {b : UInt8} (written : Bytes) {token : Token} (hb : isBlank b = false)
    (hnext : next b (written ++ document) = some (token, document)) (h : Lexes document tokens) :
    Lexes (b :: written ++ document) (token :: tokens) := by
  intro fuel hfuel
  cases fuel with
  | zero => cases hfuel
  | succ fuel =>
    have hlength : document.length ≤ fuel := by
      have := Nat.le_of_succ_le_succ hfuel
      rw [List.append_eq, List.length_append] at this
      omega
    rw [List.cons_append, lexWithin, if_neg (by simp [hb]), hnext]
    show (lexWithin fuel document >>= fun tokens => some (token :: tokens)) = _
    rw [h fuel hlength]
    rfl

theorem lexes_quoted (text : String) (h : Lexes document tokens) :
    Lexes ((quoted text).flatMap String.utf8EncodeChar ++ document) (.string (some text) :: tokens) := by
  obtain ⟨pieces, hread, htext⟩ := stringPieces_quoted text document
  rw [flatMap_quoted]
  refine lexes_next _ (by decide) ?_ h
  show (fun r : List Piece × Bytes => (Token.string (textOf r.1), r.2)) <$> stringPieces _ = _
  rw [hread]
  simp [htext]

/-- Half of a pair is no text. -/
theorem lexes_halfPair (h : Lexes document tokens) :
    Lexes (halfPair.flatMap String.utf8EncodeChar ++ document) (.string none :: tokens) := by
  have hbytes : halfPair.flatMap String.utf8EncodeChar =
      byte '"' :: [byte '\\', byte 'u', byte 'd', byte '8', byte '0', byte '0', byte '"'] := by decide
  have hunit : [byte 'd', byte '8', byte '0', byte '0'].mapM hexDigit? = some [13, 8, 0, 0] := by decide
  have htext : textOf [.unit (Positional.value 16 [13, 8, 0, 0])] = none := by decide
  rw [hbytes]
  refine lexes_next _ (by decide) ?_ h
  show (fun r : List Piece × Bytes => (Token.string (textOf r.1), r.2)) <$> stringPieces _ = _
  have hread := stringPieces_unit hunit (byte '"' :: document)
  rw [stringPieces_quote] at hread
  show (fun r : List Piece × Bytes => (Token.string (textOf r.1), r.2)) <$>
    stringPieces (byte '\\' :: byte 'u' :: byte 'd' :: byte '8' :: byte '0' :: byte '0' :: byte '"' :: document) = _
  rw [hread]
  simp [htext]

/-! ### Numbers -/

theorem isDigit_byte_digitChar : ∀ d < 10, isDigit (byte (Decimal.digitChar d)) = true := by decide

theorem digitChar_eq_zero : ∀ d < 10, byte (Decimal.digitChar d) = byte '0' → Decimal.digitChar d = '0' := by decide

theorem isBlank_byte_digitChar : ∀ d < 10, isBlank (byte (Decimal.digitChar d)) = false := by decide

theorem next_byte_digitChar (d : Nat) (h : d < 10) (rest : Bytes) :
    next (byte (Decimal.digitChar d)) rest = numberFrom (byte (Decimal.digitChar d)) rest := by
  interval_cases d <;> rfl

theorem fractionPart_of_closes (h : Closes document) : fractionPart document = some ([], document) := by
  cases document with
  | nil => rfl
  | cons b rest => exact if_neg (h b rfl).2.1

theorem exponentPart_of_closes (h : Closes document) : exponentPart document = some ([], document) := by
  cases document with
  | nil => rfl
  | cons b rest =>
    obtain ⟨-, -, hsmall, hgreat⟩ := h b rfl
    exact if_neg (not_or.2 ⟨hsmall, hgreat⟩)

/-- Digits are taken up to where no digit follows. -/
theorem digitRun_append {digits : Bytes} (hne : digits ≠ []) (hdigits : ∀ b ∈ digits, isDigit b = true)
    (h : Closes document) : digitRun (digits ++ document) = some (digits, document) := by
  have hstop : document.takeWhile isDigit = [] ∧ document.dropWhile isDigit = document := by
    cases document with
    | nil => exact ⟨rfl, rfl⟩
    | cons b rest =>
      have hb := (h b rfl).1
      exact ⟨List.takeWhile_cons_of_neg (by simp [hb]), List.dropWhile_cons_of_neg (by simp [hb])⟩
  rw [digitRun, List.takeWhile_append_of_pos hdigits, List.dropWhile_append_of_pos hdigits, hstop.1, hstop.2,
    List.append_nil]
  cases digits with
  | nil => exact absurd rfl hne
  | cons b digits => rfl

/-- The numeral of a natural number is a number, as long as nothing follows that goes on with it. -/
theorem unsigned_natural (n : Nat) (h : Closes document) :
    unsigned ((Decimal.natural n).map byte ++ document) = some ((Decimal.natural n).map byte, document) := by
  have hdigits : ∀ b ∈ (Decimal.natural n).map byte, isDigit b = true := by
    intro b hb
    obtain ⟨c, hc, rfl⟩ := List.mem_map.1 hb
    obtain ⟨d, hd, rfl⟩ := Decimal.exists_of_mem_natural hc
    exact isDigit_byte_digitChar d hd
  have hwhole : wholePart ((Decimal.natural n).map byte ++ document) =
      some ((Decimal.natural n).map byte, document) := by
    -- a zero that comes first is the whole numeral
    by_cases hn : n = 0
    · subst hn
      rfl
    · have hhead := Decimal.head?_natural hn
      have hrun := digitRun_append (by simp [Decimal.natural_ne_nil]) hdigits h
      cases hnumeral : Decimal.natural n with
      | nil => exact absurd hnumeral (Decimal.natural_ne_nil n)
      | cons c rest =>
        rw [hnumeral] at hhead hrun
        obtain ⟨d, hd, rfl⟩ := Decimal.exists_of_mem_natural (n := n) (c := c) (by simp [hnumeral])
        have hbyte : byte (Decimal.digitChar d) ≠ byte '0' := by
          intro heq
          exact hhead (congrArg some (digitChar_eq_zero d hd heq))
        rw [List.map_cons, List.cons_append] at hrun ⊢
        rw [wholePart, if_neg hbyte, hrun]
  rw [unsigned, hwhole]
  simp [fractionPart_of_closes h, exponentPart_of_closes h]

theorem lexes_natural (n : Nat) (hcloses : Closes document) (h : Lexes document tokens) :
    Lexes ((Decimal.natural n).flatMap String.utf8EncodeChar ++ document)
      (.number (Decimal.natural n) :: tokens) := by
  have hascii : ∀ c ∈ Decimal.natural n, c.toNat < 128 := by
    intro c hc
    obtain ⟨d, hd, rfl⟩ := Decimal.exists_of_mem_natural hc
    rw [Decimal.toNat_digitChar d hd]
    omega
  have hspelling : ((Decimal.natural n).map byte).map (fun b => Char.ofNat b.toNat) = Decimal.natural n := by
    rw [List.map_map]
    conv_rhs => rw [← List.map_id (Decimal.natural n)]
    refine List.map_congr_left fun c hc => ?_
    have := hascii c hc
    rw [Function.comp_apply, byte, Utf8.toNat_ofNat (by omega), Char.ofNat_toNat, id]
  have hunsigned := unsigned_natural n hcloses
  rw [Utf8.flatMap_encodeChar hascii]
  cases hnumeral : Decimal.natural n with
  | nil => exact absurd hnumeral (Decimal.natural_ne_nil n)
  | cons c rest =>
    obtain ⟨d, hd, rfl⟩ := Decimal.exists_of_mem_natural (n := n) (c := c) (by simp [hnumeral])
    rw [hnumeral] at hunsigned hspelling
    rw [List.map_cons] at hunsigned hspelling ⊢
    refine lexes_next _ ?_ ?_ h
    · exact isBlank_byte_digitChar d hd
    · have hminus : byte (Decimal.digitChar d) ≠ byte '-' := by
        interval_cases d <;> decide
      change next (byte (Decimal.digitChar d)) (rest.map byte ++ document) = _
      rw [next_byte_digitChar d hd, numberFrom, if_neg hminus, ← List.cons_append, hunsigned, ← hspelling]
      rfl

end Logbook.Json.Token
