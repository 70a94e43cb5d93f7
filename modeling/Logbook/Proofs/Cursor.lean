import Logbook.Cursor
import Logbook.Proofs.Canonical

/-!
# Reading cursors back

Sixteen bytes are a forward cursor, and seventeen are a cursor whose direction the last one tells.  As a byte string has
one spelling, a cursor has the spelling that is its text, and a forward cursor has that of its identifier besides.

## Main results

* `Cursor.parse_text` — a cursor is read back from its text.
* `Cursor.parse_eq_ok_iff` — which texts are read as a cursor.
* `Cursor.parse_exact` — **the texts that are read are the spellings of sixteen bytes, or of seventeen with a tag**, and
  what is read from them.
-/

namespace Logbook

namespace Cursor

variable (c : Cursor)

theorem length_toBytes : c.toBytes.length = 17 := by
  rw [toBytes, List.length_append, EventId.length_toBytes, List.length_singleton]

/-- A cursor is read back from its bytes. -/
theorem ofBytes_toBytes : ofBytes c.toBytes = .ok c := by
  have hshort : ¬ c.toBytes.length = EventId.byteLength := by
    rw [length_toBytes]
    decide
  have hlong : c.toBytes.length = EventId.byteLength + 1 := length_toBytes c
  have htake : c.toBytes.take EventId.byteLength = c.id.toBytes :=
    List.take_left' (EventId.length_toBytes c.id)
  have hlast : c.toBytes.getLastD 0 = tag c.direction := List.getLastD_concat
  rw [ofBytes, if_neg hshort, if_pos hlong, htake, hlast, EventId.ofNat_toNat_toBytes]
  obtain ⟨id, direction⟩ := c
  cases direction with
  | forward => rfl
  | backward => rfl

/-- **A cursor is read back from its text.** -/
@[simp] theorem parse_text : parse c.text = .ok c := by
  rw [parse, parseBytes, text, Base64.decode_encode]
  exact ofBytes_toBytes c

theorem text_ne_empty : c.text ≠ "" := by
  refine Base64.encode_ne_empty fun hnil => ?_
  have hlength := length_toBytes c
  rw [hnil] at hlength
  cases hlength

/-! ### Which texts are read -/

variable {c} {b : Bytes} {s : String}

/-- Seventeen bytes are an identifier and a tag. -/
theorem exists_concat (h : b.length = 17) : ∃ (id : EventId) (last : UInt8), b = id.toBytes ++ [last] := by
  rcases List.eq_nil_or_concat b with rfl | ⟨front, last, rfl⟩
  · cases h
  · rw [List.concat_eq_append, List.length_append, List.length_singleton] at h
    refine ⟨.ofNat (Bytes.toNat front), last, ?_⟩
    rw [EventId.toBytes_ofNat_toNat (Nat.succ.inj h), List.concat_eq_append]

/-- The tag is that of a direction. -/
theorem eq_of_ofBytes_concat {id : EventId} {last : UInt8} (h : ofBytes (id.toBytes ++ [last]) = .ok c) :
    id.toBytes ++ [last] = c.toBytes := by
  have hlong : (id.toBytes ++ [last]).length = EventId.byteLength + 1 := length_toBytes (forward id)
  have hshort : ¬ (id.toBytes ++ [last]).length = EventId.byteLength := by
    rw [hlong]
    decide
  have hlast : (id.toBytes ++ [last]).getLastD 0 = last := List.getLastD_concat
  by_cases hforward : last = 1
  · subst hforward
    obtain rfl : forward id = c := Except.ok.inj ((ofBytes_toBytes (forward id)).symm.trans h)
    rfl
  · by_cases hbackward : last = 0
    · subst hbackward
      obtain rfl : backward id = c := Except.ok.inj ((ofBytes_toBytes (backward id)).symm.trans h)
      rfl
    · rw [ofBytes, if_neg hshort, if_pos hlong, hlast] at h
      dsimp only at h
      split at h
      · exact absurd rfl hforward
      · exact absurd rfl hbackward
      · cases h

/-- Bytes are read as a cursor if they are its bytes, or those of its identifier and it goes forward. -/
theorem ofBytes_eq_ok_iff :
    ofBytes b = .ok c ↔ b = c.toBytes ∨ c.direction = .forward ∧ b = c.id.toBytes := by
  have hshort (id : EventId) : ofBytes id.toBytes = .ok (forward id) := by
    have hlength : id.toBytes.length = EventId.byteLength := EventId.length_toBytes id
    rw [ofBytes, if_pos hlength, EventId.ofNat_toNat_toBytes]
  constructor
  · intro h
    by_cases hb : b.length = EventId.byteLength
    · rw [← EventId.toBytes_ofNat_toNat hb, hshort] at h
      obtain rfl := Except.ok.inj h
      exact Or.inr ⟨rfl, (EventId.toBytes_ofNat_toNat hb).symm⟩
    · by_cases hlong : b.length = EventId.byteLength + 1
      · obtain ⟨id, last, rfl⟩ := exists_concat hlong
        exact Or.inl (eq_of_ofBytes_concat h)
      · rw [ofBytes, if_neg hb, if_neg hlong] at h
        cases h
  · rintro (rfl | ⟨hdirection, rfl⟩)
    · exact ofBytes_toBytes c
    · rw [hshort, forward, ← hdirection]

/-- A text is read as a cursor if it spells bytes that are. -/
theorem parse_eq_ok_iff_spells : parse s = .ok c ↔ ∃ b, Base64.Spells s b ∧ ofBytes b = .ok c := by
  rw [parse, parseBytes]
  constructor
  · intro h
    split at h
    · rename_i b hb
      exact ⟨b, Base64.decode_eq_ok_iff.1 hb, h⟩
    · cases h
  · rintro ⟨b, hb, h⟩
    rw [Base64.decode_eq_ok_iff.2 hb]
    exact h

/-- **A text is read as a cursor if it is the cursor's, or spells its identifier and it goes forward.** -/
theorem parse_eq_ok_iff :
    parse s = .ok c ↔ s = c.text ∨ c.direction = .forward ∧ s = Base64.encode c.id.toBytes := by
  rw [parse_eq_ok_iff_spells]
  constructor
  · rintro ⟨b, hb, h⟩
    rw [Base64.spells_iff] at hb
    rcases ofBytes_eq_ok_iff.1 h with rfl | ⟨hdirection, rfl⟩
    · exact Or.inl hb
    · exact Or.inr ⟨hdirection, hb⟩
  · rintro (rfl | ⟨hdirection, rfl⟩)
    · exact ⟨c.toBytes, Base64.spells_iff.2 rfl, ofBytes_toBytes c⟩
    · exact ⟨c.id.toBytes, Base64.spells_iff.2 rfl, ofBytes_eq_ok_iff.2 (Or.inr ⟨hdirection, rfl⟩)⟩

/-- Sixteen bytes, or seventeen of which the last is a tag. -/
def Payload (b : Bytes) : Prop := b.length = 16 ∨ b.length = 17 ∧ (b.getLast? = some 0 ∨ b.getLast? = some 1)

/-- The bytes that are read as a cursor. -/
theorem exists_ofBytes_iff : (∃ c, ofBytes b = .ok c) ↔ Payload b := by
  constructor
  · rintro ⟨c, h⟩
    rcases ofBytes_eq_ok_iff.1 h with rfl | ⟨-, rfl⟩
    · refine Or.inr ⟨length_toBytes c, ?_⟩
      rw [toBytes, List.getLast?_concat]
      cases c.direction with
      | forward => exact Or.inr rfl
      | backward => exact Or.inl rfl
    · exact Or.inl (EventId.length_toBytes c.id)
  · rintro (h | ⟨h, hlast⟩)
    · refine ⟨forward (.ofNat (Bytes.toNat b)), ofBytes_eq_ok_iff.2 (Or.inr ⟨rfl, ?_⟩)⟩
      exact (EventId.toBytes_ofNat_toNat h).symm
    · obtain ⟨id, last, rfl⟩ := exists_concat h
      rw [List.getLast?_concat, Option.some.injEq, Option.some.injEq] at hlast
      rcases hlast with rfl | rfl
      · exact ⟨backward id, ofBytes_toBytes (backward id)⟩
      · exact ⟨forward id, ofBytes_toBytes (forward id)⟩

/-- The text of a cursor and that of its identifier spell byte strings of different lengths. -/
theorem text_ne_encode (c : Cursor) (id : EventId) : c.text ≠ Base64.encode id.toBytes := by
  intro h
  have hbytes := Base64.decode_encode c.toBytes
  rw [← text, h, Base64.decode_encode] at hbytes
  have hlength := congrArg List.length (Except.ok.inj hbytes)
  rw [length_toBytes, EventId.length_toBytes] at hlength
  cases hlength

/-- **The texts that are read are the spellings of sixteen bytes, or of seventeen with a tag.**  What is read from
seventeen bytes has the text again, and what is read from sixteen goes forward from them.  So a backward cursor has one
spelling and a forward one has two. -/
theorem parse_exact :
    (∀ c : Cursor, parse c.text = .ok c) ∧
    (∀ s : String, (∃ c, parse s = .ok c) ↔ ∃ b, Base64.Spells s b ∧ Payload b) ∧
    (∀ (s : String) (b : Bytes) (c : Cursor), Base64.Spells s b → parse s = .ok c →
      (b.length = 17 → c.text = s) ∧ (b.length = 16 → c.direction = .forward ∧ c.id.toBytes = b)) ∧
    ∀ id : EventId, (∀ s, parse s = .ok (backward id) ↔ s = (backward id).text) ∧
      (∀ s, parse s = .ok (forward id) ↔ s = (forward id).text ∨ s = Base64.encode id.toBytes) ∧
      (forward id).text ≠ Base64.encode id.toBytes := by
  refine ⟨parse_text, fun s => ?_, fun s b c hb h => ?_, fun id => ⟨fun s => ?_, fun s => ?_, text_ne_encode _ id⟩⟩
  · constructor
    · rintro ⟨c, h⟩
      obtain ⟨b, hb, hc⟩ := parse_eq_ok_iff_spells.1 h
      exact ⟨b, hb, exists_ofBytes_iff.1 ⟨c, hc⟩⟩
    · rintro ⟨b, hb, h⟩
      obtain ⟨c, hc⟩ := exists_ofBytes_iff.2 h
      exact ⟨c, parse_eq_ok_iff_spells.2 ⟨b, hb, hc⟩⟩
  · have hc : ofBytes b = .ok c := by
      rw [parse, parseBytes, Base64.decode_eq_ok_iff.2 hb] at h
      exact h
    rcases ofBytes_eq_ok_iff.1 hc with rfl | ⟨hdirection, rfl⟩
    · refine ⟨fun _ => (Base64.spells_iff.1 hb).symm, fun hlength => ?_⟩
      rw [length_toBytes] at hlength
      cases hlength
    · refine ⟨fun hlength => ?_, fun _ => ⟨hdirection, rfl⟩⟩
      rw [EventId.length_toBytes] at hlength
      cases hlength
  · rw [parse_eq_ok_iff]
    exact or_iff_left fun h => nomatch h.1
  · rw [parse_eq_ok_iff]
    exact or_congr_right (and_iff_right rfl)

/-- The cursor before all events is read from a text with its tag, and from one without. -/
theorem parse_exact_start :
    parse "AAAAAAAAAAAAAAAAAAAAAAE" = .ok start ∧ start.text = "AAAAAAAAAAAAAAAAAAAAAAE" ∧
      parse "AAAAAAAAAAAAAAAAAAAAAA" = .ok start ∧
      start.direction = .forward ∧ start.id.toBytes = List.replicate 16 0 := by
  have hlong : Base64.Spells "AAAAAAAAAAAAAAAAAAAAAAE" (List.replicate 16 0 ++ [1]) :=
    Base64.spells_iff.2 (by decide +kernel)
  have hshort : Base64.Spells "AAAAAAAAAAAAAAAAAAAAAA" (List.replicate 16 0) :=
    Base64.spells_iff.2 (by decide +kernel)
  have hparse : parse "AAAAAAAAAAAAAAAAAAAAAAE" = .ok start := by decide +kernel
  have hparse' : parse "AAAAAAAAAAAAAAAAAAAAAA" = .ok start := by decide +kernel
  exact ⟨hparse, (parse_exact.2.2.1 _ _ _ hlong hparse).1 rfl, hparse', (parse_exact.2.2.1 _ _ _ hshort hparse').2 rfl⟩

/-- Spare bits that are not zero, padding and other tags are refused. -/
example : parse "AAAAAAAAAAAAAAAAAAAAAAF" = .error (.spelling (.lastSymbol 70 22)) ∧
    parse "AAAAAAAAAAAAAAAAAAAAAA==" = .error (.spelling .padding) ∧
    parse "AAAAAAAAAAAAAAAAAAAAAAI" = .error (.tag 2) := by
  decide +kernel

end Cursor

end Logbook
