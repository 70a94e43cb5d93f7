import Logbook.Proofs.Stamp

/-!
# The texts of timestamps

The strict reader takes a text for a timestamp just where it has the shape that RFC 3339 gives it.  The year has four
digits and every other number two, the fraction of a second may be missing, and second 60 is a leap second.

## Main definitions

* `Stamp.Fraction`, `Stamp.Zone` — the shapes of a fraction of a second and of an offset.
* `Stamp.Pieces` — the pieces of a timestamp, with what they stand for.

## Main results

* `Stamp.read_text` — well-formed pieces are read.
* `Stamp.read_eq_ok_iff` — **the timestamps that a text is read as.**
-/

namespace Logbook.Stamp

/-- A fraction of a second, with its nanoseconds.  Digits behind the ninth do not count. -/
inductive Fraction : List Char → Nat → Prop
  /-- The fraction is missing. -/
  | missing : Fraction [] 0
  /-- A point and one digit or more. -/
  | digits {ds : List Char} : ds ≠ [] → (∀ c ∈ ds, Decimal.isDigit c = true) →
      Fraction ('.' :: ds) (Decimal.valueOf (ds.take 9) * 10 ^ (9 - ds.length))

/-- An offset, with the seconds by which the clock is ahead. -/
inductive Zone : List Char → Int → Prop
  /-- The clock of Greenwich. -/
  | zulu {c : Char} : c = 'Z' ∨ c = 'z' → Zone [c] 0
  /-- A clock that is ahead. -/
  | ahead {hours minutes : Nat} : hours ≤ 23 → minutes ≤ 59 →
      Zone ('+' :: (Decimal.fixed 2 hours ++ ':' :: Decimal.fixed 2 minutes)) (hours * 3600 + minutes * 60 : Nat)
  /-- A clock that is behind. -/
  | behind {hours minutes : Nat} : hours ≤ 23 → minutes ≤ 59 →
      Zone ('-' :: (Decimal.fixed 2 hours ++ ':' :: Decimal.fixed 2 minutes)) (-(hours * 3600 + minutes * 60 : Nat))

/-- The pieces of a timestamp. -/
structure Pieces where
  /-- The date. -/
  date : Date
  /-- What stands between the date and the time of day. -/
  separator : Char
  /-- The hour. -/
  hour : Nat
  /-- The minute. -/
  minute : Nat
  /-- The second, which is 60 in a leap second. -/
  second : Nat
  /-- The text of the fraction of a second. -/
  fraction : List Char
  /-- The nanoseconds of the fraction. -/
  nanos : Nat
  /-- The text of the offset. -/
  zone : List Char
  /-- The seconds by which the clock is ahead. -/
  offset : Int

namespace Pieces

/-- The text of a timestamp with the pieces. -/
def text (p : Pieces) : List Char :=
  Decimal.fixed 4 p.date.year.toNat ++ '-' :: (Decimal.fixed 2 p.date.month ++ '-' ::
    (Decimal.fixed 2 p.date.day ++ p.separator :: (Decimal.fixed 2 p.hour ++ ':' ::
      (Decimal.fixed 2 p.minute ++ ':' :: (Decimal.fixed 2 p.second ++ (p.fraction ++ p.zone))))))

/-- Whether a timestamp can have the pieces. -/
structure WellFormed (p : Pieces) : Prop where
  /-- The calendar has the date. -/
  date : p.date.Exists
  /-- The year has four digits. -/
  year : 0 ≤ p.date.year ∧ p.date.year ≤ 9999
  /-- A letter or a blank stands behind the date. -/
  separator : p.separator = 'T' ∨ p.separator = 't' ∨ p.separator = ' '
  /-- The day has the hour. -/
  hour : p.hour ≤ 23
  /-- The hour has the minute. -/
  minute : p.minute ≤ 59
  /-- The minute has the second. -/
  second : p.second ≤ 60
  /-- The fraction has the nanoseconds. -/
  fraction : Fraction p.fraction p.nanos
  /-- The offset has the seconds. -/
  zone : Zone p.zone p.offset

/-- Whether a timestamp is the one that the pieces show.  Leap seconds go on behind second 59. -/
structure Shows (p : Pieces) (s : Stamp) : Prop where
  /-- What the clock shows. -/
  clock : s.localSeconds =
    p.date.toDays * secondsPerDay + p.hour * 3600 + p.minute * 60 + (if p.second = 60 then 59 else p.second : Nat)
  /-- The nanoseconds. -/
  nanos : s.instant.nanos = if p.second = 60 then p.nanos + nanosPerSecond else p.nanos
  /-- The offset of the clock. -/
  offset : s.offset = p.offset

end Pieces

/-- A timestamp is determined by what the pieces show. -/
theorem Pieces.Shows.eq {p : Pieces} {s s' : Stamp} (h : p.Shows s) (h' : p.Shows s') : s = s' := by
  obtain ⟨⟨seconds, nanos, hnanos⟩, offset, hoffset⟩ := s
  obtain ⟨⟨seconds', nanos', hnanos'⟩, offset', hoffset'⟩ := s'
  have hclock := h.clock.trans h'.clock.symm
  have hsame := h.nanos.trans h'.nanos.symm
  have hahead := h.offset.trans h'.offset.symm
  simp only [localSeconds] at hclock hsame hahead
  obtain rfl := hahead
  obtain rfl := (Int.add_left_inj offset).1 hclock
  obtain rfl := hsame
  rfl

/-! ### Well-formed pieces are read -/

theorem Fraction.lt {text : List Char} {nanos : Nat} (h : Fraction text nanos) : nanos < nanosPerSecond := by
  cases h with
  | missing => decide
  | @digits ds hne hds =>
    have htake : ∀ c ∈ ds.take 9, Decimal.isDigit c = true := fun c hc => hds c (List.mem_of_mem_take hc)
    have hlt := Decimal.valueOf_lt htake
    have hpow : 10 ^ (ds.take 9).length * 10 ^ (9 - ds.length) = nanosPerSecond := by
      rw [← Nat.pow_add, List.length_take, show min 9 ds.length + (9 - ds.length) = 9 by omega]
      rfl
    rw [← hpow]
    exact Nat.mul_lt_mul_of_pos_right hlt (Nat.pow_pos (Nat.succ_pos 9))

/-- An offset starts with neither a point nor a numeral. -/
theorem Zone.exists_cons {text : List Char} {offset : Int} (h : Zone text offset) :
    ∃ c rest, text = c :: rest ∧ c ≠ '.' ∧ Decimal.isDigit c = false := by
  cases h with
  | zulu hc => exact ⟨_, _, rfl, by rcases hc with rfl | rfl <;> decide⟩
  | ahead => exact ⟨_, _, rfl, by decide⟩
  | behind => exact ⟨_, _, rfl, by decide⟩

theorem Zone.natAbs_lt {text : List Char} {offset : Int} (h : Zone text offset) : offset.natAbs < secondsPerDay := by
  simp only [secondsPerDay]
  cases h with
  | zulu => decide
  | ahead hhours hminutes => omega
  | behind hhours hminutes => omega

/-- An offset is read. -/
theorem Zone.run {text : List Char} {offset : Int} (h : Zone text offset) :
    strictOffset.run text = .ok (offset, []) := by
  cases h with
  | zulu hc => rcases hc with rfl | rfl <;> rfl
  | ahead hhours hminutes =>
    have hsize := offsetSize_run (Nat.lt_of_le_of_lt hhours (by decide)) (Nat.lt_succ_of_le hminutes)
    exact run_bind_ok (f := fun size : Nat => (pure (size : Int) : Reader Int)) hsize
  | behind hhours hminutes =>
    have hsize := offsetSize_run (Nat.lt_of_le_of_lt hhours (by decide)) (Nat.lt_succ_of_le hminutes)
    exact run_bind_ok (f := fun size : Nat => (pure (-(size : Int)) : Reader Int)) hsize

/-- A fraction is read up to the offset. -/
theorem Fraction.run {text zone : List Char} {nanos : Nat} {offset : Int} (h : Fraction text nanos)
    (hzone : Zone zone offset) : fraction.run (text ++ zone) = .ok (nanos, zone) := by
  obtain ⟨c, rest, rfl, hpoint, hc⟩ := hzone.exists_cons
  cases h with
  | missing =>
    show fraction.run (c :: rest) = _
    unfold fraction
    rw [run_bind_ok rfl]
    split
    case h_1 heq => exact absurd (List.cons.inj heq).1 hpoint
    case h_2 => rfl
  | digits hne hds => exact fraction_run hne hds hc rest

/-- What is read from the text of well-formed pieces. -/
theorem read_text_eq {p : Pieces} (h : p.WellFormed) :
    read p.text = assemble p.date p.hour p.minute p.second p.nanos p.offset :=
  read_pieces h.date h.year.1 h.year.2 h.separator h.hour h.minute h.second (h.fraction.run h.zone) h.zone.run

/-- **Well-formed pieces are read.** -/
theorem read_text {p : Pieces} (h : p.WellFormed) : ∃ s, read p.text = .ok s := by
  have hoffset := h.zone.natAbs_lt
  have hnanos := h.fraction.lt
  have hleap : p.nanos + nanosPerSecond < 2 * nanosPerSecond := by omega
  rw [read_text_eq h, assemble]
  split
  · exact ⟨_, ofClock_eq hoffset hleap⟩
  · exact ⟨_, ofClock_eq hoffset (Nat.lt_trans hnanos (by decide))⟩

/-! ### What is read is well-formed -/

theorem of_oneOf_run {p : Char → Bool} {text rest : List Char} {u : Unit} (h : (oneOf p).run text = .ok (u, rest)) :
    ∃ c, p c = true ∧ text = c :: rest := by
  unfold oneOf at h
  rw [run_bind_ok rfl] at h
  cases text with
  | nil => cases h
  | cons c text =>
    simp only at h
    split at h
    case isTrue hc => cases h; exact ⟨c, hc, rfl⟩
    case isFalse => cases h

theorem of_literal_run {c : Char} {text rest : List Char} {u : Unit} (h : (literal c).run text = .ok (u, rest)) :
    text = c :: rest := by
  obtain ⟨d, hd, rfl⟩ := of_oneOf_run h
  rw [eq_of_beq hd]

/-- The digits that a number is read from. -/
theorem of_fixed_run_from : ∀ {width value n : Nat} {text rest : List Char},
    (fixed width value).run text = .ok (n, rest) →
      ∃ ds, ds.length = width ∧ (∀ c ∈ ds, Decimal.isDigit c = true) ∧ text = ds ++ rest ∧
        n = (ds.map fun c => c.toNat - 48).foldl (fun n d => n * 10 + d) value
  | 0, value, n, text, rest, h => by
    cases h
    exact ⟨[], rfl, List.forall_mem_nil _, rfl, rfl⟩
  | width + 1, value, n, text, rest, h => by
    unfold fixed at h
    rw [run_bind_ok rfl] at h
    cases text with
    | nil => cases h
    | cons c text =>
      simp only at h
      cases hdigit : Decimal.digit? c with
      | none => rw [hdigit] at h; cases h
      | some d =>
        obtain ⟨hc, hd⟩ := Decimal.digit?_eq_some_iff.1 hdigit
        rw [hdigit] at h
        simp only at h
        rw [run_bind_ok rfl] at h
        obtain ⟨ds, hlength, hds, htext, hn⟩ := of_fixed_run_from h
        refine ⟨c :: ds, by rw [List.length_cons, hlength], List.forall_mem_cons.2 ⟨hc, hds⟩, ?_, ?_⟩
        · rw [htext, List.cons_append]
        · rw [hn, List.map_cons, List.foldl_cons, hd]

/-- A number is read from its numeral. -/
theorem of_fixed_run {width n : Nat} {text rest : List Char} (h : (fixed width 0).run text = .ok (n, rest)) :
    text = Decimal.fixed width n ++ rest ∧ n < 10 ^ width := by
  obtain ⟨ds, rfl, hds, rfl, rfl⟩ := of_fixed_run_from h
  have hfixed := Decimal.fixed_valueOf hds
  have hlt := Decimal.valueOf_lt hds
  exact ⟨congrArg (· ++ rest) hfixed.symm, hlt⟩

/-- A fraction is read from one. -/
theorem of_fraction_run {text rest : List Char} {nanos : Nat} (h : fraction.run text = .ok (nanos, rest)) :
    ∃ digits, Fraction digits nanos ∧ text = digits ++ rest := by
  unfold fraction at h
  rw [run_bind_ok rfl] at h
  split at h
  case h_2 => cases h; exact ⟨[], .missing, rfl⟩
  case h_1 text =>
    rw [run_bind_ok rfl] at h
    unfold nanosAfterPoint at h
    rw [run_bind_ok rfl] at h
    dsimp only at h
    have hds : ∀ c ∈ text.takeWhile Decimal.isDigit, Decimal.isDigit c = true := List.all_eq_true.1 List.all_takeWhile
    have htext := (List.takeWhile_append_dropWhile (p := Decimal.isDigit) (l := text)).symm
    generalize text.takeWhile Decimal.isDigit = ds at h hds htext
    split at h
    case h_1 => cases h
    case h_2 => cases h
    case h_3 d ds =>
      rw [run_bind_ok rfl] at h
      cases h
      refine ⟨'.' :: d :: ds, ?_, by rw [List.cons_append, ← htext]⟩
      have hfraction := Fraction.digits (List.cons_ne_nil d ds) hds
      have hcounted : 9 - ((d :: ds).take 9).length = 9 - (d :: ds).length := by
        rw [List.length_take]
        omega
      rw [Decimal.valueOf_append_replicate, hcounted]
      exact hfraction

/-- Two digits are a numeral. -/
theorem eq_fixed_two {a b : Char} {x y : Nat} (ha : Decimal.digit? a = some x) (hb : Decimal.digit? b = some y) :
    [a, b] = Decimal.fixed 2 (x * 10 + y) ∧ x < 10 ∧ y < 10 := by
  obtain ⟨hdigit, rfl⟩ := Decimal.digit?_eq_some_iff.1 ha
  obtain ⟨hdigit', rfl⟩ := Decimal.digit?_eq_some_iff.1 hb
  have hbounds := (Decimal.isDigit_iff a).1 hdigit
  have hbounds' := (Decimal.isDigit_iff b).1 hdigit'
  have hab : ∀ c ∈ [a, b], Decimal.isDigit c = true :=
    List.forall_mem_cons.2 ⟨hdigit, List.forall_mem_singleton.2 hdigit'⟩
  refine ⟨?_, by omega, by omega⟩
  rw [← Decimal.fixed_valueOf hab]
  show Decimal.fixed 2 ((0 * 10 + (a.toNat - 48)) * 10 + (b.toNat - 48)) = _
  rw [Nat.zero_mul, Nat.zero_add]

theorem of_offsetHours_run {text rest : List Char} {hours : Nat} (h : offsetHours.run text = .ok (hours, rest)) :
    text = Decimal.fixed 2 hours ++ rest := by
  unfold offsetHours at h
  rw [run_bind_ok rfl] at h
  split at h
  case h_2 => cases h
  case h_1 a b text =>
    split at h
    case h_2 => cases h
    case h_1 x y ha hb =>
      rw [run_bind_ok rfl] at h
      cases h
      rw [← (eq_fixed_two ha hb).1]
      rfl

theorem of_offsetMinutes_run {text rest : List Char} {minutes : Nat}
    (h : offsetMinutes.run text = .ok (minutes, rest)) : text = Decimal.fixed 2 minutes ++ rest ∧ minutes ≤ 59 := by
  unfold offsetMinutes at h
  rw [run_bind_ok rfl] at h
  split at h
  case h_2 => cases h
  case h_1 a b text =>
    split at h
    case h_2 => cases h
    case h_1 x y ha hb =>
      split at h
      case isFalse => cases h
      case isTrue hx =>
        rw [run_bind_ok rfl] at h
        cases h
        obtain ⟨heq, -, hy⟩ := eq_fixed_two ha hb
        rw [← heq]
        exact ⟨rfl, by omega⟩

/-- The size of an offset is read from hours, a colon and minutes. -/
theorem of_offsetSize_run {text rest : List Char} {size : Nat}
    (h : (offsetSize (literal ':')).run text = .ok (size, rest)) :
    ∃ hours minutes, minutes ≤ 59 ∧ size = hours * 3600 + minutes * 60 ∧
      text = Decimal.fixed 2 hours ++ ':' :: (Decimal.fixed 2 minutes ++ rest) := by
  unfold offsetSize at h
  obtain ⟨hours, _, hhours, h⟩ := of_run_bind h
  obtain ⟨_, _, hcolon, h⟩ := of_run_bind h
  obtain ⟨minutes, _, hminutes, h⟩ := of_run_bind h
  cases h
  obtain ⟨hminutes, hle⟩ := of_offsetMinutes_run hminutes
  rw [hminutes] at hcolon
  exact ⟨hours, minutes, hle, rfl, by rw [of_offsetHours_run hhours, of_literal_run hcolon]⟩

/-- An offset of less than a day is read from one. -/
theorem of_strictOffset_run {text : List Char} {offset : Int} (h : strictOffset.run text = .ok (offset, []))
    (hlt : offset.natAbs < secondsPerDay) : Zone text offset := by
  simp only [secondsPerDay] at hlt
  unfold strictOffset at h
  rw [run_bind_ok rfl] at h
  split at h
  case h_1 => cases h; exact .zulu (Or.inl rfl)
  case h_2 => cases h; exact .zulu (Or.inr rfl)
  case h_3 text =>
    rw [run_bind_ok rfl] at h
    obtain ⟨size, _, hsize, h⟩ := of_run_bind h
    cases h
    obtain ⟨hours, minutes, hminutes, rfl, rfl⟩ := of_offsetSize_run hsize
    rw [List.append_nil]
    exact .ahead (by omega) hminutes
  case h_4 text =>
    rw [run_bind_ok rfl] at h
    obtain ⟨size, _, hsize, h⟩ := of_run_bind h
    cases h
    obtain ⟨hours, minutes, hminutes, rfl, rfl⟩ := of_offsetSize_run hsize
    rw [List.append_nil]
    exact .behind (by omega) hminutes
  case h_5 => cases h
  case h_6 => cases h

theorem natAbs_lt_of_ofClock {clock offset : Int} {nanos : Nat} {s : Stamp} (h : ofClock clock nanos offset = .ok s) :
    offset.natAbs < secondsPerDay := by
  rw [← (of_ofClock h).2.2]
  exact s.offset_lt

/-- What the pieces show is put together. -/
theorem of_assemble {p : Pieces} {s : Stamp} (h : assemble p.date p.hour p.minute p.second p.nanos p.offset = .ok s) :
    p.Shows s ∧ p.offset.natAbs < secondsPerDay := by
  rw [assemble] at h
  split at h
  case isTrue hsecond =>
    obtain ⟨hclock, hnanos, hoffset⟩ := of_ofClock h
    exact ⟨⟨by rw [hclock, if_pos hsecond]; rfl, by rw [hnanos, if_pos hsecond], hoffset⟩, natAbs_lt_of_ofClock h⟩
  case isFalse hsecond =>
    obtain ⟨hclock, hnanos, hoffset⟩ := of_ofClock h
    exact ⟨⟨by rw [hclock, if_neg hsecond], by rw [hnanos, if_neg hsecond], hoffset⟩, natAbs_lt_of_ofClock h⟩

/-- A timestamp is read from well-formed pieces. -/
theorem exists_of_read {text : List Char} {s : Stamp} (h : read text = .ok s) :
    ∃ p : Pieces, p.WellFormed ∧ p.text = text ∧ p.Shows s := by
  rw [read] at h
  cases hrun : strict.run text with
  | error fault => rw [hrun] at h; cases h
  | ok r =>
    obtain ⟨s', rest⟩ := r
    rw [hrun] at h
    cases h
    unfold strict at hrun
    rw [run_bind_ok rfl] at hrun
    obtain ⟨-, hrun⟩ := of_run_unless hrun
    obtain ⟨year, _, hyear, hrun⟩ := of_run_bind hrun
    obtain ⟨_, _, hdash, hrun⟩ := of_run_bind hrun
    obtain ⟨month, _, hmonth, hrun⟩ := of_run_bind hrun
    obtain ⟨_, _, hdash', hrun⟩ := of_run_bind hrun
    obtain ⟨day, _, hday, hrun⟩ := of_run_bind hrun
    dsimp only at hrun
    obtain ⟨hexists, hrun⟩ := of_run_unless hrun
    obtain ⟨_, _, hseparator, hrun⟩ := of_run_bind hrun
    obtain ⟨hour, _, hhour, hrun⟩ := of_run_bind hrun
    obtain ⟨_, _, hcolon, hrun⟩ := of_run_bind hrun
    obtain ⟨minute, _, hminute, hrun⟩ := of_run_bind hrun
    obtain ⟨_, _, hcolon', hrun⟩ := of_run_bind hrun
    obtain ⟨second, _, hsecond, hrun⟩ := of_run_bind hrun
    obtain ⟨nanos, zone, hfraction, hrun⟩ := of_run_bind hrun
    obtain ⟨hclock, hrun⟩ := of_run_unless hrun
    obtain ⟨offset, left, hoffset, hrun⟩ := of_run_bind hrun
    rw [run_bind_ok rfl] at hrun
    obtain ⟨hleft, hrun⟩ := of_run_unless hrun
    obtain rfl := List.isEmpty_iff.1 (Decidable.not_not.1 hleft)
    cases hassemble : assemble ⟨year, month, day⟩ hour minute second nanos offset with
    | error fault => rw [hassemble] at hrun; cases hrun
    | ok stamp =>
      rw [hassemble] at hrun
      cases hrun
      -- the text of each piece, from the first to the last
      obtain ⟨rfl, hfour⟩ := of_fixed_run hyear
      obtain rfl := of_literal_run hdash
      obtain ⟨rfl, -⟩ := of_fixed_run hmonth
      obtain rfl := of_literal_run hdash'
      obtain ⟨rfl, -⟩ := of_fixed_run hday
      obtain ⟨separator, hmark, rfl⟩ := of_oneOf_run hseparator
      obtain ⟨rfl, -⟩ := of_fixed_run hhour
      obtain rfl := of_literal_run hcolon
      obtain ⟨rfl, -⟩ := of_fixed_run hminute
      obtain rfl := of_literal_run hcolon'
      obtain ⟨rfl, -⟩ := of_fixed_run hsecond
      obtain ⟨fraction, hdigits, rfl⟩ := of_fraction_run hfraction
      simp only [Bool.or_eq_true, beq_iff_eq, or_assoc] at hmark
      let p : Pieces := ⟨⟨year, month, day⟩, separator, hour, minute, second, fraction, nanos, zone, offset⟩
      obtain ⟨hshows, hlt⟩ := of_assemble (p := p) hassemble
      obtain ⟨hhours, hminutes, hseconds⟩ : hour ≤ 23 ∧ minute ≤ 59 ∧ second ≤ 60 := by omega
      refine ⟨p, ⟨Decidable.not_not.1 hexists, ⟨Int.natCast_nonneg year, ?_⟩, hmark, hhours, hminutes, hseconds,
        hdigits, of_strictOffset_run hoffset hlt⟩, rfl, hshows⟩
      exact Int.ofNat_le.2 (Nat.le_of_lt_succ hfour)

/-- **The timestamps that a text is read as** are those that well-formed pieces of it show. -/
theorem read_eq_ok_iff {text : List Char} {s : Stamp} :
    read text = .ok s ↔ ∃ p : Pieces, p.WellFormed ∧ p.text = text ∧ p.Shows s := by
  refine ⟨exists_of_read, ?_⟩
  rintro ⟨p, hp, rfl, hshows⟩
  -- the pieces are read, and they show one timestamp only
  obtain ⟨s', hread⟩ := read_text hp
  have hassemble := hread
  rw [read_text_eq hp] at hassemble
  rw [hread, (of_assemble hassemble).1.eq hshows]

end Logbook.Stamp
