import Logbook.Proofs.Calendar
import Logbook.Proofs.Decimal
import Logbook.Proofs.Instant
import Logbook.Proofs.Readers
import Logbook.Time.Reading
import Logbook.Time.Writing

/-!
# Timestamps that are read back

## Main definitions

* `Stamp.shownOffset` — the offset that a timestamp shows.
* `Stamp.told` — the timestamp that its text tells.
* `Stamp.Fits` — whether the text of a timestamp in packets tells all about it.

## Main results

* `Stamp.read_writeChars` — the parts that are read from the text of a timestamp.
* `Stamp.read_of_wholeMinute` — what is read of a timestamp, to the microsecond.
* `Stamp.read_of_fits`, `Stamp.fits_of_read` — **just those that fit are read back.**
-/

namespace Logbook.Stamp

open Decimal (digitChar)

/-! ### Reading the pieces -/

theorem oneOf_run {p : Char → Bool} {c : Char} (h : p c = true) (rest : List Char) :
    (oneOf p).run (c :: rest) = .ok ((), rest) := by
  show (if p c = true then set rest else throw .invalid : Reader Unit).run (c :: rest) = _
  rw [if_pos h]
  rfl

theorem literal_run (c : Char) (rest : List Char) : (literal c).run (c :: rest) = .ok ((), rest) :=
  oneOf_run (beq_self_eq_true c) rest

theorem fixed_run_cons {d : Nat} (hd : d < 10) (width value : Nat) (rest : List Char) :
    (fixed (width + 1) value).run (digitChar d :: rest) = (fixed width (value * 10 + d)).run rest := by
  rw [fixed, run_bind_ok rfl]
  dsimp only
  rw [Decimal.digit?_digitChar d hd]
  rfl

/-- Digits are read from the first on. -/
theorem fixed_run_map : ∀ (ds : List Nat) (value : Nat) (rest : List Char), (∀ d ∈ ds, d < 10) →
    (fixed ds.length value).run (ds.map digitChar ++ rest) =
      .ok (ds.foldl (fun n d => n * 10 + d) value, rest)
  | [], _, _, _ => rfl
  | d :: ds, value, rest, h => by
    have ih := fixed_run_map ds (value * 10 + d) rest fun d' hd' => h d' (List.mem_cons_of_mem _ hd')
    rw [List.length_cons, List.map_cons, List.cons_append, fixed_run_cons (h d List.mem_cons_self), ih,
      List.foldl_cons]

/-- A field is read back, as far as it reaches. -/
theorem fixed_run (width n : Nat) (rest : List Char) :
    (fixed width 0).run (Decimal.fixed width n ++ rest) = .ok (n % 10 ^ width, rest) := by
  have h := fixed_run_map (Positional.digits 10 width n) 0 rest fun d hd =>
    Positional.lt_of_mem_digits (by decide) hd
  rw [Positional.length_digits] at h
  rw [← Positional.value_digits]
  exact h

/-- A fraction is read to the end of its digits, of which the first nine count. -/
theorem fraction_run {ds : List Char} (hne : ds ≠ []) (hds : ∀ c ∈ ds, Decimal.isDigit c = true) {c : Char}
    (hc : Decimal.isDigit c = false) (rest : List Char) :
    fraction.run ('.' :: (ds ++ c :: rest)) =
      .ok (Decimal.valueOf (ds.take 9) * 10 ^ (9 - ds.length), c :: rest) := by
  show nanosAfterPoint.run (ds ++ c :: rest) = _
  have htake : (ds ++ c :: rest).takeWhile Decimal.isDigit = ds := by
    rw [List.takeWhile_append_of_pos hds, List.takeWhile_cons_of_neg (by rw [hc]; exact Bool.false_ne_true),
      List.append_nil]
  have hdrop : (ds ++ c :: rest).dropWhile Decimal.isDigit = c :: rest := by
    rw [List.dropWhile_append_of_pos hds, List.dropWhile_cons_of_neg (by rw [hc]; exact Bool.false_ne_true)]
  have hcounted : 9 - (ds.take 9).length = 9 - ds.length := by
    rw [List.length_take]
    omega
  unfold nanosAfterPoint
  rw [run_bind_ok rfl]
  simp only [htake, hdrop, hcounted, Decimal.valueOf_append_replicate]
  cases ds with
  | nil => exact absurd rfl hne
  | cons d ds => rfl

/-- Six digits of a fraction are millionths. -/
theorem fraction_run_fixed {micros : Nat} (hmicros : micros < 1000000) {c : Char} (hc : Decimal.isDigit c = false)
    (rest : List Char) :
    fraction.run ('.' :: (Decimal.fixed 6 micros ++ c :: rest)) = .ok (micros * 1000, c :: rest) := by
  have hlength := Decimal.length_fixed 6 micros
  have hcounted : (Decimal.fixed 6 micros).take 9 = Decimal.fixed 6 micros := List.take_of_length_le (by omega)
  have hne : Decimal.fixed 6 micros ≠ [] := List.ne_nil_of_length_pos (by omega)
  have hrun := fraction_run hne (fun _ hd => Decimal.isDigit_of_mem_fixed hd) hc rest
  rw [hcounted, hlength, Decimal.valueOf_fixed, Nat.mod_eq_of_lt (show micros < 10 ^ 6 from hmicros)] at hrun
  exact hrun

/-- The offset that is shown: to the nearest minute, half a minute away from zero. -/
def shownOffset (offset : Int) : Int :=
  let minutes := (offset.natAbs + 30) / 60
  if offset < 0 then -(minutes * 60 : Nat) else (minutes * 60 : Nat)

theorem shownOffset_of_wholeMinute {offset : Int} (h : offset % 60 = 0) : shownOffset offset = offset := by
  simp only [shownOffset]
  split <;> omega

theorem wholeMinute_shownOffset (offset : Int) : shownOffset offset % 60 = 0 := by
  simp only [shownOffset]
  split <;> omega

theorem fixed_two (n : Nat) : Decimal.fixed 2 n = [digitChar (n / 10 % 10), digitChar (n % 10)] := by
  rw [Decimal.fixed_succ, Decimal.fixed_succ]
  rfl

theorem offsetHours_run {hours : Nat} (h : hours < 100) (rest : List Char) :
    offsetHours.run (Decimal.fixed 2 hours ++ rest) = .ok (hours, rest) := by
  rw [fixed_two, offsetHours, run_bind_ok rfl]
  simp only [List.cons_append]
  rw [Decimal.digit?_digitChar _ (by omega), Decimal.digit?_digitChar _ (by omega)]
  show Except.ok (hours / 10 % 10 * 10 + hours % 10, rest) = _
  rw [show hours / 10 % 10 * 10 + hours % 10 = hours by omega]

theorem offsetMinutes_run {minutes : Nat} (h : minutes < 60) (rest : List Char) :
    offsetMinutes.run (Decimal.fixed 2 minutes ++ rest) = .ok (minutes, rest) := by
  rw [fixed_two, offsetMinutes, run_bind_ok rfl]
  simp only [List.cons_append]
  rw [Decimal.digit?_digitChar _ (by omega), Decimal.digit?_digitChar _ (by omega)]
  show (if minutes / 10 % 10 < 6 then do set rest; return minutes / 10 % 10 * 10 + minutes % 10
    else throw .outOfRange : Reader Nat).run _ = _
  rw [if_pos (by omega)]
  show Except.ok (minutes / 10 % 10 * 10 + minutes % 10, rest) = _
  rw [show minutes / 10 % 10 * 10 + minutes % 10 = minutes by omega]

theorem offsetSize_run {hours minutes : Nat} (hhours : hours < 100) (hminutes : minutes < 60) :
    (offsetSize (literal ':')).run (Decimal.fixed 2 hours ++ ':' :: Decimal.fixed 2 minutes) =
      .ok (hours * 3600 + minutes * 60, []) := by
  have hlast := offsetMinutes_run hminutes []
  rw [List.append_nil] at hlast
  rw [offsetSize, run_bind_ok (offsetHours_run hhours _), run_bind_ok (literal_run _ _), run_bind_ok hlast]
  rfl

/-- A written offset is read as the one that it shows. -/
theorem strictOffset_run {offset : Int} (h : offset.natAbs < secondsPerDay) :
    strictOffset.run (writeOffset true offset) = .ok (shownOffset offset, []) := by
  rw [writeOffset]
  by_cases hzero : offset = 0
  · rw [if_pos ⟨rfl, hzero⟩, hzero]
    rfl
  rw [if_neg fun hor => hzero hor.2]
  simp only [shownOffset, secondsPerDay] at h ⊢
  have hminutes : (offset.natAbs + 30) / 60 < 6000 := by omega
  generalize (offset.natAbs + 30) / 60 = minutes at hminutes ⊢
  have hsize : (offsetSize (literal ':')).run
      (Decimal.fixed 2 (minutes / 60) ++ ':' :: Decimal.fixed 2 (minutes % 60)) =
        .ok (minutes / 60 * 3600 + minutes % 60 * 60, []) := offsetSize_run (by omega) (by omega)
  rw [show minutes / 60 * 3600 + minutes % 60 * 60 = minutes * 60 by omega] at hsize
  by_cases hneg : offset < 0
  · rw [if_pos hneg, if_pos hneg]
    exact run_bind_ok (f := fun size : Nat => (pure (-(size : Int)) : Reader Int)) hsize
  · rw [if_neg hneg, if_neg hneg]
    exact run_bind_ok (f := fun size : Nat => (pure (size : Int) : Reader Int)) hsize

/-! ### The whole timestamp -/

/-- What is read from the pieces of a timestamp, one behind another. -/
theorem read_pieces {date : Date} (hexists : date.Exists) (hyear : 0 ≤ date.year) (hyear' : date.year ≤ 9999)
    {separator : Char} (hseparator : separator = 'T' ∨ separator = 't' ∨ separator = ' ')
    {hour minute second nanos : Nat} (hhour : hour ≤ 23) (hminute : minute ≤ 59) (hsecond : second ≤ 60)
    {behind zone : List Char} (hfraction : fraction.run behind = .ok (nanos, zone)) {offset : Int}
    (hoffset : strictOffset.run zone = .ok (offset, [])) :
    read (Decimal.fixed 4 date.year.toNat ++ '-' :: (Decimal.fixed 2 date.month ++ '-' :: (Decimal.fixed 2 date.day ++
        separator :: (Decimal.fixed 2 hour ++ ':' :: (Decimal.fixed 2 minute ++
          ':' :: (Decimal.fixed 2 second ++ behind)))))) = assemble date hour minute second nanos offset := by
  obtain ⟨hmonth, hmonth', hday, hday'⟩ := id hexists
  have hday31 : date.day ≤ 31 := Nat.le_trans hday' (Date.getD_monthLengths_le _ _)
  have hdate : (⟨(date.year.toNat % 10 ^ 4 : Nat), date.month % 10 ^ 2, date.day % 10 ^ 2⟩ : Date) = date := by
    obtain ⟨year, month, day⟩ := date
    simp only [Date.mk.injEq] at *
    omega
  have hmark : (separator == 'T' || separator == 't' || separator == ' ') = true := by
    rcases hseparator with rfl | rfl | rfl <;> rfl
  generalize htext : Decimal.fixed 4 date.year.toNat ++ '-' :: _ = text
  have hlength : ¬ text.length < 19 := by
    rw [← htext]
    simp only [List.length_append, List.length_cons, Decimal.length_fixed]
    omega
  have hrun : strict.run text = (fun t => (t, [])) <$> assemble date hour minute second nanos offset := by
    unfold strict
    rw [run_bind_ok rfl]
    dsimp only
    rw [if_neg hlength, ← htext, run_bind_ok (fixed_run 4 _ _), run_bind_ok (literal_run _ _),
      run_bind_ok (fixed_run 2 _ _), run_bind_ok (literal_run _ _), run_bind_ok (fixed_run 2 _ _)]
    rw [hdate, if_neg (not_not_intro hexists)]
    rw [run_bind_ok (oneOf_run hmark _), run_bind_ok (fixed_run 2 _ _), run_bind_ok (literal_run _ _),
      run_bind_ok (fixed_run 2 _ _), run_bind_ok (literal_run _ _), run_bind_ok (fixed_run 2 _ _),
      run_bind_ok hfraction, Nat.mod_eq_of_lt (show hour < 10 ^ 2 by omega),
      Nat.mod_eq_of_lt (show minute < 10 ^ 2 by omega), Nat.mod_eq_of_lt (show second < 10 ^ 2 by omega),
      if_neg (by omega), run_bind_ok hoffset, run_bind_ok rfl, if_neg (by decide)]
    cases assemble date hour minute second nanos offset with
    | error fault => rfl
    | ok stamp => rfl
  rw [read, hrun]
  cases assemble date hour minute second nanos offset with
  | error fault => rfl
  | ok stamp => rfl


/-- The digits of a timestamp, with what stands between them. -/
theorem writeChars_eq (s : Stamp) (hyear : 0 ≤ (Date.ofDays (s.localSeconds / secondsPerDay)).year)
    (hyear' : (Date.ofDays (s.localSeconds / secondsPerDay)).year ≤ 9999) :
    s.writeChars .packet =
      let date := Date.ofDays (s.localSeconds / secondsPerDay)
      let second := (s.localSeconds % secondsPerDay).toNat
      let leap := s.instant.nanos / nanosPerSecond
      Decimal.fixed 4 date.year.toNat ++ '-' :: (Decimal.fixed 2 date.month ++ '-' :: (Decimal.fixed 2 date.day ++
        'T' :: (Decimal.fixed 2 (second / 3600) ++ ':' :: (Decimal.fixed 2 (second / 60 % 60) ++
          ':' :: (Decimal.fixed 2 (second % 60 + leap) ++ '.' ::
            (Decimal.fixed 6 (s.instant.nanos % nanosPerSecond / 1000) ++ writeOffset true s.offset)))))) := by
  simp only [writeChars, writeDate, writeYear, writeTime, writeFraction, TimeStyle.packet,
    if_pos (And.intro hyear hyear'), List.append_assoc, List.cons_append, if_true]

/-- An offset starts with no numeral. -/
theorem exists_writeOffset (zulu : Bool) (offset : Int) :
    ∃ c rest, writeOffset zulu offset = c :: rest ∧ Decimal.isDigit c = false := by
  rw [writeOffset]
  split
  · exact ⟨'Z', [], rfl, rfl⟩
  · by_cases h : offset < 0
    · exact ⟨'-', _, by rw [if_pos h]; rfl, rfl⟩
    · exact ⟨'+', _, by rw [if_neg h]; rfl, rfl⟩

/-- What is read from the text of a timestamp, whatever its offset. -/
theorem read_writeChars (s : Stamp) (hyear : 0 ≤ (Date.ofDays (s.localSeconds / secondsPerDay)).year)
    (hyear' : (Date.ofDays (s.localSeconds / secondsPerDay)).year ≤ 9999) :
    read (s.writeChars .packet) =
      let second := (s.localSeconds % secondsPerDay).toNat
      assemble (Date.ofDays (s.localSeconds / secondsPerDay)) (second / 3600) (second / 60 % 60)
        (second % 60 + s.instant.nanos / nanosPerSecond) (s.instant.nanos % nanosPerSecond / 1000 * 1000)
        (shownOffset s.offset) := by
  have hsecond : (s.localSeconds % secondsPerDay).toNat < 86400 := by
    simp only [secondsPerDay]
    omega
  have hleap : s.instant.nanos / nanosPerSecond ≤ 1 := by
    have := s.instant.nanos_lt
    simp only [nanosPerSecond] at this ⊢
    omega
  have hmicros : s.instant.nanos % nanosPerSecond / 1000 < 1000000 := by
    simp only [nanosPerSecond]
    omega
  have hoffset := strictOffset_run s.offset_lt
  obtain ⟨c, rest, hwritten, hc⟩ := exists_writeOffset true s.offset
  rw [hwritten] at hoffset
  rw [writeChars_eq s hyear hyear', hwritten]
  exact read_pieces (Date.toDays_ofDays _).1 hyear hyear' (Or.inl rfl) (by omega) (by omega) (by omega)
    (fraction_run_fixed hmicros hc rest) hoffset

/-! ### Clocks -/

theorem ofClock_eq {clock offset : Int} {nanos : Nat} (hoffset : offset.natAbs < secondsPerDay)
    (hnanos : nanos < 2 * nanosPerSecond) :
    ofClock clock nanos offset = .ok ⟨⟨clock - offset, nanos, hnanos⟩, offset, hoffset⟩ := by
  rw [ofClock, dif_pos hoffset, Instant.ofParts?, dif_pos hnanos]

/-- What a clock shows. -/
theorem of_ofClock {clock offset : Int} {nanos : Nat} {s : Stamp} (h : ofClock clock nanos offset = .ok s) :
    s.localSeconds = clock ∧ s.instant.nanos = nanos ∧ s.offset = offset := by
  rw [ofClock] at h
  split at h
  case isFalse => cases h
  case isTrue hoffset =>
    rw [Instant.ofParts?] at h
    split at h
    case h_2 => cases h
    case h_1 instant hparts =>
      split at hparts
      case isFalse => cases hparts
      case isTrue hnanos =>
        rw [← Except.ok.inj h, ← Option.some.inj hparts]
        exact ⟨Int.sub_add_cancel clock offset, rfl, rfl⟩

theorem assemble_of_lt {second : Nat} (h : second < 60) (date : Date) (hour minute nanos : Nat) (offset : Int) :
    assemble date hour minute second nanos offset =
      ofClock (date.toDays * secondsPerDay + hour * 3600 + minute * 60 + second) nanos offset :=
  if_neg (Nat.ne_of_lt h)

/-- The year that the clock shows. -/
def year (s : Stamp) : Int := (Date.ofDays (s.localSeconds / secondsPerDay)).year

/-- The date and the time of day make up what the clock shows. -/
theorem clock_eq (s : Stamp) :
    (Date.ofDays (s.localSeconds / secondsPerDay)).toDays * secondsPerDay +
      ((s.localSeconds % secondsPerDay).toNat / 3600 : Nat) * 3600 +
        ((s.localSeconds % secondsPerDay).toNat / 60 % 60 : Nat) * 60 +
          ((s.localSeconds % secondsPerDay).toNat % 60 : Nat) = s.localSeconds := by
  rw [(Date.toDays_ofDays _).2]
  simp only [secondsPerDay]
  omega

/-- The second of the minute. -/
theorem second_mod (s : Stamp) : (((s.localSeconds % secondsPerDay).toNat % 60 : Nat) : Int) = s.localSeconds % 60 := by
  simp only [secondsPerDay]
  omega

/-- The timestamp that remains when less than a microsecond is cut off. -/
def truncated (s : Stamp) : Stamp where
  instant := ⟨s.instant.seconds, s.instant.nanos / 1000 * 1000,
    Nat.lt_of_le_of_lt (Nat.div_mul_le_self _ _) s.instant.nanos_lt⟩
  offset := s.offset
  offset_lt := s.offset_lt

theorem ofClock_truncated (s : Stamp) :
    ofClock s.localSeconds (s.instant.nanos / 1000 * 1000) s.offset = .ok s.truncated := by
  have hnanos : s.instant.nanos / 1000 * 1000 < 2 * nanosPerSecond := s.truncated.instant.nanos_lt
  rw [ofClock_eq s.offset_lt hnanos]
  simp only [localSeconds, Int.add_sub_cancel]
  rfl

/-- The parts of a clock make up what it shows, outside leap seconds and in those at the end of a minute. -/
theorem assemble_clock {s : Stamp} (h : s.instant.nanos < nanosPerSecond ∨ s.localSeconds % 60 = 59) (nanos : Nat)
    (offset : Int) :
    assemble (Date.ofDays (s.localSeconds / secondsPerDay)) ((s.localSeconds % secondsPerDay).toNat / 3600)
        ((s.localSeconds % secondsPerDay).toNat / 60 % 60)
        ((s.localSeconds % secondsPerDay).toNat % 60 + s.instant.nanos / nanosPerSecond) nanos offset =
      ofClock s.localSeconds (nanos + s.instant.nanos / nanosPerSecond * nanosPerSecond) offset := by
  have hclock := clock_eq s
  have hsecond := second_mod s
  have hnanos := s.instant.nanos_lt
  by_cases hlt : s.instant.nanos < nanosPerSecond
  · rw [Nat.div_eq_of_lt hlt, Nat.add_zero, Nat.zero_mul, Nat.add_zero, assemble_of_lt (Nat.mod_lt _ (by decide)), hclock]
  · have hlast : (s.localSeconds % secondsPerDay).toNat % 60 = 59 := by
      have := h.resolve_left hlt
      omega
    have hleap : s.instant.nanos / nanosPerSecond = 1 := by
      simp only [nanosPerSecond] at hlt hnanos ⊢
      omega
    rw [hlast] at hclock
    rw [hlast, hleap, Nat.one_mul, assemble, if_pos rfl]
    exact congrArg (ofClock · _ _) hclock

/-- In another leap second they make up the second after it. -/
theorem assemble_hidden {s : Stamp} (h : nanosPerSecond ≤ s.instant.nanos) (hlast : s.localSeconds % 60 ≠ 59)
    (nanos : Nat) (offset : Int) :
    assemble (Date.ofDays (s.localSeconds / secondsPerDay)) ((s.localSeconds % secondsPerDay).toNat / 3600)
        ((s.localSeconds % secondsPerDay).toNat / 60 % 60)
        ((s.localSeconds % secondsPerDay).toNat % 60 + s.instant.nanos / nanosPerSecond) nanos offset =
      ofClock (s.localSeconds + 1) nanos offset := by
  have hclock := clock_eq s
  have hsecond := second_mod s
  have hnanos := s.instant.nanos_lt
  have hleap : s.instant.nanos / nanosPerSecond = 1 := by
    simp only [nanosPerSecond] at h hnanos ⊢
    omega
  rw [hleap, assemble_of_lt (by omega)]
  congr 1
  omega

/-! ### What a timestamp tells -/

/-- The timestamp that the text of a timestamp tells. -/
def told (s : Stamp) : Stamp := { s with instant := s.instant.told }

/-- The parts of a clock that is ahead by whole minutes make up what the timestamp tells. -/
theorem assemble_told {s : Stamp} (h : s.offset % 60 = 0) (nanos : Nat) (offset : Int) :
    assemble (Date.ofDays (s.localSeconds / secondsPerDay)) ((s.localSeconds % secondsPerDay).toNat / 3600)
        ((s.localSeconds % secondsPerDay).toNat / 60 % 60)
        ((s.localSeconds % secondsPerDay).toNat % 60 + s.instant.nanos / nanosPerSecond) nanos offset =
      ofClock s.told.localSeconds (nanos + s.told.instant.nanos / nanosPerSecond * nanosPerSecond) offset := by
  -- whole minutes leave a leap second where it is in its minute
  have hlast : s.localSeconds % 60 = s.instant.seconds % 60 := by
    rw [localSeconds]
    omega
  by_cases hminute : s.instant.OnMinute
  · rw [assemble_clock (hlast ▸ hminute), told, Instant.told_of_onMinute hminute]
  · obtain ⟨hnext, hrest⟩ := Instant.told_of_not_onMinute hminute
    obtain ⟨hleap, hwithin⟩ := not_or.1 hminute
    have hclock : s.told.localSeconds = s.localSeconds + 1 := by
      show s.instant.told.seconds + s.offset = _
      rw [hnext, localSeconds]
      omega
    have hcommon : s.told.instant.nanos / nanosPerSecond = 0 := by
      have := s.instant.nanos_lt
      show s.instant.told.nanos / nanosPerSecond = 0
      rw [hrest]
      simp only [nanosPerSecond] at *
      omega
    rw [assemble_hidden (Nat.not_lt.1 hleap) (hlast ▸ hwithin), hclock, hcommon, Nat.zero_mul, Nat.add_zero]

/-- A timestamp is told with the year that its clock shows. -/
theorem year_told {s : Stamp} (h : s.offset % 60 = 0) : s.told.year = s.year := by
  by_cases hminute : s.instant.OnMinute
  · rw [told, Instant.told_of_onMinute hminute]
  · have hnext := (Instant.told_of_not_onMinute hminute).1
    have hwithin := (not_or.1 hminute).2
    have hday : s.told.localSeconds / secondsPerDay = s.localSeconds / secondsPerDay := by
      show (s.instant.told.seconds + s.offset) / _ = _
      rw [hnext, localSeconds]
      simp only [secondsPerDay]
      omega
    rw [year, hday, year]

section Written

variable {s : Stamp} (hyear : 0 ≤ s.year ∧ s.year ≤ 9999)
include hyear

/-- Outside leap seconds, and in those that the clock shows at the end of a minute, what the clock shows is read. -/
theorem read_eq_ofClock (h : s.instant.nanos < nanosPerSecond ∨ s.localSeconds % 60 = 59) :
    read (s.writeChars .packet) =
      ofClock s.localSeconds (s.instant.nanos / 1000 * 1000) (shownOffset s.offset) := by
  have hsum : s.instant.nanos % nanosPerSecond / 1000 * 1000 + s.instant.nanos / nanosPerSecond * nanosPerSecond =
      s.instant.nanos / 1000 * 1000 := by
    simp only [nanosPerSecond]
    omega
  rw [read_writeChars s hyear.1 hyear.2]
  exact (assemble_clock h _ _).trans (by rw [hsum])

/-- Another leap second is read as a common one, the next. -/
theorem read_of_hidden (h : nanosPerSecond ≤ s.instant.nanos) (hlast : s.localSeconds % 60 ≠ 59) :
    read (s.writeChars .packet) =
      ofClock (s.localSeconds + 1) (s.instant.nanos % nanosPerSecond / 1000 * 1000) (shownOffset s.offset) := by
  rw [read_writeChars s hyear.1 hyear.2]
  exact assemble_hidden h hlast _ _

/-- **What is read from the text of a timestamp with an offset of whole minutes**: what it tells, to the microsecond. -/
theorem read_of_wholeMinute (hoffset : s.offset % 60 = 0) : read (s.writeChars .packet) = .ok s.told.truncated := by
  have hsum : s.instant.nanos % nanosPerSecond / 1000 * 1000 + s.told.instant.nanos / nanosPerSecond * nanosPerSecond =
      s.told.instant.nanos / 1000 * 1000 := by
    have hmod : s.told.instant.nanos % nanosPerSecond = s.instant.nanos % nanosPerSecond := s.instant.nanos_told_mod
    rw [← hmod]
    simp only [nanosPerSecond]
    omega
  rw [read_writeChars s hyear.1 hyear.2]
  simp only [assemble_told hoffset, shownOffset_of_wholeMinute hoffset, hsum]
  exact s.told.ofClock_truncated

end Written

/-- The text of a year that has not four digits starts with a sign. -/
theorem exists_writeChars_of_year {s : Stamp} (h : ¬ (0 ≤ s.year ∧ s.year ≤ 9999)) :
    ∃ c rest, s.writeChars .packet = c :: rest ∧ Decimal.digit? c = none := by
  simp only [year] at h
  simp only [writeChars, writeDate, writeYear]
  rw [if_neg h]
  by_cases hneg : (Date.ofDays (s.localSeconds / secondsPerDay)).year < 0
  · exact ⟨'-', _, by rw [if_pos hneg]; rfl, rfl⟩
  · exact ⟨'+', _, by rw [if_neg hneg]; rfl, rfl⟩

/-- Nothing is read from it. -/
theorem read_of_sign {c : Char} (hc : Decimal.digit? c = none) (rest : List Char) :
    ∃ fault, read (c :: rest) = .error fault := by
  have hrun : ∃ fault, strict.run (c :: rest) = .error fault := by
    unfold strict
    rw [run_bind_ok rfl]
    dsimp only
    split
    · exact ⟨.tooShort, rfl⟩
    · refine ⟨.invalid, run_bind_error ?_⟩
      rw [fixed, run_bind_ok rfl]
      dsimp only
      rw [hc]
      rfl
  obtain ⟨fault, hfault⟩ := hrun
  exact ⟨fault, by rw [read, hfault]; rfl⟩

/-- Whether the text of a timestamp in packets tells all about it. -/
structure Fits (s : Stamp) : Prop where
  /-- The year has four digits. -/
  year : 0 ≤ s.year ∧ s.year ≤ 9999
  /-- The clock is ahead by whole minutes. -/
  minutes : s.offset % 60 = 0
  /-- The instant is a whole number of microseconds. -/
  micros : s.instant.nanos % 1000 = 0
  /-- It lies in no leap second but at the end of a minute. -/
  leap : s.instant.OnMinute

/-- A timestamp of whole minutes and whole microseconds is read as what it tells. -/
theorem read_of_micros {s : Stamp} (hyear : 0 ≤ s.year ∧ s.year ≤ 9999) (hminutes : s.offset % 60 = 0)
    (hmicros : s.instant.nanos % 1000 = 0) : read (s.writeChars .packet) = .ok s.told := by
  have hnanos : s.told.instant.nanos / 1000 * 1000 = s.told.instant.nanos := by
    have hmod : s.told.instant.nanos % nanosPerSecond = s.instant.nanos % nanosPerSecond := s.instant.nanos_told_mod
    simp only [nanosPerSecond] at hmod
    omega
  rw [read_of_wholeMinute hyear hminutes, truncated]
  simp only [hnanos]

/-- **A timestamp is read back from its text, if the text tells all about it.** -/
theorem read_of_fits {s : Stamp} (h : s.Fits) : read (s.writeChars .packet) = .ok s := by
  rw [read_of_micros h.year h.minutes h.micros, told, Instant.told_of_onMinute h.leap]

/-- **Where the same instant is read, the text tells all about the timestamp.** -/
theorem fits_of_read {s s' : Stamp} (h : read (s.writeChars .packet) = .ok s') (hinstant : s'.instant = s.instant) :
    s.Fits := by
  have hyear : 0 ≤ s.year ∧ s.year ≤ 9999 := by
    by_cases hyear : 0 ≤ s.year ∧ s.year ≤ 9999
    · exact hyear
    · obtain ⟨c, rest, hwritten, hc⟩ := exists_writeChars_of_year hyear
      obtain ⟨fault, hfault⟩ := read_of_sign hc rest
      rw [hwritten, hfault] at h
      cases h
  by_cases hleap : s.instant.nanos < nanosPerSecond ∨ s.localSeconds % 60 = 59
  · rw [read_eq_ofClock hyear hleap] at h
    obtain ⟨hclock, hnanos, hoffset⟩ := of_ofClock h
    have hminutes := wholeMinute_shownOffset s.offset
    rw [localSeconds, localSeconds, hinstant] at hclock
    rw [hinstant] at hnanos
    have hoffset : s.offset % 60 = 0 := by omega
    refine ⟨hyear, hoffset, by omega, hleap.imp_right fun hlast => ?_⟩
    rw [localSeconds] at hlast
    omega
  · -- a leap second that is not shown as one is lost
    obtain ⟨hlt, hlast⟩ := not_or.1 hleap
    rw [read_of_hidden hyear (Nat.not_lt.1 hlt) hlast] at h
    obtain ⟨-, hnanos, -⟩ := of_ofClock h
    rw [hinstant] at hnanos
    simp only [nanosPerSecond] at hlt hnanos
    omega

end Logbook.Stamp
