import Logbook.Proofs.StampGrammar

/-!
# Instants in documents are read back

The loose reader takes blanks and short numbers that the writer never writes.  On what is written it stops where the
strict one does: every number has its full width and something else behind it, no blank stands anywhere, and the
fraction has as many threes of digits as it needs.

## Main results

* `Stamp.fraction_writeFraction` — the fraction that is written, with none to nine digits, has the nanoseconds.
* `Stamp.readLoosely_document` — **an instant of a year with four digits is read as the one that its text tells**, which
  is the instant itself but in a leap second within a minute.
-/

namespace Logbook.Stamp

open Decimal (digitChar)

variable {c : Char} {rest behind : List Char} {t : Instant}

/-! ### Pieces -/

/-- A number of full width is read up to what is no numeral. -/
theorem number_run {width n : Nat} (hpos : 0 < width) (hn : n < 10 ^ width) (hbound : n < numberBound)
    (hc : Decimal.isDigit c = false) :
    (number (some width)).run (Decimal.fixed width n ++ c :: rest) = .ok (n, c :: rest) := by
  have hlength := Decimal.length_fixed width n
  have hdigits : ∀ c ∈ Decimal.fixed width n, Decimal.isDigit c = true := fun c hc => Decimal.isDigit_of_mem_fixed hc
  have hvalue : Decimal.valueOf (Decimal.fixed width n) = n := by
    rw [Decimal.valueOf_fixed, Nat.mod_eq_of_lt hn]
  have hne : Decimal.fixed width n ≠ [] := List.ne_nil_of_length_pos (by rwa [hlength])
  have hbelow : Decimal.below? numberBound (Decimal.fixed width n) = some n := by
    rw [Decimal.below?_eq_some hne hdigits (by rwa [hvalue]), hvalue]
  generalize Decimal.fixed width n = ds at hlength hdigits hne hbelow
  have htake : ((ds ++ c :: rest).takeWhile Decimal.isDigit).take width = ds := by
    rw [List.takeWhile_append_of_pos hdigits, List.takeWhile_cons_of_neg (by rw [hc]; exact Bool.false_ne_true),
      List.append_nil, List.take_of_length_le (Nat.le_of_eq hlength)]
  have hdrop : (ds ++ c :: rest).drop ds.length = c :: rest := List.drop_left
  unfold number
  rw [run_bind_ok rfl]
  simp only [htake, hbelow, hdrop]
  cases ds with
  | nil => exact absurd rfl hne
  | cons d ds => rfl

theorem blanks_run (hc : Unicode.isBlank c = false) : blanks.run (c :: rest) = .ok ((), c :: rest) := by
  show Except.ok ((), (c :: rest).dropWhile Unicode.isBlank) = _
  rw [List.dropWhile_cons_of_neg (by rw [hc]; exact Bool.false_ne_true)]

/-- The fraction that is written has the nanoseconds. -/
theorem fraction_writeFraction {nanos : Nat} (h : nanos < nanosPerSecond) :
    Fraction (writeFraction false nanos) nanos := by
  have hdigits (width n : Nat) (hpos : 0 < width) (hwidth : width ≤ 9) (hn : n < 10 ^ width) :
      Fraction ('.' :: Decimal.fixed width n) (n * 10 ^ (9 - width)) := by
    have hlength := Decimal.length_fixed width n
    have hfraction := Fraction.digits (List.ne_nil_of_length_pos (hlength ▸ hpos)) fun c hc =>
      Decimal.isDigit_of_mem_fixed hc
    rwa [List.take_of_length_le (by omega), Decimal.valueOf_fixed, Nat.mod_eq_of_lt hn, hlength] at hfraction
  simp only [nanosPerSecond] at h
  rw [writeFraction, if_neg Bool.false_ne_true]
  split
  · rename_i hzero
    rw [hzero]
    exact .missing
  split
  · have hthree := hdigits 3 (nanos / 1000000) (by decide) (by decide) (by omega)
    rwa [show nanos / 1000000 * 10 ^ (9 - 3) = nanos by omega] at hthree
  split
  · have hsix := hdigits 6 (nanos / 1000) (by decide) (by decide) (by omega)
    rwa [show nanos / 1000 * 10 ^ (9 - 6) = nanos by omega] at hsix
  · have hnine := hdigits 9 nanos (by decide) (by decide) h
    rwa [Nat.sub_self, Nat.pow_zero, Nat.mul_one] at hnine

/-- A numeral is no blank. -/
theorem isBlank_digitChar : ∀ d < 10, Unicode.isBlank (digitChar d) = false := by decide

/-- A number of full width starts with a numeral. -/
theorem exists_fixed_eq_cons {width : Nat} (n : Nat) (h : 0 < width) :
    ∃ d < 10, ∃ more, Decimal.fixed width n = digitChar d :: more := by
  have hlength := Decimal.length_fixed width n
  cases hfixed : Decimal.fixed width n with
  | nil =>
    rw [hfixed] at hlength
    exact absurd hlength (Nat.ne_of_lt h)
  | cons c more =>
    obtain ⟨d, hd, rfl⟩ := Decimal.exists_of_mem_fixed (hfixed ▸ List.mem_cons_self)
    exact ⟨d, hd, more, rfl⟩

/-- No blank is passed over in front of a number. -/
theorem blanks_run_fixed {width n : Nat} (h : 0 < width) :
    blanks.run (Decimal.fixed width n ++ rest) = .ok ((), Decimal.fixed width n ++ rest) := by
  obtain ⟨d, hd, more, hfixed⟩ := exists_fixed_eq_cons n h
  rw [hfixed]
  exact blanks_run (isBlank_digitChar d hd)

theorem looseYear_run {year : Nat} (hyear : year ≤ 9999) (hc : Decimal.isDigit c = false) :
    looseYear.run (Decimal.fixed 4 year ++ c :: rest) = .ok ((year : Int), c :: rest) := by
  have hnumber : (number (some 4)).run (Decimal.fixed 4 year ++ c :: rest) = .ok (year, c :: rest) :=
    number_run (by decide) (Nat.lt_succ_of_le hyear) (Nat.lt_of_le_of_lt hyear (by decide)) hc
  obtain ⟨d, hd, more, hfixed⟩ := exists_fixed_eq_cons year (Nat.succ_pos 3)
  have hsign : ∀ d < 10, digitChar d ≠ '-' ∧ digitChar d ≠ '+' := by decide
  unfold looseYear
  rw [run_bind_ok (blanks_run_fixed (by decide)), run_bind_ok rfl]
  rw [hfixed] at hnumber ⊢
  rw [List.cons_append] at hnumber ⊢
  split
  · rename_i heq
    exact absurd (List.cons.inj heq).1 (hsign d hd).1
  · rename_i heq
    exact absurd (List.cons.inj heq).1 (hsign d hd).2
  · exact run_bind_ok (f := fun n : Nat => (pure (n : Int) : Reader Int)) hnumber

theorem two_run {n : Nat} (hn : n < 100) (hc : Decimal.isDigit c = false) :
    (number (some 2)).run (Decimal.fixed 2 n ++ c :: rest) = .ok (n, c :: rest) :=
  number_run (by decide) hn (Nat.lt_trans hn (by decide)) hc

theorem loosePair_run {n : Nat} (hn : n < 100) (hc : Decimal.isDigit c = false) (hblank : Unicode.isBlank c = false) :
    loosePair.run (Decimal.fixed 2 n ++ c :: rest) = .ok (n, c :: rest) := by
  unfold loosePair
  rw [run_bind_ok (blanks_run_fixed (by decide)), run_bind_ok (two_run hn hc), run_bind_ok (blanks_run hblank)]
  rfl

/-! ### The whole timestamp -/

/-- What is read from the pieces of a timestamp in Greenwich, one behind another. -/
theorem readLoosely_pieces {date : Date} (hexists : date.Exists) (hyear : 0 ≤ date.year) (hyear' : date.year ≤ 9999)
    {hour minute second nanos : Nat} (hhour : hour ≤ 23) (hminute : minute ≤ 59) (hsecond : second ≤ 60)
    {digits : List Char} (hfraction : Fraction digits nanos) {s : Stamp}
    (hstamp : assemble date hour minute second nanos 0 = .ok s) (hin : inYears s.instant.seconds = true) :
    readLoosely (String.ofList (Decimal.fixed 4 date.year.toNat ++ '-' :: (Decimal.fixed 2 date.month ++
      '-' :: (Decimal.fixed 2 date.day ++ 'T' :: (Decimal.fixed 2 hour ++ ':' :: (Decimal.fixed 2 minute ++
        ':' :: (Decimal.fixed 2 second ++ (digits ++ ['Z'])))))))) = .ok s := by
  obtain ⟨hmonth, hmonth', hday, hday'⟩ := id hexists
  have hday31 : date.day ≤ 31 := Nat.le_trans hday' (Date.getD_monthLengths_le _ _)
  have hdate : (⟨(date.year.toNat : Nat), date.month, date.day⟩ : Date) = date := by
    rw [Int.toNat_of_nonneg hyear]
  have hzone := hfraction.run (.zulu (Or.inl rfl) : Zone ['Z'] 0)
  obtain ⟨c, rest, hbehind, hc⟩ : ∃ c rest, digits ++ ['Z'] = c :: rest ∧ Decimal.isDigit c = false := by
    cases hfraction with
    | missing => exact ⟨'Z', [], rfl, rfl⟩
    | digits => exact ⟨'.', _, rfl, rfl⟩
  have hrun : loose.run (Decimal.fixed 4 date.year.toNat ++ '-' :: (Decimal.fixed 2 date.month ++
      '-' :: (Decimal.fixed 2 date.day ++ 'T' :: (Decimal.fixed 2 hour ++ ':' :: (Decimal.fixed 2 minute ++
        ':' :: (Decimal.fixed 2 second ++ (digits ++ ['Z']))))))) = .ok (s, []) := by
    have hoffset : looseOffset.run ['Z'] = .ok (0, []) := rfl
    have hblanks : blanks.run [] = .ok ((), []) := rfl
    unfold loose
    rw [run_bind_ok (looseYear_run (by omega) rfl), run_bind_ok (blanks_run rfl), run_bind_ok (literal_run _ _),
      run_bind_ok (loosePair_run (by omega) rfl rfl), run_bind_ok (literal_run _ _),
      run_bind_ok (blanks_run_fixed (by decide)), run_bind_ok (two_run (by omega) rfl), run_bind_ok (oneOf_run rfl _),
      run_bind_ok (loosePair_run (by omega) rfl rfl), run_bind_ok (literal_run _ _),
      run_bind_ok (loosePair_run (by omega) rfl rfl), run_bind_ok (literal_run _ _),
      run_bind_ok (blanks_run_fixed (by decide)), hbehind, run_bind_ok (two_run (by omega) hc), ← hbehind,
      run_bind_ok hzone, run_bind_ok (blanks_run rfl), run_bind_ok hoffset, run_bind_ok hblanks, run_bind_ok rfl]
    have hyears : ¬ (¬ date.Exists ∨ date.year < leastYear ∨ greatestYear < date.year) := by
      rw [not_or, not_not, leastYear, greatestYear]
      exact ⟨hexists, by omega⟩
    have hstep : (liftM (assemble date hour minute second nanos 0) : Reader Stamp).run [] = .ok (s, []) := by
      rw [hstamp]
      rfl
    have hin' : ¬ ¬ inYears s.instant.seconds = true := not_not_intro hin
    rw [Int.toNat_of_nonneg hyear]
    dsimp only
    rw [if_neg (by decide), if_neg hyears, if_neg (by omega), run_bind_ok hstep, if_neg hin']
    rfl
  rw [readLoosely, String.toList_ofList, hrun]
  rfl

/-- A year of four digits lies between the least and the greatest. -/
theorem inYears_of_year {s : Stamp} (h : 0 ≤ s.year) (h' : s.year ≤ 9999) : inYears s.localSeconds = true := by
  obtain ⟨hfirst, hlast⟩ := Date.yearOfDay_spec (s.localSeconds / secondsPerDay)
  have hleast : Date.daysBeforeYear (leastYear - 1 + 1) ≤ Date.daysBeforeYear s.year :=
    Date.daysBeforeYear_lt (by simp only [leastYear]; omega)
  have hgreatest : Date.daysBeforeYear (s.year + 1) ≤ Date.daysBeforeYear (greatestYear + 1) :=
    Date.daysBeforeYear_lt (by simp only [greatestYear]; omega)
  rw [Int.sub_add_cancel] at hleast
  change Date.daysBeforeYear s.year ≤ _ at hfirst
  change _ < Date.daysBeforeYear (s.year + 1) at hlast
  rw [inYears, Bool.and_eq_true, decide_eq_true_iff, decide_eq_true_iff]
  generalize Date.daysBeforeYear leastYear = least at *
  generalize Date.daysBeforeYear (greatestYear + 1) = greatest at *
  simp only [secondsPerDay] at *
  omega

/-- The text of an instant in documents. -/
theorem document_eq (h : 0 ≤ (utc t).year) (h' : (utc t).year ≤ 9999) :
    let date := Date.ofDays ((utc t).localSeconds / secondsPerDay)
    let second := ((utc t).localSeconds % secondsPerDay).toNat
    t.document = String.ofList (Decimal.fixed 4 date.year.toNat ++ '-' :: (Decimal.fixed 2 date.month ++
      '-' :: (Decimal.fixed 2 date.day ++ 'T' :: (Decimal.fixed 2 (second / 3600) ++
        ':' :: (Decimal.fixed 2 (second / 60 % 60) ++ ':' :: (Decimal.fixed 2 (second % 60 + t.nanos / nanosPerSecond) ++
          (writeFraction false (t.nanos % nanosPerSecond) ++ ['Z']))))))) := by
  have hyear : 0 ≤ (Date.ofDays ((utc t).localSeconds / secondsPerDay)).year ∧
      (Date.ofDays ((utc t).localSeconds / secondsPerDay)).year ≤ 9999 := ⟨h, h'⟩
  have hzone : writeOffset true (utc t).offset = ['Z'] := rfl
  simp only [Instant.document, write, writeChars, writeDate, writeYear, writeTime, TimeStyle.document, if_pos hyear, hzone,
    List.append_assoc, List.cons_append]
  rfl

/-- **An instant of a year with four digits is read from its text in documents** as the one that it tells. -/
theorem readLoosely_document (h : 0 ≤ (utc t).year) (h' : (utc t).year ≤ 9999) :
    readLoosely t.document = .ok (utc t.told) := by
  have hsecond : ((utc t).localSeconds % secondsPerDay).toNat < 86400 := by
    simp only [secondsPerDay]
    omega
  have hleap : t.nanos / nanosPerSecond ≤ 1 := by
    have hnanos := t.nanos_lt
    simp only [nanosPerSecond] at hnanos ⊢
    omega
  have hlocal : (utc t.told).localSeconds = t.told.seconds := Int.add_zero t.told.seconds
  -- what the clock of Greenwich shows tells all but the leap seconds within a minute
  have hstamp := assemble_told (s := utc t) rfl (t.nanos % nanosPerSecond) 0
  change _ = ofClock (utc t.told).localSeconds
    (t.nanos % nanosPerSecond + t.told.nanos / nanosPerSecond * nanosPerSecond) 0 at hstamp
  have hsame : ofClock (utc t.told).localSeconds t.told.nanos 0 = .ok (utc t.told) := by
    rw [hlocal, ofClock_eq (by decide) t.told.nanos_lt]
    simp only [Int.sub_zero]
    rfl
  rw [← t.nanos_told_mod, Nat.mod_add_div', hsame] at hstamp
  have hyear : (utc t.told).year = (utc t).year := year_told (s := utc t) rfl
  have hin : inYears (utc t.told).instant.seconds = true := by
    have hin := inYears_of_year (s := utc t.told) (hyear ▸ h) (hyear ▸ h')
    rwa [hlocal] at hin
  rw [document_eq h h', ← t.nanos_told_mod]
  exact readLoosely_pieces (Date.toDays_ofDays _).1 h h' (by omega) (by omega) (by omega)
    (fraction_writeFraction (Nat.mod_lt _ (by decide))) hstamp hin

end Logbook.Stamp
