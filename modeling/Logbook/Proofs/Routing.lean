import Logbook.LogName
import Logbook.Proofs.Instant
import Logbook.Proofs.Packet
import Logbook.Syslog.Listener

/-!
# What packets add to logs

A message that is routed names a log by its program, at an instant that can be stored.  Lines of a program's output can
be routed as they are or sent in packets and routed when they have been read.  Both come to the same unless the line
starts with a mark, which the reader takes off, or its instant lies in a leap second within a minute, which no text
tells.

## Main results

* `Syslog.route_eq_ok_iff` — the messages that are routed, and where.
* `Syslog.entryOf_valid` — entries have names that logs can have and instants that can be stored.
* `Syslog.entryOf_ofLine` — **what the packet of a line adds.**
-/

namespace Logbook.Syslog

/-! ### Messages that are routed -/

/-- A log is that of a stream, or of a program. -/
theorem of_logOf {appName msgId log : String} (h : logOf appName msgId = .ok log) :
    log = appName ++ ":" ++ msgId ∨ log = appName := by
  rw [logOf] at h
  split at h
  case isTrue => exact Or.inl (Except.ok.inj h).symm
  case isFalse =>
    split at h
    case isTrue => exact Or.inr (Except.ok.inj h).symm
    case isFalse => cases h

theorem exists_logOf {appName msgId : String} (h : msgId = "out" ∨ msgId = "err" ∨ msgId = appName) :
    ∃ log, logOf appName msgId = .ok log := by
  rw [logOf]
  by_cases hstream : msgId = "out" ∨ msgId = "err"
  · exact ⟨_, if_pos hstream⟩
  · have hsame : msgId = appName := (or_assoc.2 h).resolve_left hstream
    exact ⟨appName, by rw [if_neg hstream, if_pos hsame]⟩

/-- What is left to check when the fields are there. -/
theorem route_eq {m : Message} {appName msgId : String} {stamp : Stamp} (happName : m.appName = some appName)
    (hmsgId : m.msgId = some msgId) (hstamp : m.timestamp = some stamp) :
    route m = if stamp.instant.nanos? = none then .error (.timestampOutOfRange stamp.instant.shown)
      else (fun log => ⟨log, stamp.instant, withoutLineFeed (m.message.getD [])⟩) <$> logOf appName msgId := by
  rw [route, happName, hmsgId, hstamp]
  show (if stamp.instant.nanos? = none then _ else _) = _
  split
  · rfl
  · cases logOf appName msgId with
    | error error => rfl
    | ok log => rfl

/-- The messages that are routed, and where. -/
theorem route_eq_ok_iff {m : Message} {e : Entry} :
    route m = .ok e ↔ ∃ appName msgId stamp, m.appName = some appName ∧ m.msgId = some msgId ∧
      m.timestamp = some stamp ∧ stamp.instant.nanos? ≠ none ∧ logOf appName msgId = .ok e.log ∧
        e.timestamp = stamp.instant ∧ e.message = withoutLineFeed (m.message.getD []) := by
  constructor
  · intro h
    -- a message that lacks a field is not routed
    cases happName : m.appName with
    | none => rw [route, happName] at h; cases h
    | some appName =>
      cases hmsgId : m.msgId with
      | none => rw [route, happName, hmsgId] at h; cases h
      | some msgId =>
        cases hstamp : m.timestamp with
        | none => rw [route, happName, hmsgId, hstamp] at h; cases h
        | some stamp =>
          rw [route_eq happName hmsgId hstamp] at h
          split at h
          case isTrue => cases h
          case isFalse hnanos =>
            cases hlog : logOf appName msgId with
            | error error => rw [hlog] at h; cases h
            | ok log =>
              rw [hlog] at h
              cases h
              exact ⟨appName, msgId, stamp, rfl, rfl, rfl, hnanos, hlog, rfl, rfl⟩
  · rintro ⟨appName, msgId, stamp, happName, hmsgId, hstamp, hnanos, hlog, htime, hmessage⟩
    rw [route_eq happName hmsgId hstamp, if_neg hnanos, hlog, ← htime, ← hmessage]
    rfl

/-! ### Names and instants -/

/-- A field that is not nil can name a log. -/
theorem valid_of_fits {max : Nat} {text : String} (h : FitsField max (some text)) : LogName.Valid text := by
  obtain ⟨hempty, -, -, hvisible⟩ := h text rfl
  refine ⟨fun hnil => hempty (String.toList_eq_nil_iff.1 hnil), fun hnul => ?_⟩
  have hzero := hvisible 0 ((Utf8.zero_mem_encode_iff text).2 hnul)
  exact absurd hzero.1 (by decide)

/-- Names that logs can have make up such a name, with a colon between them. -/
theorem valid_append {name name' : String} (h : LogName.Valid name) (h' : LogName.Valid name') :
    LogName.Valid (name ++ ":" ++ name') := by
  have hlist : (name ++ ":" ++ name').toList = name.toList ++ ':' :: name'.toList := by
    simp only [String.toList_append, List.append_assoc]
    rfl
  rw [LogName.Valid, hlist, List.mem_append, List.mem_cons]
  refine ⟨?_, ?_⟩
  · exact List.append_ne_nil_of_left_ne_nil h.1 _
  · rintro (hnul | hcolon | hnul)
    · exact h.2 hnul
    · exact absurd hcolon (by decide)
    · exact h'.2 hnul

/-- **Entries have names that logs can have, and instants that can be stored.** -/
theorem entryOf_valid {packet : Bytes} {e : Entry} (h : entryOf packet = .ok e) :
    LogName.Valid e.log ∧ e.timestamp.nanos? ≠ none := by
  rw [entryOf] at h
  cases hread : read packet with
  | error error => rw [hread] at h; cases h
  | ok m =>
    rw [hread] at h
    obtain ⟨appName, msgId, stamp, happName, hmsgId, -, hnanos, hlog, htime, -⟩ := route_eq_ok_iff.1 h
    have hfits := Message.fits_of_read hread
    have hprogram := valid_of_fits (happName ▸ hfits.appName)
    have hkind := valid_of_fits (hmsgId ▸ hfits.msgId)
    refine ⟨?_, htime ▸ hnanos⟩
    rcases of_logOf hlog with heq | heq
    · rw [heq]
      exact valid_append hprogram hkind
    · rw [heq]
      exact hprogram

/-! ### Lines in packets -/

/-- An instant that can be stored is in a year with four digits. -/
theorem year_utc {t : Instant} (h : t.nanos? ≠ none) : 0 ≤ (Stamp.utc t).year ∧ (Stamp.utc t).year ≤ 9999 := by
  obtain ⟨n, hn⟩ := Option.ne_none_iff_exists'.1 h
  obtain ⟨htotal, hgreatest⟩ := Instant.nanos?_eq_some_iff.1 hn
  have hnanos := t.nanos_lt
  have hclock : (Stamp.utc t).localSeconds = t.seconds := Int.add_zero _
  -- a leap second before 1970 is the least instant, and seconds are counted up to the year 2262
  have hbounds : -1 ≤ t.seconds ∧ t.seconds ≤ 9223372036 := by
    simp only [Instant.totalNanos, Instant.greatestNanos, nanosPerSecond] at htotal hgreatest hnanos
    omega
  obtain ⟨hle, hlt⟩ := Date.yearOfDay_spec (t.seconds / secondsPerDay)
  have hyear : (Stamp.utc t).year = Date.yearOfDay (t.seconds / secondsPerDay) := by
    rw [Stamp.year, hclock]
    rfl
  rw [hyear]
  simp only [Date.daysBeforeYear, secondsPerDay] at hle hlt ⊢
  omega

/-- An instant that can be stored and is a whole number of microseconds is read as what it tells. -/
theorem readTime_utc {t : Instant} (h : t.nanos? ≠ none) (hmicros : t.nanos % 1000 = 0) :
    readTime (some (Stamp.utc t)) = .ok (some (Stamp.utc t.told)) := by
  have hyear := year_utc h
  rw [readTime, if_neg (Nat.not_lt.2 (Message.length_writeChars_le hyear)), Stamp.read_of_micros hyear rfl hmicros]
  rfl

/-- The header of a line's packet can be read. -/
theorem fitsHeader_ofLine {appName msgId : String} (happName : FitsField 48 (some appName))
    (hmsgId : msgId = "out" ∨ msgId = "err" ∨ msgId = appName ∧ (Utf8.encode msgId).length ≤ 32) (t : Instant)
    (line : Bytes) : (Message.ofLine appName msgId t line).FitsHeader where
  facility := show (1 : UInt8).toNat ≤ 23 by decide
  severity := show (6 : UInt8).toNat ≤ 7 by decide
  version := show 1 ≤ (1 : UInt16).toNat ∧ (1 : UInt16).toNat ≤ 999 by decide
  hostname := nofun
  appName := happName
  procId := nofun
  msgId := by
    show FitsField 32 (some msgId)
    rcases hmsgId with rfl | rfl | ⟨rfl, hlength⟩
    · decide
    · decide
    · obtain ⟨hempty, hdash, -, hvisible⟩ := fitsField_some_iff.1 happName
      exact fitsField_some_iff.2 ⟨hempty, hdash, hlength, hvisible⟩
  structuredData := nofun

theorem length_withoutLineFeed (body : Bytes) :
    body.length - 1 ≤ (withoutLineFeed body).length ∧ (withoutLineFeed body).length ≤ body.length := by
  rw [withoutLineFeed]
  split
  · rw [List.length_dropLast]
    omega
  · omega

/-- A mark is not taken off with a line feed. -/
theorem withoutLineFeed_withoutMark_iff {line : Bytes} :
    withoutLineFeed line = withoutLineFeed (withoutMark line) ↔ ¬ byteOrderMark <+: line := by
  constructor
  · intro h hmark
    have hthree := hmark.length_le
    have hcut : (withoutMark line).length = line.length - 3 := by
      rw [withoutMark, if_pos (List.isPrefixOf_iff_prefix.2 hmark), List.length_drop]
      rfl
    have hline := (length_withoutLineFeed line).1
    have hbare := (length_withoutLineFeed (withoutMark line)).2
    rw [h] at hline
    simp only [byteOrderMark, List.length_cons, List.length_nil] at hthree
    omega
  · intro hmark
    rw [Message.withoutMark_eq_iff.2 hmark]

section Lines

variable {appName msgId : String} {t : Instant}

/-- The message of a line is routed with the line as it is. -/
theorem route_ofLine {log : String} (hlog : logOf appName msgId = .ok log) (hstorable : t.nanos? ≠ none)
    (line : Bytes) : route (Message.ofLine appName msgId t line) = .ok ⟨log, t, withoutLineFeed line⟩ := by
  have hinstant : (Stamp.utc t).instant = t := rfl
  rw [route_eq rfl rfl rfl, hinstant, if_neg hstorable, hlog]
  rfl

variable (happName : FitsField 48 (some appName))
  (hmsgId : msgId = "out" ∨ msgId = "err" ∨ msgId = appName ∧ (Utf8.encode msgId).length ≤ 32)
  (hstorable : t.nanos? ≠ none) (hmicros : t.nanos % 1000 = 0)
include happName hmsgId hstorable hmicros

/-- The packet of a line is read as the message of the line without a mark at its start, at the instant that is told. -/
theorem read_encode_ofLine (line : Bytes) :
    read (Message.ofLine appName msgId t line).encode =
      .ok (Message.ofLine appName msgId t.told (withoutMark line)) := by
  rw [Message.read_encode (fitsHeader_ofLine happName hmsgId t line)]
  simp only [Message.ofLine, readTime_utc hstorable hmicros]
  rfl

/-- The entry of a line's packet. -/
theorem entryOf_encode_ofLine {log : String} (hlog : logOf appName msgId = .ok log) (line : Bytes) :
    entryOf (Message.ofLine appName msgId t line).encode = .ok ⟨log, t.told, withoutLineFeed (withoutMark line)⟩ := by
  rw [entryOf, read_encode_ofLine happName hmsgId hstorable hmicros]
  exact route_ofLine hlog (t.nanos?_told ▸ hstorable) _

/-- **What the packet of a line adds.**  It is what the line adds without a mark at its start, at the instant that is
told.  So it is what the line adds unless it starts with a mark or lies in a leap second within a minute. -/
theorem entryOf_ofLine (line : Bytes) :
    ∃ e, entryOf (Message.ofLine appName msgId t line).encode = .ok e ∧
      route (Message.ofLine appName msgId t.told (withoutMark line)) = .ok e ∧
        (route (Message.ofLine appName msgId t line) = .ok e ↔ ¬ byteOrderMark <+: line ∧ t.OnMinute) := by
  obtain ⟨log, hlog⟩ := exists_logOf (hmsgId.imp_right (Or.imp_right And.left))
  refine ⟨_, entryOf_encode_ofLine happName hmsgId hstorable hmicros hlog line,
    route_ofLine hlog (t.nanos?_told ▸ hstorable) _, ?_⟩
  rw [route_ofLine hlog hstorable, Except.ok.injEq, Entry.mk.injEq, and_iff_right rfl, eq_comm (a := t),
    Instant.told_eq_iff, withoutLineFeed_withoutMark_iff, and_comm]

end Lines

theorem fitsField_web : FitsField 48 (some "web") := by decide

/-- A line of a program that names itself, with a line feed at its end. -/
theorem entryOf_ofLine_web :
    ∃ e, entryOf (Message.ofLine "web" "web" (.ofNanos 1709294400000250000) [0x75, 0x70, 0x0A]).encode = .ok e ∧
      route (Message.ofLine "web" "web" (.ofNanos 1709294400000250000) [0x75, 0x70, 0x0A]) = .ok e := by
  obtain ⟨e, hentry, -, hsame⟩ := @entryOf_ofLine "web" "web" (.ofNanos 1709294400000250000) fitsField_web
    (Or.inr (Or.inr ⟨rfl, by decide⟩)) (by decide) (by decide) [0x75, 0x70, 0x0A]
  exact ⟨e, hentry, hsame.2 ⟨by decide, by decide⟩⟩

/-- A packet may add something else than its line.  A line that starts with a mark is routed with it, and one in a leap
second within a minute is routed at that instant. -/
theorem entryOf_ofLine_ne_route :
    let t : Instant := .ofNanos 1709294400000000000
    let within : Instant := ⟨1709294400, 1500000000, by decide⟩
    FitsField 48 (some "web") ∧
    (t.nanos? ≠ none ∧ t.nanos % 1000 = 0 ∧
      ¬ ∃ e, entryOf (Message.ofLine "web" "out" t [0xEF, 0xBB, 0xBF, 0x68, 0x69]).encode = .ok e ∧
        route (Message.ofLine "web" "out" t [0xEF, 0xBB, 0xBF, 0x68, 0x69]) = .ok e) ∧
    (within.nanos? ≠ none ∧ within.nanos % 1000 = 0 ∧
      ¬ ∃ e, entryOf (Message.ofLine "web" "out" within [0x68, 0x69]).encode = .ok e ∧
        route (Message.ofLine "web" "out" within [0x68, 0x69]) = .ok e) := by
  intro t within
  have hlog : logOf "web" "out" = .ok "web:out" := by decide
  -- both ways the log is the same, so what differs is the text or the instant
  have hdiffer {t : Instant} (hstorable : t.nanos? ≠ none) (hmicros : t.nanos % 1000 = 0) (line : Bytes)
      (hne : (t, withoutLineFeed line) ≠ (t.told, withoutLineFeed (withoutMark line))) :
      ¬ ∃ e, entryOf (Message.ofLine "web" "out" t line).encode = .ok e ∧
        route (Message.ofLine "web" "out" t line) = .ok e := by
    rintro ⟨e, hpacket, hroute⟩
    rw [entryOf_encode_ofLine fitsField_web (Or.inl rfl) hstorable hmicros hlog] at hpacket
    rw [route_ofLine hlog hstorable, ← hpacket, Except.ok.injEq, Entry.mk.injEq] at hroute
    exact hne (Prod.ext hroute.2.1 hroute.2.2)
  exact ⟨fitsField_web, ⟨by decide, by decide, hdiffer (by decide) (by decide) _ (by decide)⟩, by decide, by decide,
    hdiffer (by decide) (by decide) _ (by decide)⟩

end Logbook.Syslog
