import Logbook.Proofs.Grammar

/-!
# Packets that are read back

The encoder checks nothing, and the reader checks all that it reads.  So a message comes back from its packet just
where every field of it is fit for packets.

## Main definitions

* `Syslog.readTime` — what is read in the place of a timestamp.
* `Syslog.Message.Fits` — whether a message is fit for packets.
* `Syslog.Message.Alike` — messages that differ at most in the clocks of their timestamps.

## Main results

* `Syslog.timestamp_run` — timestamps that are read back.
* `Syslog.Message.fits_of_read`, `Syslog.Message.read_encode` — what the reader admits, and what it reads.
* `Syslog.Message.read_encode_iff` — **the messages that are read back from their packets.**
-/

namespace Logbook.Syslog

/-! ### The timestamp -/

theorem visible_of_isDigit {c : Char} (h : Decimal.isDigit c = true) : 33 ≤ c.toNat ∧ c.toNat ≤ 126 := by
  have := (Decimal.isDigit_iff c).1 h
  omega

theorem visible_fixed (width n : Nat) : ∀ c ∈ Decimal.fixed width n, 33 ≤ c.toNat ∧ c.toNat ≤ 126 :=
  fun _ hc => visible_of_isDigit (Decimal.isDigit_of_mem_fixed hc)

theorem visible_writeYear (year : Int) : ∀ c ∈ Stamp.writeYear year, 33 ≤ c.toNat ∧ c.toNat ≤ 126 := by
  rw [Stamp.writeYear]
  split
  · exact visible_fixed 4 _
  · rw [Decimal.padded, List.forall_mem_cons, List.forall_mem_append]
    refine ⟨by split <;> decide, fun c hc => ?_, fun c hc => ?_⟩
    · rw [List.eq_of_mem_replicate hc]
      decide
    · obtain ⟨d, hd, rfl⟩ := Decimal.exists_of_mem_natural hc
      exact visible_of_isDigit (Decimal.isDigit_digitChar d hd)

theorem visible_writeOffset (zulu : Bool) (offset : Int) :
    ∀ c ∈ Stamp.writeOffset zulu offset, 33 ≤ c.toNat ∧ c.toNat ≤ 126 := by
  rw [Stamp.writeOffset]
  split
  · rw [List.forall_mem_singleton]
    decide
  · simp only [List.cons_append, List.forall_mem_append, List.forall_mem_cons]
    exact ⟨by split <;> decide, visible_fixed 2 _, by decide, visible_fixed 2 _⟩

/-- All characters of a timestamp are visible. -/
theorem visible_writeChars (s : Stamp) : ∀ c ∈ s.writeChars .packet, 33 ≤ c.toNat ∧ c.toNat ≤ 126 := by
  simp only [Stamp.writeChars, Stamp.writeDate, Stamp.writeTime, Stamp.writeFraction, TimeStyle.packet, if_true,
    List.forall_mem_append, List.forall_mem_cons]
  exact ⟨⟨⟨⟨visible_writeYear _, by decide, visible_fixed 2 _⟩, by decide, visible_fixed 2 _⟩, by decide,
    ⟨⟨visible_fixed 2 _, by decide, visible_fixed 2 _⟩, by decide, visible_fixed 2 _⟩, by decide,
    visible_fixed 6 _⟩,
    visible_writeOffset _ _⟩

/-- The bytes of a timestamp are those of its characters, and visible. -/
theorem encode_write (s : Stamp) :
    Utf8.encode (s.write .packet) = (s.writeChars .packet).map (fun c => UInt8.ofNat c.toNat) ∧
      ∀ b ∈ Utf8.encode (s.write .packet), 33 ≤ b.toNat ∧ b.toNat ≤ 126 := by
  have hvisible := visible_writeChars s
  have hencode : Utf8.encode (s.write .packet) = (s.writeChars .packet).map (fun c => UInt8.ofNat c.toNat) := by
    rw [Utf8.encode, Stamp.write, String.toList_ofList]
    exact Utf8.flatMap_encodeChar fun c hc => Nat.lt_of_le_of_lt (hvisible c hc).2 (by decide)
  refine ⟨hencode, fun b hb => ?_⟩
  rw [hencode] at hb
  obtain ⟨c, hc, rfl⟩ := List.mem_map.1 hb
  have := hvisible c hc
  rw [Utf8.toNat_ofNat (by omega)]
  exact this

/-- What is read in the place of a timestamp. -/
def readTime : Option Stamp → Except Fault (Option Stamp)
  | none => .ok none
  | some s =>
    if 64 < (s.writeChars .packet).length then .error (.tooLong "TIMESTAMP" 64)
    else match Stamp.read (s.writeChars .packet) with
      | .ok stamp => .ok (some stamp)
      | .error fault => .error (.timestamp (s.write .packet) fault)

theorem timestamp_run (t : Option Stamp) (rest : Bytes) :
    timestamp.run (Message.field (t.map (·.write .packet)) ++ blank :: rest) =
      (fun t' => (t', blank :: rest)) <$> readTime t := by
  cases t with
  | none => rfl
  | some s =>
    obtain ⟨hencode, hvisible⟩ := encode_write s
    have hT : 'T' ∈ s.writeChars .packet := by
      rw [Stamp.writeChars]
      exact List.mem_append_left _ (List.mem_append_right _ List.mem_cons_self)
    have hne (text : String) (hnot : 'T' ∉ text.toList) : s.write .packet ≠ text := by
      rintro rfl
      rw [Stamp.write, String.toList_ofList] at hnot
      exact hnot hT
    have hfield := field_run_some (hne "" (by decide)) (hne "-" (by decide)) hvisible "TIMESTAMP" 64 rest
    rw [hencode, List.length_map] at hfield
    rw [readTime, Option.map_some, Message.field, hencode]
    unfold timestamp
    split
    case isTrue hlong =>
      rw [if_pos hlong] at hfield
      rw [run_bind_error hfield]
      rfl
    case isFalse hshort =>
      rw [if_neg hshort] at hfield
      rw [run_bind_ok hfield]
      simp only [Stamp.write, String.toList_ofList]
      cases Stamp.read (s.writeChars .packet) with
      | error fault => rfl
      | ok stamp => rfl

namespace Message

/-- Whether all but the timestamp and the text of a message is fit for packets. -/
structure FitsHeader (m : Message) : Prop where
  /-- The facility is one of 24. -/
  facility : m.facility.toNat ≤ 23
  /-- The severity is one of 8. -/
  severity : m.severity.toNat ≤ 7
  /-- The version has one to three digits, without a leading nought. -/
  version : 1 ≤ m.version.toNat ∧ m.version.toNat ≤ 999
  /-- The host. -/
  hostname : FitsField 255 m.hostname
  /-- The program. -/
  appName : FitsField 48 m.appName
  /-- The process. -/
  procId : FitsField 128 m.procId
  /-- The kind of the message. -/
  msgId : FitsField 32 m.msgId
  /-- The structured data are nil, or one element or more. -/
  structuredData : ∀ text ∈ m.structuredData, Elements (Utf8.encode text)

/-- Whether a message is fit for packets. -/
structure Fits (m : Message) : Prop extends m.FitsHeader where
  /-- The timestamp is nil, or its text tells all about it. -/
  timestamp : ∀ s ∈ m.timestamp, s.Fits
  /-- The text does not start with a mark. -/
  message : ∀ text ∈ m.message, ¬ byteOrderMark <+: text

/-- Messages that differ at most in the clocks that their timestamps were taken from. -/
structure Alike (m m' : Message) : Prop where
  /-- The timestamps are of the same instant. -/
  timestamp : m.timestamp.map (·.instant) = m'.timestamp.map (·.instant)
  /-- All else is the same. -/
  others : { m with timestamp := none } = { m' with timestamp := none }

/-- **What the reader admits.** -/
theorem fits_of_read {bytes : Bytes} {m : Message} (h : read bytes = .ok m) : m.FitsHeader := by
  obtain ⟨p, hp, -, htells⟩ := exists_of_read h
  have hfacility := htells.facility
  have hseverity := htells.severity
  have hversion := htells.version
  have hpriority := hp.priority.2
  obtain ⟨hlt, hone⟩ := hp.version.1.bounds
  have hone := hone hp.version.2
  exact ⟨by omega, by omega, by omega, hp.hostname.fits htells.hostname, hp.appName.fits htells.appName,
    hp.procId.fits htells.procId, hp.msgId.fits htells.msgId, hp.data.elements htells.structuredData⟩

/-- The pieces of a packet, one behind another. -/
theorem encode_eq (m : Message) :
    m.encode = opening :: (number m.priority ++ closing :: (number m.version.toNat ++ blank ::
      (field (m.timestamp.map (·.write .packet)) ++ blank :: (field m.hostname ++ blank ::
        (field m.appName ++ blank :: (field m.procId ++ blank :: (field m.msgId ++ blank ::
          (field m.structuredData ++ ending m.message)))))))) := by
  simp only [encode, headerFields, List.flatMap_cons, List.flatMap_nil, List.append_nil, List.append_assoc,
    List.cons_append]
  rfl

/-- The facility and the severity are found in the priority. -/
theorem priority_parts {m : Message} (h : m.FitsHeader) :
    m.priority ≤ 191 ∧ UInt8.ofNat (m.priority / 8) = m.facility ∧ UInt8.ofNat (m.priority % 8) = m.severity := by
  have hfacility := h.facility
  have hseverity := h.severity
  have hdiv : m.priority / 8 = m.facility.toNat := by
    rw [priority]
    omega
  have hmod : m.priority % 8 = m.severity.toNat := by
    rw [priority]
    omega
  rw [hdiv, hmod, UInt8.ofNat_toNat, UInt8.ofNat_toNat]
  refine ⟨?_, rfl, rfl⟩
  rw [priority]
  omega

/-- **What is read from the packet of a message.** -/
theorem read_encode {m : Message} (h : m.FitsHeader) :
    read m.encode = match readTime m.timestamp with
      | .ok timestamp => .ok { m with timestamp, message := m.message.map withoutMark }
      | .error fault => .error (.malformed fault.message) := by
  obtain ⟨hpriority, hfacility, hseverity⟩ := priority_parts h
  rw [read]
  generalize m.encode.length = total
  rw [encode_eq]
  generalize hrest : field m.hostname ++ blank :: (field m.appName ++ blank :: (field m.procId ++ blank ::
    (field m.msgId ++ blank :: (field m.structuredData ++ ending m.message)))) = rest
  have htime := timestamp_run m.timestamp rest
  unfold packet
  rw [run_bind_ok (start_run_number hpriority h.version.1 h.version.2 total _)]
  dsimp only
  rw [run_bind_ok (expect_run _ _ _ _)]
  cases hread : readTime m.timestamp with
  | error fault =>
    rw [hread] at htime
    rw [run_bind_error htime]
  | ok timestamp =>
    rw [hread] at htime
    rw [run_bind_ok htime, ← hrest, run_bind_ok (nextField_run h.hostname _ _ _ _),
      run_bind_ok (nextField_run h.appName _ _ _ _), run_bind_ok (nextField_run h.procId _ _ _ _),
      run_bind_ok (nextField_run h.msgId _ _ _ _), run_bind_ok (expect_run _ _ _ _),
      run_bind_ok (structuredData_run h.structuredData (head?_ending _)), run_bind_ok (body_run _ _), hfacility,
      hseverity, UInt16.ofNat_toNat]
    rfl

/-! ### The messages that come back -/

theorem withoutMark_eq_iff {text : Bytes} : withoutMark text = text ↔ ¬ byteOrderMark <+: text := by
  rw [withoutMark, ← List.isPrefixOf_iff_prefix]
  split
  case isTrue h =>
    refine ⟨fun heq => ?_, fun hnot => absurd h hnot⟩
    have hprefix := (List.isPrefixOf_iff_prefix.1 h).length_le
    have hlength := congrArg List.length heq
    rw [List.length_drop] at hlength
    simp only [byteOrderMark, List.length_cons, List.length_nil] at hprefix hlength
    omega
  case isFalse h => exact ⟨fun _ => h, fun _ => rfl⟩

theorem length_writeOffset_le (zulu : Bool) (offset : Int) : (Stamp.writeOffset zulu offset).length ≤ 6 := by
  rw [Stamp.writeOffset]
  split
  · decide
  · simp only [List.cons_append, List.length_append, List.length_cons, Decimal.length_fixed]
    decide

/-- A timestamp of a year with four digits is not too long. -/
theorem length_writeChars_le {s : Stamp} (hyear : 0 ≤ s.year ∧ s.year ≤ 9999) : (s.writeChars .packet).length ≤ 64 := by
  have hoffset := length_writeOffset_le true s.offset
  rw [Stamp.writeChars_eq s hyear.1 hyear.2]
  simp only [List.length_append, List.length_cons, Decimal.length_fixed]
  omega

/-- A timestamp that fits is read back. -/
theorem readTime_of_fits {t : Option Stamp} (h : ∀ s ∈ t, s.Fits) : readTime t = .ok t := by
  cases t with
  | none => rfl
  | some s =>
    have hfits := h s rfl
    rw [readTime, if_neg (Nat.not_lt.2 (length_writeChars_le hfits.year)), Stamp.read_of_fits hfits]

/-- Where the same instant is read in the place of a timestamp, it fits. -/
theorem fits_of_readTime {t t' : Option Stamp} (h : readTime t = .ok t')
    (hinstant : t'.map (·.instant) = t.map (·.instant)) : ∀ s ∈ t, s.Fits := by
  rintro s hs
  obtain rfl := Option.mem_def.1 hs
  rw [readTime] at h
  split at h
  case isTrue => cases h
  case isFalse =>
    cases hread : Stamp.read (s.writeChars .packet) with
    | error fault => rw [hread] at h; cases h
    | ok s' =>
      rw [hread] at h
      cases h
      exact Stamp.fits_of_read hread (Option.some.inj hinstant)

/-- Messages that are alike are fit alike. -/
theorem Alike.fitsHeader {m m' : Message} (h : m'.Alike m) (hfits : m'.FitsHeader) : m.FitsHeader := by
  have hothers := h.others
  obtain ⟨facility, severity, version, timestamp, hostname, appName, procId, msgId, structuredData, message⟩ := m
  obtain ⟨facility', severity', version', timestamp', hostname', appName', procId', msgId', structuredData',
    message'⟩ := m'
  simp only [mk.injEq, true_and] at hothers
  obtain ⟨rfl, rfl, rfl, rfl, rfl, rfl, rfl, rfl, rfl⟩ := hothers
  exact ⟨hfits.facility, hfits.severity, hfits.version, hfits.hostname, hfits.appName, hfits.procId, hfits.msgId,
    hfits.structuredData⟩

/-- A message is fit for packets if one like it is read from its packet. -/
theorem fits_of_read_encode {m m' : Message} (h : read m.encode = .ok m') (halike : m'.Alike m) : m.Fits := by
  have hheader := halike.fitsHeader (fits_of_read h)
  rw [read_encode hheader] at h
  cases htime : readTime m.timestamp with
  | error fault => rw [htime] at h; cases h
  | ok timestamp =>
    rw [htime] at h
    cases h
    refine { hheader with timestamp := fits_of_readTime htime halike.timestamp, message := fun text htext => ?_ }
    have hmessage : m.message.map withoutMark = m.message := congrArg message halike.others
    rw [Option.mem_def.1 htext, Option.map_some] at hmessage
    exact withoutMark_eq_iff.1 (Option.some.inj hmessage)

/-- **The messages that are read back from their packets** are those that are fit for packets, also where timestamps
of the same instant are taken for equal. -/
theorem read_encode_iff (m : Message) :
    (read m.encode = .ok m ↔ m.Fits) ∧ ((∃ m', read m.encode = .ok m' ∧ m'.Alike m) ↔ m.Fits) := by
  have hback : m.Fits → read m.encode = .ok m := by
    intro h
    have hmessage : m.message.map withoutMark = m.message := by
      cases hm : m.message with
      | none => rfl
      | some text => rw [Option.map_some, withoutMark_eq_iff.2 (h.message text hm)]
    rw [read_encode h.toFitsHeader, readTime_of_fits h.timestamp, hmessage]
  exact ⟨⟨fun h => fits_of_read_encode h ⟨rfl, rfl⟩, hback⟩,
    fun ⟨_, h, halike⟩ => fits_of_read_encode h halike, fun h => ⟨m, hback h, rfl, rfl⟩⟩

/-- A message whose timestamp is in a leap second within a minute is not read back, though its header and the year, the
offset and the microseconds of its timestamp are fit for packets. -/
theorem read_encode_ne_within :
    let stamp : Stamp := .utc ⟨1709294400, 1500000000, by decide⟩
    let m : Message := { timestamp := some stamp }
    m.FitsHeader ∧ (0 ≤ stamp.year ∧ stamp.year ≤ 9999) ∧ stamp.offset % 60 = 0 ∧ stamp.instant.nanos % 1000 = 0 ∧
      m.message = none ∧ stamp.write .packet = "2024-03-01T12:00:01.500000Z" ∧ read m.encode ≠ .ok m := by
  intro stamp m
  have hheader : m.FitsHeader := ⟨by decide, by decide, by decide, nofun, nofun, nofun, nofun, nofun⟩
  refine ⟨hheader, by decide +kernel, by decide, by decide, rfl, by decide +kernel, fun hread => ?_⟩
  have hfits := fits_of_read_encode hread ⟨rfl, rfl⟩
  have hwithin : ¬ stamp.instant.OnMinute := by decide
  exact hwithin (hfits.timestamp stamp rfl).leap

end Message

end Logbook.Syslog
