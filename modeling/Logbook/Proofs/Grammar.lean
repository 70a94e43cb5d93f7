import Logbook.Proofs.Pieces
import Logbook.Proofs.Scanning
import Logbook.Proofs.StampGrammar
import Mathlib.Logic.ExistsUnique

/-!
# The grammar of packets

A packet is read just where it can be split into the parts that RFC 5424 names, each of them well-formed.  The split is
unique, and the message is what the parts tell.  What stands behind the structured data is not looked at, so it has no
say in how the header is read.

## Main definitions

* `Syslog.Parts` — the parts of a packet, `Syslog.Parts.packet` — the packet with given parts.
* `Syslog.Parts.WellFormed` — the grammar.
* `Syslog.Parts.Tells` — whether a message is the one that the parts tell.

## Main results

* `Syslog.Parts.read_packet`, `Syslog.exists_of_read` — well-formed parts are read, and nothing else is.
* `Syslog.Parts.eq_of_packet_eq` — packets are split in one way only.
* `Syslog.read_blank_iff` — a text behind a header changes nothing about the header.
* `Syslog.reads_grammar` — **the packets that are read, and what is read from them.**
-/

namespace Logbook.Syslog

/-! ### The grammar -/

/-- Whether bytes are a field of the header: a dash, or some visible ASCII characters and not too many. -/
def IsField (max : Nat) (part : Bytes) : Prop :=
  part = [nil] ∨ 1 ≤ part.length ∧ part.length ≤ max ∧ ∀ b ∈ part, 33 ≤ b.toNat ∧ b.toNat ≤ 126

/-- Whether bytes are structured data: a dash, or elements that are a text. -/
def IsData (part : Bytes) : Prop :=
  part = [nil] ∨ Elements part ∧ ∃ text, Utf8.encode text = part

/-- What bytes stand for: nothing if they are a dash, and otherwise the text that they encode. -/
inductive Spells : Bytes → Option String → Prop
  /-- A dash. -/
  | dash : Spells [nil] none
  /-- A text. -/
  | text {text : String} : Utf8.encode text ≠ [nil] → Spells (Utf8.encode text) (some text)

/-- The timestamp that bytes stand for: none if they are a dash, and otherwise the one that the pieces of their text
show. -/
inductive Times : Bytes → Option Stamp → Prop
  /-- A dash. -/
  | dash : Times [nil] none
  /-- A timestamp. -/
  | stamp {p : Stamp.Pieces} {s : Stamp} : p.WellFormed → p.Shows s →
      Times (Utf8.encode (String.ofList p.text)) (some s)

/-- The parts of a packet. -/
structure Parts where
  /-- The digits of the priority. -/
  priority : Bytes
  /-- The digits of the version. -/
  version : Bytes
  /-- When the message was made. -/
  timestamp : Bytes
  /-- The host that made it. -/
  hostname : Bytes
  /-- The program that made it. -/
  appName : Bytes
  /-- The process that made it. -/
  procId : Bytes
  /-- The kind of the message. -/
  msgId : Bytes
  /-- The structured data. -/
  data : Bytes
  /-- The text, which may be missing. -/
  message : Option Bytes

namespace Parts

/-- What stands before the text. -/
def header (p : Parts) : Bytes :=
  opening :: (p.priority ++ closing :: (p.version ++ blank :: (p.timestamp ++ blank :: (p.hostname ++ blank ::
    (p.appName ++ blank :: (p.procId ++ blank :: (p.msgId ++ blank :: p.data)))))))

/-- The packet with the parts. -/
def packet (p : Parts) : Bytes := p.header ++ ending p.message

/-- Whether the parts are those of a packet. -/
structure WellFormed (p : Parts) : Prop where
  /-- The priority is a number, at most 191. -/
  priority : IsNumber p.priority ∧ valueOf p.priority ≤ 191
  /-- The version is a number that does not start with a nought. -/
  version : IsNumber p.version ∧ p.version.head? ≠ some 0x30
  /-- The timestamp is a field, and it stands for one. -/
  timestamp : IsField 64 p.timestamp ∧ ∃ t, Times p.timestamp t
  /-- The host is a field. -/
  hostname : IsField 255 p.hostname
  /-- The program is a field. -/
  appName : IsField 48 p.appName
  /-- The process is a field. -/
  procId : IsField 128 p.procId
  /-- The kind of the message is a field. -/
  msgId : IsField 32 p.msgId
  /-- The structured data. -/
  data : IsData p.data

/-- Whether a message is the one that the parts tell. -/
structure Tells (p : Parts) (m : Message) : Prop where
  /-- The facility is the priority without its lowest three bits. -/
  facility : m.facility.toNat = valueOf p.priority / 8
  /-- The severity is the lowest three bits of the priority. -/
  severity : m.severity.toNat = valueOf p.priority % 8
  /-- The version. -/
  version : m.version.toNat = valueOf p.version
  /-- The timestamp. -/
  timestamp : Times p.timestamp m.timestamp
  /-- The host. -/
  hostname : Spells p.hostname m.hostname
  /-- The program. -/
  appName : Spells p.appName m.appName
  /-- The process. -/
  procId : Spells p.procId m.procId
  /-- The kind of the message. -/
  msgId : Spells p.msgId m.msgId
  /-- The structured data. -/
  structuredData : Spells p.data m.structuredData
  /-- The text, without a mark at its start. -/
  message : m.message = p.message.map withoutMark

end Parts

/-! ### Fields and their values -/

theorem Spells.eq {part : Bytes} {value : Option String} (h : Spells part value) : part = Message.field value := by
  cases h with
  | dash => rfl
  | text => rfl

/-- A field that stands for a value is that of the value, which fits. -/
theorem IsField.fits {max : Nat} {part : Bytes} {value : Option String} (h : IsField max part)
    (hvalue : Spells part value) : FitsField max value := by
  intro text htext
  obtain rfl := Option.mem_def.1 htext
  cases hvalue with
  | text hne =>
    obtain ⟨hlength, hmax, hvisible⟩ := h.resolve_left hne
    refine ⟨?_, ?_, hmax, hvisible⟩
    · rintro rfl
      exact Nat.not_succ_le_zero 0 hlength
    · rintro rfl
      exact hne encode_dash

/-- A field stands for a value. -/
theorem IsField.exists_spells {max : Nat} {part : Bytes} (h : IsField max part) : ∃ value, Spells part value := by
  by_cases hnil : part = [nil]
  · exact ⟨none, hnil ▸ .dash⟩
  · obtain ⟨-, -, hvisible⟩ := h.resolve_left hnil
    have hencode := Utf8.encode_ofList fun b hb => Nat.lt_of_le_of_lt (hvisible b hb).2 (by decide)
    rw [← hencode] at hnil ⊢
    exact ⟨_, .text hnil⟩

/-- The bytes of a value that fits are a field that stands for it. -/
theorem isField_of_fits {max : Nat} {value : Option String} (h : FitsField max value) :
    IsField max (Message.field value) ∧ Spells (Message.field value) value := by
  cases value with
  | none => exact ⟨Or.inl rfl, .dash⟩
  | some text =>
    obtain ⟨hempty, hdash, hlength, hvisible⟩ := h text rfl
    have hne : Utf8.encode text ≠ [nil] := fun heq => hdash (Utf8.encode_injective (heq.trans encode_dash.symm))
    have hpos : Utf8.encode text ≠ [] := fun heq => hempty (Utf8.encode_injective heq)
    exact ⟨Or.inr ⟨List.length_pos_iff.2 hpos, hlength, hvisible⟩, .text hne⟩

theorem blank_notMem_of_isField {max : Nat} {part : Bytes} (h : IsField max part) : blank ∉ part := by
  rcases h with rfl | ⟨-, -, hvisible⟩
  · decide
  · intro hmem
    have := (hvisible blank hmem).1
    exact absurd this (by decide)

/-! ### The timestamp -/

/-- Pieces of a timestamp are no dash. -/
theorem encode_text_ne_dash (p : Stamp.Pieces) : Utf8.encode (String.ofList p.text) ≠ [nil] := by
  intro heq
  have htext := congrArg String.toList (Utf8.encode_injective (heq.trans encode_dash.symm))
  have hlength := congrArg List.length htext
  rw [String.toList_ofList, Stamp.Pieces.text, List.length_append, Decimal.length_fixed] at hlength
  simp only [List.length_cons] at hlength
  exact absurd hlength (by
    show 4 + _ ≠ 1
    omega)

/-- A timestamp is read. -/
theorem Times.run {part : Bytes} {t : Option Stamp} (h : Times part t) (hfield : IsField 64 part) (rest : Bytes) :
    timestamp.run (part ++ blank :: rest) = .ok (t, blank :: rest) := by
  unfold timestamp
  cases h with
  | dash => rfl
  | @stamp p s hp hshows =>
    have hread := Stamp.read_eq_ok_iff.2 ⟨p, hp, rfl, hshows⟩
    have hfits := hfield.fits (.text (encode_text_ne_dash p))
    have hfieldRun := field_run hfits "TIMESTAMP" rest
    rw [Message.field] at hfieldRun
    rw [run_bind_ok hfieldRun]
    dsimp only
    rw [String.toList_ofList, hread]
    rfl

/-- Nothing else is read as a timestamp. -/
theorem of_timestamp_run {bytes rest : Bytes} {t : Option Stamp} (h : timestamp.run bytes = .ok (t, rest)) :
    ∃ part, IsField 64 part ∧ Times part t ∧ bytes = part ++ rest := by
  unfold timestamp at h
  obtain ⟨value, _, hfield, h⟩ := of_run_bind h
  have hpart := (isField_of_fits (fits_of_field hfield)).1
  cases value with
  | none =>
    cases h
    exact ⟨_, hpart, .dash, eq_of_field hfield⟩
  | some text =>
    dsimp only at h
    cases hread : Stamp.read text.toList with
    | error fault => rw [hread] at h; cases h
    | ok s =>
      rw [hread] at h
      cases h
      obtain ⟨p, hp, htext, hshows⟩ := Stamp.read_eq_ok_iff.1 hread
      have htimes := Times.stamp hp hshows
      rw [htext, String.ofList_toList] at htimes
      exact ⟨_, hpart, htimes, eq_of_field hfield⟩

/-! ### Structured data -/

/-- Structured data that stand for a text are elements. -/
theorem IsData.elements {part : Bytes} {value : Option String} (h : IsData part) (hvalue : Spells part value) :
    ∀ text ∈ value, Elements (Utf8.encode text) := by
  intro text htext
  obtain rfl := Option.mem_def.1 htext
  cases hvalue with
  | text hne => exact (h.resolve_left hne).1

theorem IsData.exists_spells {part : Bytes} (h : IsData part) : ∃ value, Spells part value := by
  by_cases hnil : part = [nil]
  · exact ⟨none, hnil ▸ .dash⟩
  · obtain ⟨-, text, rfl⟩ := h.resolve_left hnil
    exact ⟨_, .text hnil⟩

theorem elements_ne_dash {part : Bytes} (h : Elements part) : part ≠ [nil] := by
  obtain ⟨rest, rfl⟩ := h.exists_cons
  intro heq
  exact absurd (List.cons.inj heq).1 (by decide)

theorem isData_of_elements {value : Option String} (h : ∀ text ∈ value, Elements (Utf8.encode text)) :
    IsData (Message.field value) ∧ Spells (Message.field value) value := by
  cases value with
  | none => exact ⟨Or.inl rfl, .dash⟩
  | some text =>
    have helements := h text rfl
    exact ⟨Or.inr ⟨helements, text, rfl⟩, .text (elements_ne_dash helements)⟩

/-! ### Packets are read by the grammar -/

namespace Parts

theorem packet_eq (p : Parts) :
    p.packet = opening :: (p.priority ++ closing :: (p.version ++ blank :: (p.timestamp ++ blank :: (p.hostname ++
      blank :: (p.appName ++ blank :: (p.procId ++ blank :: (p.msgId ++ blank :: (p.data ++
        ending p.message)))))))) := by
  simp only [packet, header, List.cons_append, List.append_assoc]

/-- **Well-formed parts are read as what they tell.** -/
theorem read_packet {p : Parts} (h : p.WellFormed) {m : Message} (htells : p.Tells m) : read p.packet = .ok m := by
  rw [read]
  generalize p.packet.length = total
  have hbody : (body total).run (ending p.message) = .ok (p.message.map withoutMark, p.message.getD []) :=
    body_run total p.message
  have hrun : (Syslog.packet total).run p.packet = .ok (m, p.message.getD []) := by
    rw [packet_eq, htells.hostname.eq, htells.appName.eq, htells.procId.eq, htells.msgId.eq,
      htells.structuredData.eq]
    unfold Syslog.packet
    rw [run_bind_ok (start_run h.priority.1 h.priority.2 h.version.1 h.version.2 total _)]
    dsimp only
    rw [run_bind_ok (expect_run _ _ _ _), run_bind_ok (htells.timestamp.run h.timestamp.1 _),
      run_bind_ok (nextField_run (h.hostname.fits htells.hostname) _ _ _ _),
      run_bind_ok (nextField_run (h.appName.fits htells.appName) _ _ _ _),
      run_bind_ok (nextField_run (h.procId.fits htells.procId) _ _ _ _),
      run_bind_ok (nextField_run (h.msgId.fits htells.msgId) _ _ _ _), run_bind_ok (expect_run _ _ _ _),
      run_bind_ok (structuredData_run (h.data.elements htells.structuredData) (head?_ending _)),
      run_bind_ok hbody, ← htells.facility, ← htells.severity, ← htells.version, ← htells.message,
      UInt8.ofNat_toNat, UInt8.ofNat_toNat, UInt16.ofNat_toNat]
    rfl
  rw [hrun]

/-- Well-formed parts tell a message. -/
theorem WellFormed.exists_tells {p : Parts} (h : p.WellFormed) : ∃ m, p.Tells m := by
  obtain ⟨timestamp, htimestamp⟩ := h.timestamp.2
  obtain ⟨hostname, hhostname⟩ := h.hostname.exists_spells
  obtain ⟨appName, happName⟩ := h.appName.exists_spells
  obtain ⟨procId, hprocId⟩ := h.procId.exists_spells
  obtain ⟨msgId, hmsgId⟩ := h.msgId.exists_spells
  obtain ⟨structuredData, hdata⟩ := h.data.exists_spells
  have hpriority := h.priority.2
  have hversion := h.version.1.bounds.1
  refine ⟨{
    facility := UInt8.ofNat (valueOf p.priority / 8)
    severity := UInt8.ofNat (valueOf p.priority % 8)
    version := UInt16.ofNat (valueOf p.version)
    timestamp, hostname, appName, procId, msgId, structuredData
    message := p.message.map withoutMark },
    ?_, ?_, ?_, htimestamp, hhostname, happName, hprocId, hmsgId, hdata, rfl⟩
  · rw [UInt8.toNat_ofNat', Nat.mod_eq_of_lt (by omega)]
  · rw [UInt8.toNat_ofNat', Nat.mod_eq_of_lt (by omega)]
  · rw [UInt16.toNat_ofNat', Nat.mod_eq_of_lt (by omega)]

end Parts

/-- **Nothing else is read.** -/
theorem exists_of_read {bytes : Bytes} {m : Message} (h : read bytes = .ok m) :
    ∃ p : Parts, p.WellFormed ∧ p.packet = bytes ∧ p.Tells m := by
  rw [read] at h
  cases hrun : (packet bytes.length).run bytes with
  | error fault => rw [hrun] at h; cases h
  | ok r =>
    obtain ⟨m', rest⟩ := r
    rw [hrun] at h
    cases h
    generalize bytes.length = total at hrun
    unfold packet at hrun
    obtain ⟨⟨priority, version⟩, _, hstart, hrun⟩ := of_run_bind hrun
    obtain ⟨_, _, hblank, hrun⟩ := of_run_bind hrun
    obtain ⟨timestamp, _, htimestamp, hrun⟩ := of_run_bind hrun
    obtain ⟨hostname, _, hhostname, hrun⟩ := of_run_bind hrun
    obtain ⟨appName, _, happName, hrun⟩ := of_run_bind hrun
    obtain ⟨procId, _, hprocId, hrun⟩ := of_run_bind hrun
    obtain ⟨msgId, _, hmsgId, hrun⟩ := of_run_bind hrun
    obtain ⟨_, _, hblank', hrun⟩ := of_run_bind hrun
    obtain ⟨data, _, hdata, hrun⟩ := of_run_bind hrun
    obtain ⟨body, _, hbody, hrun⟩ := of_run_bind hrun
    cases hrun
    -- what each of the pieces was read from
    obtain ⟨ps, vs, hps, rfl, hle, hvs, rfl, hnought, hstarts⟩ := of_start_run hstart
    obtain ⟨part, hfield, htimes, htime⟩ := of_timestamp_run htimestamp
    obtain ⟨hhost, hhostname⟩ := of_nextField hhostname
    obtain ⟨happ, happName⟩ := of_nextField happName
    obtain ⟨hproc, hprocId⟩ := of_nextField hprocId
    obtain ⟨hmsg, hmsgId⟩ := of_nextField hmsgId
    obtain ⟨hdatas, hdata⟩ := of_structuredData_run hdata
    obtain ⟨message, rfl, hending⟩ := of_body_run hbody
    let p : Parts := {
      priority := ps, version := vs, timestamp := part, hostname := Message.field hostname
      appName := Message.field appName, procId := Message.field procId, msgId := Message.field msgId
      data := Message.field data, message }
    have hwell : p.WellFormed := ⟨⟨hps, hle⟩, ⟨hvs, hnought⟩, ⟨hfield, _, htimes⟩, (isField_of_fits hhostname).1,
      (isField_of_fits happName).1, (isField_of_fits hprocId).1, (isField_of_fits hmsgId).1,
      (isData_of_elements hdata).1⟩
    refine ⟨p, hwell, ?_, ?_⟩
    · rw [hstarts, of_expect_run hblank, htime, hhost, happ, hproc, hmsg, of_expect_run hblank', hdatas, hending]
      exact p.packet_eq
    · have hversion := hvs.bounds.1
      refine ⟨?_, ?_, ?_, htimes, (isField_of_fits hhostname).2, (isField_of_fits happName).2,
        (isField_of_fits hprocId).2, (isField_of_fits hmsgId).2, (isData_of_elements hdata).2, rfl⟩
      · exact (UInt8.toNat_ofNat' ..).trans (Nat.mod_eq_of_lt (by omega))
      · exact (UInt8.toNat_ofNat' ..).trans (Nat.mod_eq_of_lt (by omega))
      · exact (UInt16.toNat_ofNat' ..).trans (Nat.mod_eq_of_lt (by omega))

/-! ### The split is unique -/

/-- What stands before the first of a byte, and what stands behind it. -/
theorem split_unique {b : UInt8} : ∀ {l l' r r' : Bytes}, b ∉ l → b ∉ l' → l ++ b :: r = l' ++ b :: r' →
    l = l' ∧ r = r'
  | [], [], _, _, _, _, h => ⟨rfl, (List.cons.inj h).2⟩
  | [], c :: _, _, _, _, hl', h => absurd (List.cons.inj h).1 (List.ne_of_not_mem_cons hl')
  | c :: _, [], _, _, hl, _, h => absurd (List.cons.inj h).1.symm (List.ne_of_not_mem_cons hl)
  | c :: l, d :: l', r, r', hl, hl', h => by
    obtain ⟨hc, h⟩ := List.cons.inj h
    obtain ⟨hl, hr⟩ := split_unique (List.not_mem_of_not_mem_cons hl) (List.not_mem_of_not_mem_cons hl') h
    exact ⟨by rw [hc, hl], hr⟩

theorem IsNumber.notMem {digits : Bytes} (h : IsNumber digits) {b : UInt8} (hb : isDigit b = false) : b ∉ digits := by
  intro hmem
  rw [h.digits b hmem] at hb
  cases hb

theorem ending_injective {message message' : Option Bytes} (h : ending message = ending message') :
    message = message' := by
  cases message with
  | none =>
    cases message' with
    | none => rfl
    | some text => cases h
  | some text =>
    cases message' with
    | none => cases h
    | some text' => rw [(List.cons.inj h).2]

/-- Structured data end before what follows them. -/
theorem data_unique {d d' : Bytes} (hd : IsData d) (hd' : IsData d') {message message' : Option Bytes}
    (h : d ++ ending message = d' ++ ending message') : d = d' ∧ message = message' := by
  rcases hd with rfl | ⟨helements, -⟩
  · rcases hd' with rfl | ⟨helements', -⟩
    · exact ⟨rfl, ending_injective (List.append_cancel_left h)⟩
    · obtain ⟨rest, rfl⟩ := helements'.exists_cons
      exact absurd (List.cons.inj h).1 (by decide)
  · rcases hd' with rfl | ⟨helements', -⟩
    · obtain ⟨rest, rfl⟩ := helements.exists_cons
      exact absurd (List.cons.inj h).1 (by decide)
    · -- both are what is scanned
      have hscan := scanData_elements helements (head?_ending message)
      rw [h, scanData_elements helements' (head?_ending message')] at hscan
      obtain ⟨hdata, hending⟩ := Prod.mk.inj (Option.some.inj hscan)
      exact ⟨hdata.symm, ending_injective hending.symm⟩

/-- **Packets are split in one way only.** -/
theorem Parts.eq_of_packet_eq {p q : Parts} (hp : p.WellFormed) (hq : q.WellFormed) (h : p.packet = q.packet) :
    p = q := by
  rw [packet_eq, packet_eq] at h
  -- a number holds neither a bracket nor a blank, and a field no blank, so both splits come to the same end of each
  obtain ⟨hpriority, h⟩ := split_unique (hp.priority.1.notMem rfl) (hq.priority.1.notMem rfl) (List.cons.inj h).2
  obtain ⟨hversion, h⟩ := split_unique (hp.version.1.notMem rfl) (hq.version.1.notMem rfl) h
  obtain ⟨htimestamp, h⟩ := split_unique (blank_notMem_of_isField hp.timestamp.1)
    (blank_notMem_of_isField hq.timestamp.1) h
  obtain ⟨hhostname, h⟩ := split_unique (blank_notMem_of_isField hp.hostname) (blank_notMem_of_isField hq.hostname) h
  obtain ⟨happName, h⟩ := split_unique (blank_notMem_of_isField hp.appName) (blank_notMem_of_isField hq.appName) h
  obtain ⟨hprocId, h⟩ := split_unique (blank_notMem_of_isField hp.procId) (blank_notMem_of_isField hq.procId) h
  obtain ⟨hmsgId, h⟩ := split_unique (blank_notMem_of_isField hp.msgId) (blank_notMem_of_isField hq.msgId) h
  obtain ⟨hdata, hmessage⟩ := data_unique hp.data hq.data h
  cases p
  cases q
  simp only at hpriority hversion htimestamp hhostname happName hprocId hmsgId hdata hmessage
  simp only [hpriority, hversion, htimestamp, hhostname, happName, hprocId, hmsgId, hdata, hmessage]

/-! ### Texts behind headers -/

theorem length_withoutMark_le (text : Bytes) : (withoutMark text).length ≤ text.length := by
  rw [withoutMark]
  split
  · rw [List.length_drop]
    exact Nat.sub_le _ _
  · exact Nat.le_refl _

/-- A blank before a text is not lost with a mark. -/
theorem length_lt_withoutMark (before text : Bytes) :
    text.length < (withoutMark (before ++ blank :: text)).length := by
  rw [withoutMark]
  split
  case isFalse =>
    rw [List.length_append, List.length_cons]
    omega
  case isTrue hmark =>
    -- none of the three bytes of a mark is a blank, so at least three stand before it
    match before with
    | [] => cases hmark
    | [a] =>
      have htail := (Bool.and_eq_true_iff.1 hmark).2
      cases htail
    | [a, b] =>
      have htail := (Bool.and_eq_true_iff.1 (Bool.and_eq_true_iff.1 hmark).2).2
      cases htail
    | a :: b :: c :: before =>
      show text.length < (before ++ blank :: text).length
      rw [List.length_append, List.length_cons]
      omega

theorem withoutMark_ne (before text : Bytes) : withoutMark (before ++ blank :: text) ≠ withoutMark text := by
  intro h
  have hlt := length_lt_withoutMark before text
  have hle := length_withoutMark_le text
  rw [h] at hlt
  omega

/-- **A text behind a header changes nothing about the header.** -/
theorem read_blank_iff (bytes text : Bytes) (m : Message) :
    read (bytes ++ blank :: text) = .ok { m with message := some (withoutMark text) } ↔
      read bytes = .ok { m with message := none } := by
  constructor
  · intro h
    obtain ⟨p, hp, hpacket, htells⟩ := exists_of_read h
    obtain ⟨text', hmessage, htext⟩ := Option.map_eq_some_iff.1 htells.message.symm
    rw [Parts.packet, hmessage] at hpacket
    have hheader : p.header = bytes := by
      -- either blank may be the one that ends the header, but both leave the same text
      rcases List.append_eq_append_iff.1 hpacket with ⟨l, hbytes, htail⟩ | ⟨l, hbytes, htail⟩
      · cases l with
        | nil => rw [hbytes, List.append_nil]
        | cons b l =>
          rw [(List.cons.inj htail).2] at htext
          exact absurd htext (withoutMark_ne l text)
      · cases l with
        | nil => rw [hbytes, List.append_nil]
        | cons b l =>
          rw [(List.cons.inj htail).2] at htext
          exact absurd htext.symm (withoutMark_ne l text')
    let q : Parts := { p with message := none }
    have hq : q.packet = bytes := by
      rw [Parts.packet, ← hheader]
      exact List.append_nil _
    have hwell : q.WellFormed := { hp with }
    rw [← hq]
    exact Parts.read_packet hwell { htells with message := rfl }
  · intro h
    obtain ⟨p, hp, rfl, htells⟩ := exists_of_read h
    have hmessage : p.message = none := Option.map_eq_none_iff.1 htells.message.symm
    let q : Parts := { p with message := some text }
    have hq : q.packet = p.packet ++ blank :: text := by
      rw [Parts.packet, Parts.packet, hmessage]
      exact congrArg (· ++ blank :: text) (List.append_nil p.header).symm
    have hwell : q.WellFormed := { hp with }
    rw [← hq]
    exact Parts.read_packet hwell { htells with message := rfl }

/-- **The packets that are read, and what is read from them.**  They are those that the grammar splits into parts, in
one way; the message is what the parts tell.  A scan in place gives the same and slices nothing beyond the packet, and
no text behind a header changes the header. -/
theorem reads_grammar (bytes : Bytes) :
    ((∃ m, read bytes = .ok m) ↔ ∃! p : Parts, p.WellFormed ∧ p.packet = bytes) ∧
    (∀ m, read bytes = .ok m ↔ ∃ p : Parts, p.WellFormed ∧ p.packet = bytes ∧ p.Tells m) ∧
    ((∃ m, scan bytes = .ok m ∧ read bytes = .ok m) ∨
      ∃ fault, scan bytes = .error (.fault fault) ∧ read bytes = .error (.malformed fault.message)) ∧
    ∀ (m : Message) (text : Bytes), read (bytes ++ blank :: text) = .ok { m with message := some (withoutMark text) } ↔
      read bytes = .ok { m with message := none } := by
  have hread (m : Message) : read bytes = .ok m ↔ ∃ p : Parts, p.WellFormed ∧ p.packet = bytes ∧ p.Tells m := by
    refine ⟨exists_of_read, ?_⟩
    rintro ⟨p, hp, rfl, htells⟩
    exact Parts.read_packet hp htells
  refine ⟨⟨?_, ?_⟩, hread, scan_cases bytes, fun m text => read_blank_iff bytes text m⟩
  · rintro ⟨m, h⟩
    obtain ⟨p, hp, hpacket, -⟩ := exists_of_read h
    exact ⟨p, ⟨hp, hpacket⟩, fun q hq => Parts.eq_of_packet_eq hq.1 hp (hq.2.trans hpacket.symm)⟩
  · rintro ⟨p, ⟨hp, rfl⟩, -⟩
    obtain ⟨m, htells⟩ := hp.exists_tells
    exact ⟨m, Parts.read_packet hp htells⟩

end Logbook.Syslog
