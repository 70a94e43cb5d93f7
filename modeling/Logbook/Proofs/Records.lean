import Logbook.Page
import Logbook.Proofs.Conveying
import Logbook.Proofs.LooseStamp
import Logbook.Settings.Diagnostics
import Logbook.Settings.Store

/-!
# Requests, descriptions and settings are read back

A record conveys its fields.  They are found by their names, whatever order they are read in, and each is read as it was
written.

## Main definitions

* `LogDescription.Dated` — the descriptions whose last instant has a text that is read.
* `LogDescription.told` — the description that the text of a description tells.

## Main results

* `PageRequest.conveys`, `StoreSettings.conveys`, `DiagnosticsSettings.conveys` — requests and settings.
* `LogDescription.conveys`, `LogDescription.told_eq_iff` — a description whose last instant is missing or in a year of
  four digits.
* `Json.records_read_back` — **requests, descriptions and settings are read back from their texts.**
-/

namespace Logbook

/-! ### Settings -/

theorem Retention.conveys (r : Retention) : Json.Conveys r.toJson Retention.ofJson? r where
  spelt := ⟨(Json.conveys_word r.maxEvents).spelt, trivial⟩
  read := by
    show (Json.word? (.ofNat r.maxEvents.toNat) >>= fun maxEvents => some { maxEvents }) = some r
    rw [(Json.conveys_word r.maxEvents).read]
    rfl

theorem StoreSettings.conveys (s : StoreSettings) : Json.Conveys s.toJson StoreSettings.ofJson? s where
  spelt := ⟨trivial, trivial, s.retention.conveys.spelt, trivial⟩
  read := by
    show (Retention.ofJson? s.retention.toJson >>= fun retention =>
      some { path := s.path, syncOnWrite := s.syncOnWrite, retention }) = some s
    rw [s.retention.conveys.read]
    rfl

theorem Rotation.conveys (r : Rotation) : Json.Conveys r.toJson Rotation.ofJson? r where
  spelt := trivial
  read := by cases r <;> rfl

theorem FileOutput.conveys (f : FileOutput) : Json.Conveys f.toJson FileOutput.ofJson? f := by
  have hmax := Json.conveys_option (o := f.maxFiles) rfl fun n _ => Json.conveys_word n
  refine ⟨⟨trivial, trivial, trivial, hmax.spelt, trivial⟩, ?_⟩
  show (Rotation.ofJson? f.rotation.toJson >>= fun rotation =>
    Json.nullable? Json.word? (.ofOption (fun n => .ofNat n.toNat) f.maxFiles) >>= fun maxFiles =>
      some { folder := f.folder, stem := f.stem, rotation, maxFiles }) = some f
  rw [f.rotation.conveys.read, hmax.read]
  rfl

theorem ConsoleOutput.conveys (c : ConsoleOutput) : Json.Conveys c.toJson ConsoleOutput.ofJson? c :=
  ⟨⟨trivial, trivial, trivial, trivial⟩, rfl⟩

theorem LineContent.conveys (l : LineContent) : Json.Conveys l.toJson LineContent.ofJson? l :=
  ⟨⟨trivial, trivial, trivial, trivial, trivial, trivial⟩, rfl⟩

theorem DiagnosticsSettings.conveys (s : DiagnosticsSettings) :
    Json.Conveys s.toJson DiagnosticsSettings.ofJson? s := by
  have hfile := Json.conveys_option (o := s.file) rfl fun file _ => file.conveys
  have htargets := Json.conveys_map Json.conveys_string s.targets
  refine ⟨⟨trivial, s.console.conveys.spelt, hfile.spelt, s.lines.conveys.spelt, htargets.spelt, trivial⟩, ?_⟩
  show (ConsoleOutput.ofJson? s.console.toJson >>= fun console =>
    Json.nullable? FileOutput.ofJson? (.ofOption FileOutput.toJson s.file) >>= fun file =>
      LineContent.ofJson? s.lines.toJson >>= fun lines =>
        Json.map? Json.text? (.ofFields (s.targets.entries.map fun e => (e.1, .string e.2))) >>= fun targets =>
          some { level := s.level, console, file, lines, targets }) = some s
  rw [s.console.conveys.read, hfile.read, s.lines.conveys.read, htargets.read]
  rfl

/-! ### Requests and descriptions -/

theorem PageRequest.conveys (r : PageRequest) : Json.Conveys r.toJson PageRequest.ofJson? r := by
  have hlogs := Json.conveys_array Json.conveys_string r.logs
  have hcursor := Json.conveys_option (o := r.cursor) rfl fun text _ => Json.conveys_string text
  have hlimit := Json.conveys_option (o := r.limit) rfl fun n _ => Json.conveys_word n
  have hfilter := Json.conveys_option (o := r.filter) rfl fun text _ => Json.conveys_string text
  refine ⟨⟨hlogs.spelt, hcursor.spelt, hlimit.spelt, hfilter.spelt, trivial⟩, ?_⟩
  show (Json.list? Json.text? (.array (r.logs.map .string)) >>= fun logs =>
    Json.nullable? Json.text? (.ofOption .string r.cursor) >>= fun cursor =>
      Json.nullable? Json.word? (.ofOption (fun n => .ofNat n.toNat) r.limit) >>= fun limit =>
        Json.nullable? Json.text? (.ofOption .string r.filter) >>= fun filter =>
          some { logs, cursor, limit, filter }) = some r
  rw [hlogs.read, hcursor.read, hlimit.read, hfilter.read]
  rfl

/-- The last instant of a description is missing or in a year with four digits. -/
def LogDescription.Dated (d : LogDescription) : Prop :=
  ∀ t ∈ d.lastEventAt, 0 ≤ (Stamp.utc t).year ∧ (Stamp.utc t).year ≤ 9999

instance (d : LogDescription) : Decidable d.Dated := by unfold LogDescription.Dated; infer_instance

/-- The description that the text of a description tells. -/
def LogDescription.told (d : LogDescription) : LogDescription :=
  { d with lastEventAt := d.lastEventAt.map Instant.told }

/-- Which descriptions are told as they are. -/
theorem LogDescription.told_eq_iff {d : LogDescription} : d.told = d ↔ ∀ t ∈ d.lastEventAt, t.OnMinute := by
  obtain ⟨name, source, lastEventAt⟩ := d
  rw [told, mk.injEq, and_iff_right rfl, and_iff_right rfl]
  cases lastEventAt with
  | none => exact iff_of_true rfl nofun
  | some t =>
    rw [Option.map_some, Option.some.injEq, Instant.told_eq_iff]
    exact ⟨fun h t' ht' => Option.some.inj ht' ▸ h, fun h => h t rfl⟩

/-- The text of an instant of a year with four digits conveys what it tells. -/
theorem Instant.conveys {t : Instant} (h : 0 ≤ (Stamp.utc t).year ∧ (Stamp.utc t).year ≤ 9999) :
    Json.Conveys (.string t.document) LogDescription.instant? t.told where
  spelt := trivial
  read := by
    rw [LogDescription.instant?, (Json.conveys_string t.document).read, Option.bind_eq_bind, Option.bind_some,
      Stamp.readLoosely_document h.1 h.2]
    rfl

theorem LogDescription.conveys {d : LogDescription} (h : d.Dated) :
    Json.Conveys d.toJson LogDescription.ofJson? d.told := by
  have hsource := Json.conveys_option (o := d.source) rfl fun text _ => Json.conveys_string text
  have hlast := Json.conveys_option_map (o := d.lastEventAt) rfl fun t ht => Instant.conveys (h t ht)
  refine ⟨⟨trivial, hsource.spelt, hlast.spelt, trivial⟩, ?_⟩
  show (Json.nullable? Json.text? (.ofOption .string d.source) >>= fun source =>
    Json.nullable? instant? (.ofOption (fun t => .string t.document) d.lastEventAt) >>= fun lastEventAt =>
      some { name := d.name, source, lastEventAt }) = some d.told
  rw [hsource.read, hlast.read]
  rfl

/-- **Requests, descriptions and settings are read back from their texts on one line**, whatever their strings hold and
whichever of their fields are missing.  Only a last event in a leap second within a minute is told as the second after
it. -/
theorem Json.records_read_back :
    (∀ r : PageRequest, (Json.readText r.toJson.compact >>= PageRequest.ofJson?) = some r) ∧
    (∀ d : LogDescription, d.Dated →
      (Json.readText d.toJson.compact >>= LogDescription.ofJson?) = some d.told ∧
        ((Json.readText d.toJson.compact >>= LogDescription.ofJson?) = some d ↔ ∀ t ∈ d.lastEventAt, t.OnMinute)) ∧
    (∀ s : StoreSettings, (Json.readText s.toJson.compact >>= StoreSettings.ofJson?) = some s) ∧
    (∀ r : Retention, (Json.readText r.toJson.compact >>= Retention.ofJson?) = some r) ∧
    (∀ f : FileOutput, (Json.readText f.toJson.compact >>= FileOutput.ofJson?) = some f) ∧
    ∀ s : DiagnosticsSettings, (Json.readText s.toJson.compact >>= DiagnosticsSettings.ofJson?) = some s := by
  refine ⟨fun r => r.conveys.readText, fun d h => ?_, fun s => s.conveys.readText, fun r => r.conveys.readText,
    fun f => f.conveys.readText, fun s => s.conveys.readText⟩
  have hread := (LogDescription.conveys h).readText
  exact ⟨hread, by rw [hread, Option.some.injEq, LogDescription.told_eq_iff]⟩

/-- The last instant of a description is in the middle of a leap second at the end of a minute. -/
theorem Json.records_read_back_leap_second :
    let t : Instant := ⟨1483228799, 1500000000, by decide⟩
    let d : LogDescription := { name := "a", source := none, lastEventAt := some t }
    t.document = "2016-12-31T23:59:60.500Z" ∧ d.Dated ∧
      (Json.readText d.toJson.compact >>= LogDescription.ofJson?) = some d := by
  intro t d
  have hdated : d.Dated := by decide +kernel
  have hminute : ∀ t' ∈ d.lastEventAt, t'.OnMinute := by decide
  exact ⟨by decide +kernel, hdated, (Json.records_read_back.2.1 d hdated).2.2 hminute⟩

/-- The text of a leap second within a minute is that of the second after it, so it is not read back. -/
theorem Json.description_not_read_back :
    let t : Instant := ⟨1709294400, 1500000000, by decide⟩
    let d : LogDescription := { name := "a", source := none, lastEventAt := some t }
    t.document = "2024-03-01T12:00:01.500Z" ∧ d.Dated ∧
      (Json.readText d.toJson.compact >>= LogDescription.ofJson?) ≠ some d := by
  intro t d
  have hdated : d.Dated := by decide +kernel
  have hwithin : ¬ t.OnMinute := by decide
  refine ⟨by decide +kernel, hdated, fun hread => hwithin ?_⟩
  rw [(LogDescription.conveys hdated).readText, Option.some.injEq, LogDescription.told_eq_iff] at hread
  exact hread t rfl

end Logbook
