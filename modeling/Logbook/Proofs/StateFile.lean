import Logbook.Proofs.Disk
import Logbook.Proofs.Roster
import Logbook.Proofs.Sibling
import Logbook.Settings.Collector

/-!
# What saving leaves of the state file

Saving prepares a draft beside the state file and then moves it over the file.  Until the last step nothing
touches what stands at the file's own place, so a save that fails leaves the old roster, and one that succeeds
leaves the new one.

## Main definitions

* `StateFile.Holds` — the roster that stands where a path leads.
* `StateFile.Spares` — what saving leaves alone besides.

## Main results

* `StateFile.load_of_holds` — the roster that stands there is loaded.
* `StateFile.save_cases` — **saving leaves the new roster where it succeeds, and the old one where it fails.**
-/

namespace Logbook

open Disk

theorem isPlain_stateFile : Path.IsPlain "logd.json" where
  slash := by decide
  part := by decide

theorem isPlain_draft : Path.IsPlain "logd.json.tmp" where
  slash := by decide
  part := by decide

namespace StateFile

variable {s : CollectorSettings} {d d' : Disk} {r : Roster}

/-! ### The state file and its draft -/

/-- The draft lies beside the state file. -/
theorem draft_statePath (s : CollectorSettings) : draft s.statePath = Path.join s.home "logd.json.tmp" := by
  rw [draft, CollectorSettings.statePath, Path.withExtension_join isPlain_stateFile (by decide) (by decide)]
  rfl

theorem goal_statePath (s : CollectorSettings) : Path.goal s.statePath = Path.goal s.home ++ ["logd.json"] :=
  Path.goal_join isPlain_stateFile _

theorem goal_draft (s : CollectorSettings) :
    Path.goal (draft s.statePath) = Path.goal s.home ++ ["logd.json.tmp"] := by
  rw [draft_statePath]
  exact Path.goal_join isPlain_draft _

theorem goal_draft_ne (s : CollectorSettings) : Path.goal (draft s.statePath) ≠ Path.goal s.statePath := by
  rw [goal_draft, goal_statePath]
  intro heq
  exact absurd (List.append_cancel_left heq) (by decide)

theorem way_statePath (s : CollectorSettings) : (Path.way s.statePath).dropLast = Path.way s.home := by
  rw [CollectorSettings.statePath, Path.way_join isPlain_stateFile, List.dropLast_concat]

/-- The path of the folder that the state file lies in passes no more than the path of the home folder. -/
theorem way_parent_statePath (s : CollectorSettings) : Path.way (Path.parent s.statePath) ⊆ Path.way s.home :=
  way_statePath s ▸ Path.way_parent_subset s.statePath

theorem asksForFolder_statePath (s : CollectorSettings) : Path.asksForFolder s.statePath = false :=
  Path.asksForFolder_join isPlain_stateFile.isPart _

/-- Where the state file can be found, its home folder has been made. -/
theorem folders_of_locate (h : d.locate s.statePath = .ok (Path.goal s.statePath)) :
    ∀ l ∈ Path.way s.home, d.node? l = some .folder := by
  obtain ⟨-, -, -, hway, -⟩ := locate_eq_ok_iff.1 h
  rw [way_statePath] at hway
  exact hway

/-- Where the home folder has been made, the state file can be found unless its path is unusable. -/
theorem locate_of_makeFolders (h : d.makeFolders s.home = (.ok (), d')) (hfault : fault s.statePath = none) :
    d'.locate s.statePath = .ok (Path.goal s.statePath) := by
  obtain ⟨hshort, hway⟩ := folders_of_makeFolders h
  have hparts := Path.parts_join isPlain_stateFile.isPart s.home
  refine locate_eq_ok_iff.2 ⟨hfault, ?_, ?_, ?_, rfl⟩
  · intro hempty
    rw [← CollectorSettings.statePath, hempty] at hparts
    exact absurd hparts.symm (by simp [Path.parts, Path.pieces])
  · rw [CollectorSettings.statePath, hparts]
    intro part hpart
    rcases List.mem_append.1 hpart with hpart | hpart
    · exact hshort part hpart
    · rw [List.mem_singleton.1 hpart]
      decide
  · rw [way_statePath]
    exact hway

/-- A state file that is loaded, if only as the empty roster where nothing stands, can be found. -/
theorem locate_of_load (hmade : d.makeFolders s.home = (.ok (), d')) (hload : load s.statePath d' = .ok r) :
    d'.locate s.statePath = .ok (Path.goal s.statePath) := by
  refine locate_of_makeFolders hmade ?_
  cases hfault : fault s.statePath with
  | none => rfl
  | some error =>
    have hlocate : d'.locate s.statePath = .error error := by rw [locate, hfault]
    have hcontent : d'.content s.statePath = .error error := by
      rw [content, look, hlocate]
      rfl
    rw [load, hcontent] at hload
    -- a path that is unusable is not only missing
    rw [fault] at hfault
    split at hfault
    · cases hfault
      cases hload
    · split at hfault
      · cases hfault
        cases hload
      · cases hfault

/-- What is read from the state file depends on no more than what stands in its place. -/
theorem content_of_node?_eq (hlocate : d.locate s.statePath = .ok (Path.goal s.statePath)) (hkeeps : KeepsFolders d d')
    (hsame : d'.node? (Path.goal s.statePath) = d.node? (Path.goal s.statePath)) :
    d'.content s.statePath = d.content s.statePath := by
  rw [content_eq (locate_of_keepsFolders hkeeps hlocate) (asksForFolder_statePath s),
    content_eq hlocate (asksForFolder_statePath s), hsame]

/-! ### What stands there -/

/-- The roster that stands where a path leads: its document, or nothing at all for the empty one. -/
def Holds (path : String) (r : Roster) (d : Disk) : Prop :=
  d.node? (Path.goal path) = some (.file (document r)) ∨ d.node? (Path.goal path) = none ∧ r = .empty

/-- The roster that stands there is loaded. -/
theorem load_of_holds (hlocate : d.locate s.statePath = .ok (Path.goal s.statePath)) (h : Holds s.statePath r d) :
    load s.statePath d = .ok r := by
  have hcontent := content_eq hlocate (asksForFolder_statePath s)
  rcases h with hfile | ⟨hnone, rfl⟩
  · rw [hfile] at hcontent
    rw [load, hcontent]
    simp only [read_document]
  · rw [hnone] at hcontent
    rw [load, hcontent]

/-! ### Saving -/

/-- What saving leaves alone besides the state file: no folder goes, and no device takes the place of the draft. -/
structure Spares (s : CollectorSettings) (d d' : Disk) : Prop where
  /-- No folder goes. -/
  folders : KeepsFolders d d'
  /-- The draft is no device. -/
  draft : d'.node? (Path.goal (draft s.statePath)) ≠ some .device

/-- What has been touched while only the draft was prepared. -/
structure Prepares (s : CollectorSettings) (d d' : Disk) : Prop extends Spares s d d' where
  /-- What stands at the place of the state file has stayed. -/
  file : d'.node? (Path.goal s.statePath) = d.node? (Path.goal s.statePath)

theorem prepares_of_writes (hdevice : d.node? (Path.goal (draft s.statePath)) ≠ some .device)
    (h : Writes (Path.goal (StateFile.draft s.statePath)) d d') : Prepares s d d' where
  folders := h.keepsFolders
  draft := by
    rcases h (Path.goal (StateFile.draft s.statePath)) with heq | ⟨-, -, content, hfile⟩
    · rw [heq]
      exact hdevice
    · rw [hfile]
      exact nofun
  file := h.node?_eq (goal_draft_ne s).symm

/-- The operations of saving but for the last. -/
def draftOps (path : String) (r : Roster) : List Op :=
  [.makeFolders (Path.parent path), .create (draft path), .append (draft path) (document r), .sync (draft path)]

theorem saveOps_eq (path : String) (r : Roster) : saveOps path r = draftOps path r ++ [.rename (draft path) path] := rfl

/-- A save that succeeds has prepared the draft and moved it, and one that fails has done no more than prepare it. -/
theorem exists_save (path : String) (r : Roster) (trouble : Option Trouble) (d : Disk) :
    ∃ result d', save path r trouble d = (result, d') ∧
      match result with
      | .ok () => ∃ made, d.performAll trouble (draftOps path r) = (.ok (), made) ∧
          made.moveFile (draft path) path = .ok d'
      | .error _ => CutOff (draftOps path r) d d' := by
  have hcut := cutOff_performAll d trouble (draftOps path r)
  rw [save, saveOps_eq]
  rcases performAll_append d trouble (draftOps path r) [.rename (draft path) path] with
    ⟨error, made, hdraft, hall⟩ | ⟨left, made, hdraft, hall⟩
  · rw [hdraft] at hcut
    rw [hall]
    exact ⟨_, _, rfl, hcut⟩
  · rw [hdraft] at hcut
    rw [hall]
    rcases performAll_cons_cases made left (.rename (draft path) path) [] with
      ⟨done, reason, heq⟩ | ⟨moved, hmove, heq⟩ | ⟨error, moved, hmove, heq⟩
    · rw [heq]
      exact ⟨_, _, rfl, hcut⟩
    · rw [perform_rename] at hmove
      rw [heq]
      exact ⟨_, _, rfl, made, hdraft, attempt_eq_ok hmove⟩
    · rw [perform_rename] at hmove
      obtain rfl := eq_of_attempt_eq_error hmove
      rw [heq]
      exact ⟨_, _, rfl, hcut⟩

/-- Preparing the draft touches nothing else, wherever it ends. -/
theorem writes_of_cutOff (hlocate : d.locate s.statePath = .ok (Path.goal s.statePath))
    (hcut : CutOff (draftOps s.statePath r) d d') : Writes (Path.goal (draft s.statePath)) d d' := by
  have hway := way_parent_statePath s
  -- all on the way to the home folder is there already
  have hgains : ∀ d' d'', Writes (Path.goal (draft s.statePath)) d d' → Gains (Path.way s.home) d' d'' →
      Writes (Path.goal (draft s.statePath)) d d'' := fun d' d'' h hgains l => by
    rw [hgains.node?_eq fun hmem => ?_]
    · exact h l
    · rw [h.keepsFolders l (folders_of_locate hlocate l hmem)]
      exact nofun
  refine hcut.keeps (P := Writes (Path.goal (draft s.statePath)) d) (fun op hop d' h => ?_) (Writes.refl _ d)
  simp only [draftOps, List.mem_cons, List.not_mem_nil, or_false] at hop
  rcases hop with rfl | rfl | rfl | rfl
  · refine ⟨hgains _ _ h ?_, fun done => hgains _ _ h ?_⟩
    · exact (gains_makeFolders d' _).mono hway
    · exact (gains_makeFolders_partly d' done _).mono hway
  · exact ⟨h.trans (writes_putFile d' _ []), fun _ => h⟩
  · exact ⟨h.trans (writes_append d' _ _), fun done => h.trans (writes_append d' _ _)⟩
  · exact ⟨h, fun _ => h⟩

/-- A draft is prepared by making folders, putting an empty file there, and putting there what it holds then with the
document behind it. -/
theorem exists_draft {path : String} {trouble : Option Trouble}
    (h : d.performAll trouble (draftOps path r) = (.ok (), d')) :
    ∃ made created before, Gains (Path.way (Path.parent path)) d made ∧ made.putFile (draft path) [] = .ok created ∧
      created.content (draft path) = .ok before ∧ created.putFile (draft path) (before ++ document r) = .ok d' := by
  obtain ⟨made, hfolders, h⟩ := perform_of_performAll h
  obtain ⟨created, hcreate, h⟩ := perform_of_performAll h
  obtain ⟨written, happend, h⟩ := perform_of_performAll h
  obtain ⟨synced, hsync, h⟩ := perform_of_performAll h
  rw [performAll] at h
  obtain ⟨-, rfl⟩ := Prod.mk.inj h
  obtain ⟨-, rfl⟩ := Prod.mk.inj hsync
  have hgains := gains_makeFolders d (Path.parent path)
  rw [perform] at hfolders
  rw [hfolders] at hgains
  rw [perform_create] at hcreate
  rw [perform_append] at happend
  have happended := attempt_eq_ok happend
  cases hbefore : created.content (draft path) with
  | error error =>
    rw [hbefore] at happended
    cases happended
  | ok before =>
    rw [hbefore] at happended
    exact ⟨made, created, before, hgains, attempt_eq_ok hcreate, hbefore, happended⟩

/-- A draft that has been prepared holds the document. -/
theorem content_of_draftOps {path : String} (hdevice : d.node? (Path.goal (draft path)) ≠ some .device)
    {trouble : Option Trouble} (h : d.performAll trouble (draftOps path r) = (.ok (), d')) :
    d'.content (draft path) = .ok (document r) ∧
      d'.node? (Path.goal (draft path)) = some (.file (document r)) := by
  obtain ⟨made, created, before, hgains, hcreate, hbefore, happend⟩ := exists_draft h
  have hmade : made.node? (Path.goal (draft path)) ≠ some .device := by
    rcases hgains (Path.goal (draft path)) with heq | ⟨-, -, hfolder⟩
    · rw [heq]
      exact hdevice
    · rw [hfolder]
      exact nofun
  obtain ⟨hempty, hfile⟩ := content_of_putFile hcreate hmade
  obtain rfl : before = [] := Except.ok.inj (hbefore.symm.trans hempty)
  rw [List.nil_append] at happend
  exact content_of_putFile happend (by rw [hfile]; exact nofun)

/-- Moving the draft over the state file leaves its content there. -/
theorem Prepares.move (h : Prepares s d d') (hno : d'.node? (Path.goal s.statePath) ≠ some .folder)
    (hdraft : d'.node? (Path.goal (StateFile.draft s.statePath)) ≠ some .folder) (content : Bytes) :
    let moved := (d'.put (Path.goal s.statePath) (.file content)).remove (Path.goal (StateFile.draft s.statePath))
    Spares s d moved ∧ moved.node? (Path.goal s.statePath) = some (.file content) := by
  have hne := goal_draft_ne s
  have hput : (d'.put (Path.goal s.statePath) (.file content)).node? (Path.goal (StateFile.draft s.statePath)) ≠
      some .folder := by
    rw [node?_put_of_ne hne]
    exact hdraft
  refine ⟨⟨?_, ?_⟩, ?_⟩
  · exact h.folders.trans ((keepsFolders_put hno _).trans (keepsFolders_remove hput))
  · rw [node?_remove_self hput]
    exact nofun
  · rw [node?_remove_of_ne hne.symm, node?_put_self hno]

/-- Saving makes no folder once the state file can be found, and removes none. -/
theorem sameFolders_save (hlocate : d.locate s.statePath = .ok (Path.goal s.statePath))
    {result : Except CollectorError Unit} {trouble : Option Trouble}
    (h : save s.statePath r trouble d = (result, d')) : SameFolders d d' := by
  obtain ⟨result, d', hsave, hresult⟩ := exists_save s.statePath r trouble d
  obtain ⟨rfl, rfl⟩ := Prod.mk.inj (h.symm.trans hsave)
  cases result with
  | ok =>
    obtain ⟨made, hdraft, hmove⟩ := hresult
    have hcut := cutOff_performAll d trouble (draftOps s.statePath r)
    rw [hdraft] at hcut
    exact (writes_of_cutOff hlocate hcut).sameFolders.trans (sameFolders_moveFile hmove)
  | error error => exact (writes_of_cutOff hlocate hresult).sameFolders

/-- A save that fails leaves what stands at the place of the state file. -/
theorem node?_of_save_error (hlocate : d.locate s.statePath = .ok (Path.goal s.statePath)) {error : CollectorError}
    {trouble : Option Trouble} (h : save s.statePath r trouble d = (.error error, d')) :
    d'.node? (Path.goal s.statePath) = d.node? (Path.goal s.statePath) := by
  obtain ⟨result, d', hsave, hresult⟩ := exists_save s.statePath r trouble d
  obtain ⟨rfl, rfl⟩ := Prod.mk.inj (h.symm.trans hsave)
  exact (writes_of_cutOff hlocate hresult).node?_eq (goal_draft_ne s).symm

/-- **Saving leaves the new roster where it succeeds, and what stood there where it fails.** -/
theorem save_cases (hlocate : d.locate s.statePath = .ok (Path.goal s.statePath))
    (hdevice : d.node? (Path.goal (draft s.statePath)) ≠ some .device) (r : Roster) (trouble : Option Trouble) :
    ∃ result d', save s.statePath r trouble d = (result, d') ∧ Spares s d d' ∧
      match result with
      | .ok () => d'.node? (Path.goal s.statePath) = some (.file (document r))
      | .error _ => d'.node? (Path.goal s.statePath) = d.node? (Path.goal s.statePath) := by
  obtain ⟨result, d', hsave, hresult⟩ := exists_save s.statePath r trouble d
  refine ⟨result, d', hsave, ?_⟩
  cases result with
  | ok =>
    obtain ⟨made, hdraft, hmove⟩ := hresult
    have hcut := cutOff_performAll d trouble (draftOps s.statePath r)
    rw [hdraft] at hcut
    obtain ⟨hcontent, hnode⟩ := content_of_draftOps hdevice hdraft
    obtain ⟨content, hsource, -, hno, rfl⟩ := moveFile_eq_ok hmove (goal_draft_ne s)
    rw [hcontent] at hsource
    obtain rfl := Except.ok.inj hsource
    have hprepares := prepares_of_writes hdevice (writes_of_cutOff hlocate hcut)
    exact hprepares.move hno (by rw [hnode]; exact nofun) (document r)
  | error error =>
    have hprepares := prepares_of_writes hdevice (writes_of_cutOff hlocate hresult)
    exact ⟨hprepares.toSpares, hprepares.file⟩

end StateFile

end Logbook
