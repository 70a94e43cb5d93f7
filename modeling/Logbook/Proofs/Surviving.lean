import Logbook.Proofs.Saving
import Logbook.Proofs.Writing

/-!
# Saves that are cut off

A save makes the folders that are missing, writes a draft beside the file and moves it over the file.  It can be cut off
at any point, also when a part of the draft has been written, or any of its operations can fail.  Until the draft is
moved, nothing changes at the place of the file but that the folders on the way to it may come to stand; so the file
holds the old roster or the new one, and the draft that is left does not hinder the next save.

That takes a path which leads to one and the same place before and after its folders have been made, and at which
there can be a file.  A path that runs into a file behind a folder that is missing leads nowhere before the folder has
been made, and to an error afterwards.

## Main definitions

* `StateFile.Stored`, `StateFile.Leftover` — a roster is stored at a path, and an earlier save may have left a draft.
* `StateFile.Attempts` — saves one after another, each of which is cut off somewhere.

## Main results

* `StateFile.Stored.cutOff` — **a save that is cut off leaves the old roster stored, or the new one.**
* `StateFile.Stored.save` — **whatever has been left, a roster can be saved.**
* `StateFile.Stored.attempts` — after any number of saves that were cut off, one of their rosters is stored.
* `StateFile.save_survives` — **what is loaded after a save that failed, succeeded or was cut off.**
-/

namespace Logbook.StateFile

open Disk

variable {path : String} {r old : Roster} {d d' : Disk}

/-! ### The draft -/

theorem goal_draft_ne_goal (h : FilePath path) : Path.goal (draft path) ≠ Path.goal path := by
  obtain ⟨folder, name, hname, rfl⟩ := h.named
  exact Path.goal_withExtension_ne hname (by decide) (by decide) folder

/-- The draft lies in the folder of the file, if there can be a draft at all. -/
theorem way_draft (h : FilePath path) (hdraft : FilePath (draft path)) :
    (Path.way (draft path)).dropLast = (Path.way path).dropLast := by
  obtain ⟨folder, name, hname, rfl⟩ := h.named
  rw [Path.way_join hname, List.dropLast_concat]
  by_cases hstem : Path.stem name = "."
  · -- a path that leads above the folder ends in no name
    obtain ⟨folder', name', hname', heq⟩ := hdraft.named
    rw [draft, Path.withExtension_join_dot hname hstem] at heq
    have hparts := congrArg Path.parts heq
    rw [Path.parts_join Path.isPart_dots, Path.parts_join hname'.isPart] at hparts
    exact absurd (List.singleton_inj.1 (List.append_inj' hparts rfl).2).symm hname'.part.2.2
  · rw [draft, Path.withExtension_join hname hstem (by decide),
      Path.way_join (Path.isPlain_renamed hname hstem (by decide)), List.dropLast_concat]

/-! ### Rosters that are stored -/

/-- A roster is stored at a path. -/
structure Stored (path : String) (r : Roster) (d : Disk) : Prop where
  /-- Nothing but folders stands on the way. -/
  way : d.Unobstructed path
  /-- The document of the roster is in the file, or nothing stands in its place and the roster is empty. -/
  file : d.content path = .ok (document r) ∨ d.node? (Path.goal path) = none ∧ r = .empty

/-- Where a draft is written nothing stands, or a file that holds whatever an earlier save has left. -/
def Leftover (path : String) (d : Disk) : Prop :=
  d.node? (Path.goal (draft path)) = none ∨ ∃ content, d.node? (Path.goal (draft path)) = some (.file content)

/-- **A roster that is stored is loaded.** -/
theorem Stored.load (hpath : FilePath path) (h : Stored path r d) : load path d = .ok r := by
  rcases h.file with hcontent | ⟨hnone, rfl⟩
  · exact load_of_content hcontent
  · rw [StateFile.load, content_of_none hpath h.way hnone]

theorem Stored.not_folder (h : Stored path r d) : d.node? (Path.goal path) ≠ some .folder := by
  rcases h.file with hcontent | ⟨hnone, -⟩
  · exact node?_ne_folder_of_content hcontent
  · rw [hnone]
    exact nofun

theorem Leftover.not_device (h : Leftover path d) : d.node? (Path.goal (draft path)) ≠ some .device := by
  rcases h with hnone | ⟨content, hfile⟩
  · rw [hnone]
    exact nofun
  · rw [hfile]
    exact nofun

/-- A roster stays stored while no folder goes, and on the way and in the place of the file nothing but folders comes. -/
theorem Stored.of_same (h : Stored path r d) (hway : d'.Unobstructed path) (hkeeps : KeepsFolders d d')
    (hsame : d'.node? (Path.goal path) = d.node? (Path.goal path)) : Stored path r d' where
  way := hway
  file := h.file.imp (content_of_same hkeeps hsame) fun ⟨hnone, hempty⟩ => ⟨hsame.trans hnone, hempty⟩

/-! ### Preparing the draft -/

/-- While the draft is prepared, folders are made on the way; once they all stand, nothing changes but the draft. -/
theorem changes_of_cutOff (h : CutOff (draftOps path r) d d') :
    Gains (Path.way path).dropLast d d' ∨
      ∃ made, d.makeFolders (Path.parent path) = (.ok (), made) ∧ Gains (Path.way path).dropLast d made ∧
        Writes (Path.goal (draft path)) made d' := by
  have hway := Path.way_parent_subset path
  have hgains := (gains_makeFolders d (Path.parent path)).mono hway
  cases h with
  | within h =>
    rcases h with rfl | rfl | ⟨done, rfl⟩
    · exact Or.inl (Gains.refl _ _)
    · exact Or.inl hgains
    · exact Or.inl ((gains_makeFolders_partly d done _).mono hway)
  | beyond hop hrest =>
    change d.makeFolders (Path.parent path) = _ at hop
    rw [hop] at hgains
    exact Or.inr ⟨_, hop, hgains, hrest.writes⟩

/-- Folders that are made on the way leave a roster stored. -/
theorem Stored.gains (hpath : FilePath path) (h : Stored path old d) (hgains : Gains (Path.way path).dropLast d d') :
    Stored path old d' := by
  refine h.of_same (fun l hl => ?_) hgains.keepsFolders (hgains.node?_eq fun hmem => absurd hmem hpath.apart)
  rcases hgains l with heq | ⟨-, -, hfolder⟩
  · rw [heq]
    exact h.way l hl
  · exact Or.inr hfolder

/-- **Where only the draft was prepared, the old roster is stored.** -/
theorem Stored.prepared (hpath : FilePath path) (h : Stored path old d) (hcut : CutOff (draftOps path r) d d') :
    Stored path old d' := by
  rcases changes_of_cutOff hcut with hgains | ⟨made, hmade, hgains, hwrites⟩
  · exact h.gains hpath hgains
  · have hfolders := folders_of_makeFolders_parent hpath hmade
    refine (h.gains hpath hgains).of_same (fun l hl => Or.inr ?_) hwrites.keepsFolders
      (hwrites.node?_eq (goal_draft_ne_goal hpath).symm)
    exact hwrites.keepsFolders l (hfolders l hl)

/-- Folders that are made on the way are not in the place of the draft. -/
theorem Leftover.gains (hpath : FilePath path) (hdraft : FilePath (draft path)) (h : Leftover path d)
    (hgains : Gains (Path.way path).dropLast d d') : Leftover path d' := by
  have hapart := hdraft.apart
  rw [way_draft hpath hdraft] at hapart
  rw [Leftover, hgains.node?_eq fun hmem => absurd hmem hapart]
  exact h

/-- What is left of the draft is a file. -/
theorem Leftover.prepared (hpath : FilePath path) (hdraft : FilePath (draft path)) (h : Leftover path d)
    (hcut : CutOff (draftOps path r) d d') : Leftover path d' := by
  rcases changes_of_cutOff hcut with hgains | ⟨made, -, hgains, hwrites⟩
  · exact h.gains hpath hdraft hgains
  · rcases hwrites (Path.goal (draft path)) with heq | ⟨-, -, hfile⟩
    · rw [Leftover, heq]
      exact h.gains hpath hdraft hgains
    · exact Or.inr hfile

/-! ### Moving the draft -/

/-- **Once the draft has been moved, its roster is stored**, and no draft is left. -/
theorem stored_of_move (hpath : FilePath path) (hcontent : d.content (draft path) = .ok (document r))
    (hmove : d.moveFile (draft path) path = .ok d') : Stored path r d' ∧ Leftover path d' := by
  have hne := goal_draft_ne_goal hpath
  have hsource := node?_ne_folder_of_content hcontent
  have hmoved := (content_of_moveFile hmove).trans hcontent
  obtain ⟨content, -, hlocate, hno, rfl⟩ := moveFile_eq_ok hmove hne
  obtain ⟨-, -, -, hway, -⟩ := locate_eq_ok_iff.1 hlocate
  have hput : (d.put (Path.goal path) (.file content)).node? (Path.goal (draft path)) ≠ some .folder := by
    rw [node?_put_of_ne hne]
    exact hsource
  have hkeeps := (keepsFolders_put hno (.file content)).trans (keepsFolders_remove hput)
  exact ⟨⟨fun l hl => Or.inr (hkeeps l (hway l hl)), Or.inl hmoved⟩, Or.inl (node?_remove_self hput)⟩

/-- Saving is cut off before the draft is moved, or the draft has been prepared and moved. -/
theorem cutOff_saveOps_cases (h : CutOff (saveOps path r) d d') :
    CutOff (draftOps path r) d d' ∨
      ∃ made, d.performAll none (draftOps path r) = (.ok (), made) ∧ made.moveFile (draft path) path = .ok d' := by
  rw [saveOps_eq] at h
  rcases h.append_cases with hcut | ⟨made, hmade, hcut⟩
  · exact Or.inl hcut
  · rcases hcut.rename_cases with rfl | hmove
    · have hprepared := cutOff_performAll d none (draftOps path r)
      rw [hmade] at hprepared
      exact Or.inl hprepared
    · exact Or.inr ⟨made, hmade, hmove⟩

/-- **A save that is cut off leaves the old roster stored, or the new one.** -/
theorem Stored.cutOff (hpath : FilePath path) (h : Stored path old d) (hleft : Leftover path d)
    (hcut : CutOff (saveOps path r) d d') : Stored path old d' ∨ Stored path r d' := by
  rcases cutOff_saveOps_cases hcut with hcut | ⟨made, hmade, hmove⟩
  · exact Or.inl (h.prepared hpath hcut)
  · exact Or.inr (stored_of_move hpath (content_of_draftOps hleft.not_device hmade).1 hmove).1

theorem Leftover.cutOff (hpath : FilePath path) (hdraft : FilePath (draft path)) (h : Leftover path d)
    (hcut : CutOff (saveOps path r) d d') : Leftover path d' := by
  rcases cutOff_saveOps_cases hcut with hcut | ⟨made, hmade, hmove⟩
  · exact h.prepared hpath hdraft hcut
  · exact (stored_of_move hpath (content_of_draftOps h.not_device hmade).1 hmove).2

/-! ### Saves that fail or succeed -/

/-- **A save that fails leaves the old roster stored, and one that succeeds the new one.** -/
theorem Stored.saved (hpath : FilePath path) (h : Stored path old d) (hleft : Leftover path d) (r : Roster)
    (trouble : Option Trouble) : ∃ result d', save path r trouble d = (result, d') ∧ CutOff (saveOps path r) d d' ∧
      match result with
      | .ok () => Stored path r d'
      | .error _ => Stored path old d' := by
  obtain ⟨result, d', hsave, hresult⟩ := exists_save path r trouble d
  have hcut := cutOff_performAll d trouble (saveOps path r)
  obtain rfl : (d.performAll trouble (saveOps path r)).2 = d' := congrArg Prod.snd hsave
  refine ⟨result, _, hsave, hcut, ?_⟩
  cases result with
  | ok =>
    obtain ⟨made, hdraft, hmove⟩ := hresult
    exact (stored_of_move hpath (content_of_draftOps hleft.not_device hdraft).1 hmove).1
  | error error => exact h.prepared hpath hresult

/-! ### The next save -/

/-- A draft can be prepared where a roster is stored, whatever has been left of an earlier one. -/
theorem Stored.prepare (hpath : FilePath path) (hdraft : FilePath (draft path)) (h : Stored path old d)
    (hleft : Leftover path d) (r : Roster) : ∃ made, d.performAll none (draftOps path r) = (.ok (), made) := by
  obtain ⟨folders, hfolders⟩ := makeFolders_parent hpath h.way
  have hgains := (gains_makeFolders d (Path.parent path)).mono (Path.way_parent_subset path)
  rw [hfolders] at hgains
  have hway := folders_of_makeFolders_parent hpath hfolders
  rw [← way_draft hpath hdraft] at hway
  obtain ⟨made, hmade⟩ := exists_write (hdraft.locate hway) hdraft.asksForFolder (hleft.gains hpath hdraft hgains)
    (document r)
  have hfirst : d.perform (.makeFolders (Path.parent path)) = (.ok (), folders) := hfolders
  exact ⟨made, (performAll_none_cons hfirst).trans hmade⟩

/-- **Whatever has been left, a roster can be saved.** -/
theorem Stored.save (hpath : FilePath path) (hdraft : FilePath (draft path)) (h : Stored path old d)
    (hleft : Leftover path d) (r : Roster) : ∃ d', save path r none d = (.ok (), d') ∧ Stored path r d' := by
  obtain ⟨made, hmade⟩ := h.prepare hpath hdraft hleft r
  have hcut := cutOff_performAll d none (draftOps path r)
  rw [hmade] at hcut
  have hcontent := (content_of_draftOps hleft.not_device hmade).1
  -- the draft has been written, so the folders stand
  obtain ⟨-, -, -, hway, -⟩ := locate_eq_ok_iff.1 (locate_of_content hcontent)
  rw [way_draft hpath hdraft] at hway
  obtain ⟨moved, hmove⟩ := exists_moveFile hcontent (hpath.locate hway) (h.prepared hpath hcut).not_folder
    hpath.asksForFolder
  have hall : d.performAll none (saveOps path r) = (.ok (), moved) := by
    rw [saveOps_eq, performAll_none_append hmade, performAll_none_cons (by rw [perform_rename, hmove]; rfl)]
    rfl
  exact ⟨moved, by rw [StateFile.save, hall]; rfl, (stored_of_move hpath hcontent hmove).1⟩

/-! ### Any number of saves -/

/-- Saves of rosters one after another, each of which is cut off somewhere. -/
inductive Attempts (path : String) : List Roster → Disk → Disk → Prop
  /-- There have been none. -/
  | none (d : Disk) : Attempts path [] d d
  /-- One has been cut off, and others have followed. -/
  | next {r : Roster} {rest : List Roster} {d made d' : Disk} (hcut : CutOff (saveOps path r) d made)
      (hrest : Attempts path rest made d') : Attempts path (r :: rest) d d'

/-- **After any number of saves that were cut off, the old roster is stored or one of the others.** -/
theorem Stored.attempts {rosters : List Roster} (hpath : FilePath path) (hdraft : FilePath (draft path))
    (h : Stored path old d) (hleft : Leftover path d) (hattempts : Attempts path rosters d d') :
    (∃ last ∈ old :: rosters, Stored path last d') ∧ Leftover path d' := by
  induction hattempts generalizing old with
  | none d => exact ⟨⟨old, List.mem_cons_self, h⟩, hleft⟩
  | next hcut _ ih =>
    have hleft' := hleft.cutOff hpath hdraft hcut
    rcases h.cutOff hpath hleft hcut with h' | h'
    · obtain ⟨⟨last, hlast, hstored⟩, hend⟩ := ih h' hleft'
      refine ⟨⟨last, ?_, hstored⟩, hend⟩
      rcases List.mem_cons.1 hlast with rfl | hlast
      · exact List.mem_cons_self
      · exact List.mem_cons_of_mem _ (List.mem_cons_of_mem _ hlast)
    · obtain ⟨⟨last, hlast, hstored⟩, hend⟩ := ih h' hleft'
      exact ⟨⟨last, List.mem_cons_of_mem _ hlast, hstored⟩, hend⟩

/-! ### What is loaded -/

/-- **What is loaded after a save that failed, succeeded or was cut off.**

The path names a file, and nothing but folders stands on the way to it.  A document is there or nothing is, and in the
place of the draft there may be a file that holds anything.  A save then succeeds and its roster is loaded, or it fails and
the old one is; and one or the other is loaded wherever the save is cut off.  If the path of the draft names a file as
well, another save is possible after that, and what it has saved is loaded. -/
theorem save_survives (hpath : FilePath path) (hstored : Stored path old d) (hleft : Leftover path d) (r : Roster) :
    load path d = .ok old ∧
    (∀ trouble, ∃ result d', save path r trouble d = (result, d') ∧ CutOff (saveOps path r) d d' ∧
      match result with
      | .ok () => load path d' = .ok r
      | .error _ => load path d' = .ok old) ∧
    ∀ d', CutOff (saveOps path r) d d' →
      (load path d' = .ok old ∨ load path d' = .ok r) ∧
      (FilePath (draft path) → ∀ r', ∃ d'', save path r' none d' = (.ok (), d'') ∧ load path d'' = .ok r') := by
  refine ⟨hstored.load hpath, fun trouble => ?_, fun d' hcut => ⟨?_, fun hdraft r' => ?_⟩⟩
  · obtain ⟨result, d', hsave, hcut, hresult⟩ := hstored.saved hpath hleft r trouble
    refine ⟨result, d', hsave, hcut, ?_⟩
    cases result with
    | ok => exact hresult.load hpath
    | error error => exact hresult.load hpath
  · exact (hstored.cutOff hpath hleft hcut).imp (Stored.load hpath) (Stored.load hpath)
  · have hleft' := hleft.cutOff hpath hdraft hcut
    rcases hstored.cutOff hpath hleft hcut with h | h
    · obtain ⟨d'', hsave, hstored'⟩ := h.save hpath hdraft hleft' r'
      exact ⟨d'', hsave, hstored'.load hpath⟩
    · obtain ⟨d'', hsave, hstored'⟩ := h.save hpath hdraft hleft' r'
      exact ⟨d'', hsave, hstored'.load hpath⟩

/-- A draft has been left by an earlier save, and the device fails when seven bytes of the next one have been written. -/
theorem save_survives_half_written :
    let path := "home/logd.json"
    let old : Roster := SortedMap.empty.insert "web" ⟨"x"⟩
    let r : Roster := old.insert "api" ⟨"y"⟩
    let d : Disk := ((Disk.blank.put ["home"] .folder).put ["home", "logd.json"] (.file (document old))).put
      ["home", "logd.json.tmp"] (.file [123, 10])
    let d' := (save path r (some ⟨2, 7, "No space left on device"⟩) d).2
    FilePath path ∧ FilePath (draft path) ∧ Stored path old d ∧ Leftover path d ∧
      d'.content (draft path) = .ok ((document r).take 7) ∧ load path d' = .ok old ∧
      ∃ d'', save path r none d' = (.ok (), d'') ∧ load path d'' = .ok r := by
  intro path old r d d'
  have hpath : FilePath path :=
    ⟨by decide +kernel, ⟨"home", "logd.json", isPlain_stateFile, by decide +kernel⟩, by decide +kernel,
      by decide +kernel⟩
  have hdraft : FilePath (draft path) :=
    ⟨by decide +kernel, ⟨"home", "logd.json.tmp", isPlain_draft, by decide +kernel⟩, by decide +kernel,
      by decide +kernel⟩
  have hstored : Stored path old d := ⟨by decide +kernel, Or.inl (by decide +kernel)⟩
  have hleft : Leftover path d := Or.inr ⟨[123, 10], by decide +kernel⟩
  obtain ⟨-, hfails, hcut⟩ := save_survives hpath hstored hleft r
  obtain ⟨result, left, hsave, hleftover, hresult⟩ := hfails (some ⟨2, 7, "No space left on device"⟩)
  have hcontent : d'.content (draft path) = .ok ((document r).take 7) := by decide +kernel
  have herror : (save path r (some ⟨2, 7, "No space left on device"⟩) d).1 =
      .error (.io "No space left on device") := by decide +kernel
  rw [hsave] at herror
  obtain rfl : result = _ := herror
  obtain rfl : d' = left := congrArg Prod.snd hsave
  exact ⟨hpath, hdraft, hstored, hleft, hcontent, hresult, (hcut _ hleftover).2 hdraft r⟩

/-- The path goes through a folder that is missing and back, and then through a file.  Before it is followed, nothing
is found; the save makes the folder and fails at the file, and from then on the file is found in the way.  Beside `..a`
the draft would be the folder above, so no save succeeds. -/
theorem not_save_survives_odd_paths :
    let path := "n/../f/x/y"
    let d : Disk := Disk.blank.put ["f"] (.file [])
    (load path d = .ok .empty ∧ (save path .empty none d).1 = .error (.io "File exists") ∧
      load path (save path .empty none d).2 = .error (.io "Not a directory")) ∧
    load "..a" Disk.blank = .ok .empty ∧
      ∀ r, save "..a" r none Disk.blank = (.error (.io "Is a directory"), Disk.blank) := by
  refine ⟨by decide +kernel, by decide +kernel, fun r => ?_⟩
  have hdraft : draft "..a" = ".." := by decide +kernel
  have hfolders : Disk.blank.perform (.makeFolders (Path.parent "..a")) = (.ok (), Disk.blank) := by decide +kernel
  have hcreate : Disk.blank.perform (.create "..") = (.error .occupied, Disk.blank) := by decide +kernel
  rw [save, saveOps, hdraft, performAll_none_cons hfolders, performAll_cons_later (by simp), hcreate]
  rfl

end Logbook.StateFile
