import Logbook.Proofs.Disk
import Logbook.Proofs.Sibling

/-!
# Files that can be written

A path can lead to a file before all of its folders stand.  As long as nothing else stands in their places, they can be
made, and then the file can be written or another one be moved over it.  Wherever that is cut off, nothing has changed but
the folders on the way and the one file.

## Main definitions

* `Disk.FilePath` — paths at which there can be a file.
* `Disk.Unobstructed` — disks on which nothing but folders stands on the way.

## Main results

* `Disk.locate_of_unobstructed` — a path that nothing obstructs leads to its goal, or a folder is missing.
* `Disk.makeFolders_parent`, `Disk.exists_write`, `Disk.exists_moveFile` — **the folders can be made where nothing
  obstructs the path, and the file can be written and moved.**
* `Disk.CutOff.append_cases`, `Disk.CutOff.writes`, `Disk.CutOff.rename_cases` — what is left where that is cut off.
-/

namespace Logbook.Disk

variable {d d' : Disk} {path : String} {op : Op} {ops more : List Op}

/-! ### Two lists of operations -/

/-- Where a list of operations is made of two parts, the first is cut off, or it is done and the second is cut off. -/
theorem CutOff.append_cases (h : CutOff (ops ++ more) d d') :
    CutOff ops d d' ∨ ∃ made, d.performAll none ops = (.ok (), made) ∧ CutOff more made d' := by
  induction ops generalizing d with
  | nil => exact Or.inr ⟨d, rfl, h⟩
  | cons op ops ih =>
    cases h with
    | within h => exact Or.inl (.within h)
    | beyond hop hrest =>
      rcases ih hrest with hrest | ⟨made, hmade, hmore⟩
      · exact Or.inl (.beyond hop hrest)
      · refine Or.inr ⟨made, ?_, hmore⟩
        rw [performAll_cons_later (by simp), hop]
        exact hmade

/-! ### Paths of files -/

/-- A path at which there can be a file, on a disk where nothing obstructs it. -/
structure FilePath (path : String) : Prop where
  /-- The path can be given to a disk. -/
  usable : fault path = none
  /-- It ends in the name of a file. -/
  named : ∃ folder name, Path.IsPlain name ∧ path = Path.join folder name
  /-- None of its parts is too long. -/
  short : ∀ part ∈ Path.parts path, part.utf8ByteSize ≤ longestName
  /-- It does not pass the place that it leads to. -/
  apart : Path.goal path ∉ (Path.way path).dropLast

/-- Each folder on the way of a path stands, or nothing does in its place. -/
def Unobstructed (d : Disk) (path : String) : Prop :=
  ∀ l ∈ (Path.way path).dropLast, d.node? l = none ∨ d.node? l = some .folder

instance (d : Disk) (path : String) : Decidable (d.Unobstructed path) :=
  inferInstanceAs (Decidable (∀ l ∈ (Path.way path).dropLast, d.node? l = none ∨ d.node? l = some .folder))

theorem FilePath.asksForFolder (h : FilePath path) : Path.asksForFolder path = false := by
  obtain ⟨folder, name, hname, rfl⟩ := h.named
  exact Path.asksForFolder_join hname.isPart folder

theorem FilePath.ne_empty (h : FilePath path) : path ≠ "" := by
  rintro rfl
  exact absurd h.asksForFolder (by decide)

/-- Where the folders stand, the path can be followed. -/
theorem FilePath.locate (h : FilePath path) (hway : ∀ l ∈ (Path.way path).dropLast, d.node? l = some .folder) :
    d.locate path = .ok (Path.goal path) :=
  locate_eq_ok_iff.2 ⟨h.usable, h.ne_empty, h.short, hway, rfl⟩

theorem follow_of_unobstructed {folder parts : List String}
    (hshort : ∀ part ∈ parts, part.utf8ByteSize ≤ longestName)
    (hway : ∀ l ∈ (Path.wayFrom folder parts).dropLast, d.node? l = none ∨ d.node? l = some .folder) :
    (∃ location, d.follow folder parts = .ok location) ∨ d.follow folder parts = .error .notFound := by
  induction parts generalizing folder with
  | nil => exact Or.inl ⟨folder, rfl⟩
  | cons part rest ih =>
    obtain ⟨hpart, hrest⟩ := List.forall_mem_cons.1 hshort
    have hnext : next folder part = .ok (Path.turn folder part) := next_eq_ok_iff.2 ⟨hpart, rfl⟩
    cases rest with
    | nil => exact Or.inl ⟨_, hnext⟩
    | cons part' rest =>
      rw [Path.wayFrom, List.dropLast_cons_of_ne_nil (by simp [Path.wayFrom])] at hway
      obtain ⟨hfolder, hway⟩ := List.forall_mem_cons.1 hway
      rw [follow, enter, hnext]
      rcases hfolder with hnone | hfolder
      · simp only [bind, Except.bind, hnone]
        exact Or.inr rfl
      · simp only [bind, Except.bind, hfolder]
        exact ih hrest hway
      · intro hnil
        cases hnil

/-- **A path that nothing obstructs leads to its goal, or a folder is missing.** -/
theorem locate_of_unobstructed (h : FilePath path) (hway : d.Unobstructed path) :
    d.locate path = .ok (Path.goal path) ∨ d.locate path = .error .notFound := by
  have hfollow := follow_of_unobstructed h.short hway
  have heq : d.locate path = d.follow (Path.start path) (Path.parts path) := by
    rw [Disk.locate, h.usable]
    exact if_neg h.ne_empty
  rw [← heq] at hfollow
  rcases hfollow with ⟨location, hlocate⟩ | hmissing
  · exact Or.inl (locate_eq_goal hlocate ▸ hlocate)
  · exact Or.inr hmissing

/-- Where nothing stands at the goal, nothing is found. -/
theorem content_of_none (h : FilePath path) (hway : d.Unobstructed path) (hnone : d.node? (Path.goal path) = none) :
    d.content path = .error .notFound := by
  rcases locate_of_unobstructed h hway with hlocate | hmissing
  · rw [content_eq hlocate h.asksForFolder, hnone]
  · rw [content, look, hmissing]
    rfl

/-- What is read stays what it is while no folder goes and nothing changes at the goal. -/
theorem content_of_same {content : Bytes} (hkeeps : KeepsFolders d d')
    (hsame : d'.node? (Path.goal path) = d.node? (Path.goal path)) (h : d.content path = .ok content) :
    d'.content path = .ok content := by
  rw [Disk.content, look] at h ⊢
  cases hlocate : d.locate path with
  | error error =>
    rw [hlocate] at h
    cases h
  | ok location =>
    obtain rfl := locate_eq_goal hlocate
    rw [locate_of_keepsFolders hkeeps hlocate]
    rw [hlocate] at h
    simp only [bind, Except.bind, hsame] at h ⊢
    exact h

/-! ### Making the folders -/

theorem makeFoldersFrom_of_unobstructed {folder parts : List String}
    (hshort : ∀ part ∈ parts, part.utf8ByteSize ≤ longestName)
    (hway : ∀ l ∈ Path.wayFrom folder parts, d.node? l = none ∨ d.node? l = some .folder) :
    (d.makeFoldersFrom folder parts).1 = .ok () := by
  induction parts generalizing d folder with
  | nil => rfl
  | cons part rest ih =>
    obtain ⟨hpart, hrest⟩ := List.forall_mem_cons.1 hshort
    obtain ⟨hfolder, hway⟩ := List.forall_mem_cons.1 hway
    have hnext : next folder part = .ok (Path.turn folder part) := next_eq_ok_iff.2 ⟨hpart, rfl⟩
    rw [makeFoldersFrom, enter, hnext]
    rcases hfolder with hnone | hfolder
    · simp only [bind, Except.bind, hnone]
      refine mapError_eq_ok_iff.2 (ih hrest fun l hl => ?_)
      -- the folder that is made obstructs nothing further on
      rw [node?_put]
      split
      · exact Or.inr rfl
      · split
        · exact Or.inr rfl
        · exact hway l hl
    · simp only [bind, Except.bind, hfolder]
      exact ih hrest hway

/-- The path of the folder that a usable path lies in is usable. -/
theorem fault_parent (h : fault path = none) : fault (Path.parent path) = none := by
  obtain ⟨rest, hrest⟩ := Path.parent_isPrefix path
  have hpath : path = Path.parent path ++ String.ofList rest := by
    rw [← String.toList_inj, String.toList_append, String.toList_ofList, hrest]
  have hsize : (Path.parent path).utf8ByteSize ≤ path.utf8ByteSize := by
    rw [congrArg String.utf8ByteSize hpath, String.utf8ByteSize_append]
    exact Nat.le_add_right _ _
  rw [fault] at h ⊢
  split at h
  · cases h
  · rename_i hnul
    split at h
    · cases h
    · rename_i hlong
      rw [← hrest, List.mem_append, not_or] at hnul
      rw [if_neg hnul.1, if_neg (fun hlt => hlong (Nat.lt_of_lt_of_le hlt hsize))]

/-- **The folders can be made where nothing obstructs the path**, and then it can be followed. -/
theorem makeFolders_parent (h : FilePath path) (hway : d.Unobstructed path) :
    ∃ made, d.makeFolders (Path.parent path) = (.ok (), made) := by
  have hfault := fault_parent h.usable
  obtain ⟨folder, name, hname, rfl⟩ := h.named
  have hshort : ∀ part ∈ Path.parts folder, part.utf8ByteSize ≤ longestName := fun part hpart => by
    refine h.short part ?_
    rw [Path.parts_join hname.isPart]
    exact List.mem_append_left _ hpart
  have hfolders : ∀ l ∈ Path.way folder, d.node? l = none ∨ d.node? l = some .folder := by
    rwa [Unobstructed, Path.way_join hname, List.dropLast_concat] at hway
  cases hdot : Path.endsInDot (Path.parent (Path.join folder name)) with
  | false =>
    have hmade := makeFoldersFrom_of_unobstructed hshort hfolders
    rw [makeFolders, hfault, wayTo, hdot, Path.parts_parent_join hname.isPart, Path.start_parent_join hname.isPart]
    rcases hresult : d.makeFoldersFrom (Path.start folder) (Path.parts folder) with ⟨result, made⟩
    rw [hresult] at hmade
    obtain rfl : result = .ok () := hmade
    exact ⟨made, by simp [hresult]⟩
  | true =>
    -- the dot is the folder where paths start, which always stands
    rw [Path.eq_dot_of_endsInDot_parent hname.isPart hdot]
    exact ⟨d, rfl⟩

/-- Where the folders have been made, the path can be followed. -/
theorem folders_of_makeFolders_parent {made : Disk} (h : FilePath path)
    (hmade : d.makeFolders (Path.parent path) = (.ok (), made)) :
    ∀ l ∈ (Path.way path).dropLast, made.node? l = some .folder := by
  obtain ⟨folder, name, hname, rfl⟩ := h.named
  have hfolders := (folders_of_makeFolders hmade).2
  rw [Path.way_parent_join hname.isPart] at hfolders
  rw [Path.way_join hname, List.dropLast_concat]
  exact hfolders

/-! ### Writing and moving -/

/-- What one file is written by, wherever it is cut off, changes nothing else. -/
theorem CutOff.writes {content : Bytes} (h : CutOff [.create path, .append path content, .sync path] d d') :
    Writes (Path.goal path) d d' := by
  refine h.keeps (P := Writes (Path.goal path) d) (fun op hop d' h => ?_) (Writes.refl _ d)
  simp only [List.mem_cons, List.not_mem_nil, or_false] at hop
  rcases hop with rfl | rfl | rfl
  · exact ⟨h.trans (writes_putFile d' _ []), fun _ => h⟩
  · exact ⟨h.trans (writes_append d' _ _), fun done => h.trans (writes_append d' _ _)⟩
  · exact ⟨h, fun _ => h⟩

/-- A file has been moved, or nothing has been done. -/
theorem CutOff.rename_cases {source target : String} (h : CutOff [.rename source target] d d') :
    d' = d ∨ d.moveFile source target = .ok d' := by
  cases h with
  | within h =>
    rcases h with rfl | rfl | ⟨done, rfl⟩
    · exact Or.inl rfl
    · rw [perform_rename]
      cases d.moveFile source target with
      | error error => exact Or.inl rfl
      | ok moved => exact Or.inr rfl
    · exact Or.inl rfl
  | beyond hop hrest =>
    cases hrest
    exact Or.inr (attempt_eq_ok hop)

/-- A file is put where the path can be followed and nothing else than a file stands. -/
theorem putFile_eq_ok (hlocate : d.locate path = .ok (Path.goal path)) (hasks : Path.asksForFolder path = false)
    (hnode : d.node? (Path.goal path) = none ∨ ∃ old, d.node? (Path.goal path) = some (.file old)) (content : Bytes) :
    d.putFile path content = .ok (d.put (Path.goal path) (.file content)) := by
  rw [putFile, hlocate]
  rcases hnode with hnone | ⟨old, hfile⟩
  · simp [bind, Except.bind, hasks, hnone, pure, Except.pure]
  · simp [bind, Except.bind, hasks, hfile, pure, Except.pure]

theorem performAll_none_cons {made : Disk} {rest : List Op} (h : d.perform op = (.ok (), made)) :
    d.performAll none (op :: rest) = made.performAll none rest := by
  rw [performAll_cons_later (by simp), h]
  rfl

theorem performAll_none_append {made : Disk} (h : d.performAll none ops = (.ok (), made)) :
    d.performAll none (ops ++ more) = made.performAll none more := by
  induction ops generalizing d with
  | nil =>
    obtain ⟨-, rfl⟩ := Prod.mk.inj h
    rfl
  | cons op ops ih =>
    obtain ⟨next, hop, hrest⟩ := perform_of_performAll h
    rw [List.cons_append, performAll_none_cons hop]
    exact ih hrest

/-- A file is written where the path can be followed and nothing else than a file stands. -/
theorem exists_write (hlocate : d.locate path = .ok (Path.goal path)) (hasks : Path.asksForFolder path = false)
    (hnode : d.node? (Path.goal path) = none ∨ ∃ old, d.node? (Path.goal path) = some (.file old)) (content : Bytes) :
    ∃ made, d.performAll none [.create path, .append path content, .sync path] = (.ok (), made) := by
  have hcreate := putFile_eq_ok hlocate hasks hnode []
  have hno : d.node? (Path.goal path) ≠ some .folder ∧ d.node? (Path.goal path) ≠ some .device := by
    rcases hnode with hnone | ⟨old, hfile⟩ <;> simp [*]
  obtain ⟨hempty, hfile⟩ := content_of_putFile hcreate hno.2
  have hlocate' := locate_of_keepsFolders (keepsFolders_put hno.1 (.file [])) hlocate
  have happend := putFile_eq_ok hlocate' hasks (Or.inr ⟨_, hfile⟩) content
  obtain ⟨hcontent, -⟩ := content_of_putFile happend (by rw [hfile]; exact nofun)
  have hfirst : d.perform (.create path) = (.ok (), d.put (Path.goal path) (.file [])) := by
    rw [perform_create, hcreate]
    rfl
  have hsecond : (d.put (Path.goal path) (.file [])).perform (.append path content) =
      (.ok (), (d.put (Path.goal path) (.file [])).put (Path.goal path) (.file content)) := by
    rw [perform_append, hempty]
    exact congrArg _ happend
  rw [performAll_none_cons hfirst, performAll_none_cons hsecond]
  exact ⟨_, performAll_none_cons (by rw [perform, hcontent]; rfl)⟩

theorem locate_of_content {content : Bytes} (h : d.content path = .ok content) : d.locate path = .ok (Path.goal path) := by
  rw [Disk.content, look] at h
  cases hlocate : d.locate path with
  | error error =>
    rw [hlocate] at h
    cases h
  | ok location => rw [locate_eq_goal hlocate]

/-- A file is moved where the other path can be followed as well and leads to no folder. -/
theorem exists_moveFile {source target : String} {content : Bytes} (hsource : d.content source = .ok content)
    (hnew : d.locate target = .ok (Path.goal target)) (hno : d.node? (Path.goal target) ≠ some .folder)
    (hasks : Path.asksForFolder target = false) : ∃ moved, d.moveFile source target = .ok moved := by
  rw [moveFile, hsource, locate_of_content hsource, hnew]
  simp only [bind, Except.bind, if_neg hno, hasks]
  exact ⟨_, rfl⟩

end Logbook.Disk
