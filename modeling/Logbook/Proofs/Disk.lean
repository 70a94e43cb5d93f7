import Logbook.Disk
import Logbook.Proofs.Path

/-!
# What operations leave on a disk

An operation changes little.  Folders are made on the way of a path, where nothing stood, and a file is
written at the one location that its path leads to.  Folders stay what they are, so a path that can be followed once can
always be followed.

## Main definitions

* `Disk.Gains`, `Disk.Writes` — how a disk differs after folders were made, or after a file was written.
* `Disk.KeepsFolders`, `Disk.SameFolders` — no folder has gone, and none has come.
* `Disk.CutOff` — what may be left of several operations that are cut off.

## Main results

* `Disk.locate_eq_goal` — a path that can be followed leads to its goal.
* `Disk.locate_of_keepsFolders` — it can be followed as long as no folder goes.
* `Disk.gains_makeFolders`, `Disk.writes_putFile` — what operations change.
* `Disk.performAll_append` — several operations are done one part after the other.
* `Disk.CutOff.keeps` — what each operation keeps, also in part, is kept wherever they are cut off.
-/

namespace Logbook.Disk

variable {d d' : Disk} {location other : List String} {node : Node}

/-! ### Single nodes -/

theorem compare_spot_eq_iff (l m : List String) : compare (Spot.of l) (Spot.of m) = .eq ↔ l = m := by
  constructor
  · intro h
    exact congrArg Spot.names (Std.LawfulEqOrd.eq_of_compare h)
  · rintro rfl
    exact Std.ReflCmp.compare_self

theorem node?_put (d : Disk) (location : List String) (node : Node) (other : List String) :
    (d.put location node).node? other =
      if other = [] ∨ other = ["/"] then some .folder
      else if other = location then some node else d.node? other := by
  rw [node?, node?]
  split
  · rfl
  · rw [put, SortedMap.find?_insert]
    simp only [compare_spot_eq_iff, eq_comm (a := location)]

theorem node?_put_of_ne (h : other ≠ location) : (d.put location node).node? other = d.node? other := by
  rw [node?_put, if_neg h]
  split
  · rename_i hroot
    rw [node?, if_pos hroot]
  · rfl

theorem node?_put_self (h : d.node? location ≠ some .folder) : (d.put location node).node? location = some node := by
  have hroot : ¬ (location = [] ∨ location = ["/"]) := fun hroot => h (if_pos hroot)
  rw [node?_put, if_neg hroot, if_pos rfl]

theorem node?_remove_of_ne (h : other ≠ location) : (d.remove location).node? other = d.node? other := by
  rw [node?, node?]
  split
  · rfl
  · rw [remove, SortedMap.find?_erase, if_neg (mt (compare_spot_eq_iff _ _).1 (Ne.symm h))]

theorem node?_remove_self (h : d.node? location ≠ some .folder) : (d.remove location).node? location = none := by
  have hroot : ¬ (location = [] ∨ location = ["/"]) := fun hroot => h (if_pos hroot)
  rw [node?, if_neg hroot, remove, SortedMap.find?_erase, if_pos ((compare_spot_eq_iff _ _).2 rfl)]

/-! ### Kinds of changes -/

/-- Every folder of the first disk is one of the second. -/
def KeepsFolders (d d' : Disk) : Prop := ∀ location, d.node? location = some .folder → d'.node? location = some .folder

/-- The folders of the two disks are the same. -/
def SameFolders (d d' : Disk) : Prop :=
  ∀ location, d'.node? location = some .folder ↔ d.node? location = some .folder

/-- The second disk is the first with folders on a way where nothing stood. -/
def Gains (way : List (List String)) (d d' : Disk) : Prop :=
  ∀ location, d'.node? location = d.node? location ∨
    location ∈ way ∧ d.node? location = none ∧ d'.node? location = some .folder

/-- The second disk is the first with a file at one location, where no folder stood. -/
def Writes (place : List String) (d d' : Disk) : Prop :=
  ∀ location, d'.node? location = d.node? location ∨
    location = place ∧ d.node? location ≠ some .folder ∧ ∃ content, d'.node? location = some (.file content)

theorem KeepsFolders.refl (d : Disk) : KeepsFolders d d := fun _ h => h

theorem KeepsFolders.trans {d'' : Disk} (h : KeepsFolders d d') (h' : KeepsFolders d' d'') : KeepsFolders d d'' :=
  fun _ hfolder => h' _ (h _ hfolder)

theorem SameFolders.trans {d'' : Disk} (h : SameFolders d d') (h' : SameFolders d' d'') : SameFolders d d'' :=
  fun location => (h' location).trans (h location)

theorem SameFolders.keepsFolders (h : SameFolders d d') : KeepsFolders d d' := fun location => (h location).2

theorem Gains.refl (way : List (List String)) (d : Disk) : Gains way d d := fun _ => Or.inl rfl

theorem Gains.keepsFolders {way : List (List String)} (h : Gains way d d') : KeepsFolders d d' := by
  intro location hfolder
  rcases h location with heq | ⟨-, hnone, -⟩
  · rw [heq, hfolder]
  · rw [hfolder] at hnone
    cases hnone

theorem Gains.mono {way more : List (List String)} (h : Gains way d d') (hway : way ⊆ more) : Gains more d d' :=
  fun location => (h location).imp id fun ⟨hmem, hnodes⟩ => ⟨hway hmem, hnodes⟩

theorem Gains.trans {way more : List (List String)} {d'' : Disk} (h : Gains way d d') (h' : Gains more d' d'') :
    Gains (way ++ more) d d'' := by
  intro location
  rcases h location with heq | ⟨hmem, hnone, hfolder⟩
  · rcases h' location with heq' | ⟨hmem', hnone', hfolder'⟩
    · exact Or.inl (heq'.trans heq)
    · exact Or.inr ⟨List.mem_append_right _ hmem', heq ▸ hnone', hfolder'⟩
  · exact Or.inr ⟨List.mem_append_left _ hmem, hnone, h'.keepsFolders location hfolder⟩

/-- Whatever is no folder is neither made nor changed nor taken away. -/
theorem Gains.node?_eq_some_iff {way : List (List String)} (h : Gains way d d') (hnode : node ≠ .folder) :
    d'.node? location = some node ↔ d.node? location = some node := by
  rcases h location with heq | ⟨-, hnone, hfolder⟩
  · rw [heq]
  · rw [hnone, hfolder]
    exact iff_of_false (fun h => hnode (Option.some.inj h).symm) nofun

/-- Where something stands already, or off the way, nothing changes. -/
theorem Gains.node?_eq {way : List (List String)} (h : Gains way d d')
    (hold : location ∈ way → d.node? location ≠ none) : d'.node? location = d.node? location := by
  rcases h location with heq | ⟨hmem, hnone, -⟩
  · exact heq
  · exact absurd hnone (hold hmem)

theorem Writes.refl (place : List String) (d : Disk) : Writes place d d := fun _ => Or.inl rfl

theorem Writes.keepsFolders {place : List String} (h : Writes place d d') : KeepsFolders d d' := by
  intro location hfolder
  rcases h location with heq | ⟨-, hno, -⟩
  · rw [heq, hfolder]
  · exact absurd hfolder hno

theorem Writes.sameFolders {place : List String} (h : Writes place d d') : SameFolders d d' := by
  intro location
  rcases h location with heq | ⟨-, hno, content, hfile⟩
  · rw [heq]
  · rw [hfile]
    exact iff_of_false nofun hno

theorem Writes.trans {place : List String} {d'' : Disk} (h : Writes place d d') (h' : Writes place d' d'') :
    Writes place d d'' := by
  intro location
  rcases h' location with heq | ⟨rfl, hno, hfile⟩
  · rw [heq]
    exact h location
  · exact Or.inr ⟨rfl, fun hfolder => hno (h.keepsFolders _ hfolder), hfile⟩

theorem Writes.node?_eq {place : List String} (h : Writes place d d') (hne : location ≠ place) :
    d'.node? location = d.node? location :=
  (h location).resolve_right fun ⟨heq, _⟩ => hne heq

theorem keepsFolders_put (h : d.node? location ≠ some .folder) (node : Node) :
    KeepsFolders d (d.put location node) := by
  intro other hfolder
  rw [node?_put_of_ne, hfolder]
  rintro rfl
  exact h hfolder

theorem keepsFolders_remove (h : d.node? location ≠ some .folder) : KeepsFolders d (d.remove location) := by
  intro other hfolder
  rw [node?_remove_of_ne, hfolder]
  rintro rfl
  exact h hfolder

theorem sameFolders_put (h : d.node? location ≠ some .folder) (hnode : node ≠ .folder) :
    SameFolders d (d.put location node) := by
  intro other
  by_cases heq : other = location
  · subst heq
    rw [node?_put_self h, Option.some.injEq]
    exact iff_of_false hnode h
  · rw [node?_put_of_ne heq]

theorem sameFolders_remove (h : d.node? location ≠ some .folder) : SameFolders d (d.remove location) := by
  intro other
  by_cases heq : other = location
  · subst heq
    rw [node?_remove_self h]
    exact iff_of_false nofun h
  · rw [node?_remove_of_ne heq]

theorem writes_put (h : d.node? location ≠ some .folder) (content : Bytes) :
    Writes location d (d.put location (.file content)) := by
  intro other
  by_cases heq : other = location
  · subst heq
    exact Or.inr ⟨rfl, h, content, node?_put_self h⟩
  · exact Or.inl (node?_put_of_ne heq)

/-! ### Following a path -/

theorem enter_eq_ok_iff {folder : List String} {part : String} :
    d.enter folder part = .ok location ↔ next folder part = .ok location ∧ d.node? location = some .folder := by
  rw [enter]
  cases hnext : next folder part with
  | error error => exact ⟨fun h => (by cases h), fun h => (by cases h.1)⟩
  | ok l =>
    simp only [bind, Except.bind]
    constructor
    · intro h
      split at h
      · rename_i hfolder
        cases h
        exact ⟨rfl, hfolder⟩
      · cases h
      · cases h
    · rintro ⟨h, hfolder⟩
      cases h
      rw [hfolder]
      rfl

theorem next_eq_ok_iff {folder : List String} {part : String} :
    next folder part = .ok location ↔ part.utf8ByteSize ≤ longestName ∧ location = Path.turn folder part := by
  rw [next]
  split
  · rename_i hlong
    exact ⟨fun h => (by cases h), fun h => absurd h.1 (Nat.not_le.2 hlong)⟩
  · rename_i hshort
    exact ⟨fun h => ⟨Nat.not_lt.1 hshort, (Except.ok.inj h).symm⟩, fun h => by rw [h.2]⟩

/-- Parts can be followed where each of them is short enough and all but the last lead to folders. -/
theorem follow_eq_ok_iff {folder : List String} {parts : List String} :
    d.follow folder parts = .ok location ↔
      (∀ part ∈ parts, part.utf8ByteSize ≤ longestName) ∧
        (∀ l ∈ (Path.wayFrom folder parts).dropLast, d.node? l = some .folder) ∧
        location = parts.foldl Path.turn folder := by
  induction parts generalizing folder with
  | nil => simp [follow, Path.wayFrom, eq_comm]
  | cons part rest ih =>
    cases rest with
    | nil => simp [follow, Path.wayFrom, next_eq_ok_iff]
    | cons part' rest =>
      have hbind : d.follow folder (part :: part' :: rest) = .ok location ↔
          ∃ l, d.enter folder part = .ok l ∧ d.follow l (part' :: rest) = .ok location := by
        rw [follow]
        cases d.enter folder part with
        | error error =>
          constructor
          · intro h
            cases h
          · rintro ⟨_, h, -⟩
            cases h
        | ok l =>
          constructor
          · intro h
            exact ⟨l, rfl, h⟩
          · rintro ⟨_, h, hrest⟩
            cases h
            exact hrest
        · intro hnil
          cases hnil
      rw [hbind, Path.wayFrom, List.dropLast_cons_of_ne_nil (by simp [Path.wayFrom]), List.foldl_cons]
      simp only [enter_eq_ok_iff, next_eq_ok_iff, ih]
      constructor
      · rintro ⟨l, ⟨⟨hpart, rfl⟩, hfolder⟩, hrest, hway, rfl⟩
        exact ⟨List.forall_mem_cons.2 ⟨hpart, hrest⟩, List.forall_mem_cons.2 ⟨hfolder, hway⟩, rfl⟩
      · rintro ⟨hparts, hfolders, rfl⟩
        obtain ⟨hpart, hrest⟩ := List.forall_mem_cons.1 hparts
        obtain ⟨hfolder, hway⟩ := List.forall_mem_cons.1 hfolders
        exact ⟨_, ⟨⟨hpart, rfl⟩, hfolder⟩, hrest, hway, rfl⟩

/-- A path can be followed where it can be given at all and all but its last part lead to folders. -/
theorem locate_eq_ok_iff {path : String} :
    d.locate path = .ok location ↔
      fault path = none ∧ path ≠ "" ∧ (∀ part ∈ Path.parts path, part.utf8ByteSize ≤ longestName) ∧
        (∀ l ∈ (Path.way path).dropLast, d.node? l = some .folder) ∧ location = Path.goal path := by
  rw [locate, Path.way, Path.goal, ← follow_eq_ok_iff]
  cases fault path with
  | some error => simp
  | none => by_cases hempty : path = "" <;> simp [hempty]

/-- **A path that can be followed leads to its goal.** -/
theorem locate_eq_goal {path : String} (h : d.locate path = .ok location) : location = Path.goal path :=
  (locate_eq_ok_iff.1 h).2.2.2.2

/-- **A path can be followed as long as no folder goes.** -/
theorem locate_of_keepsFolders {path : String} (hkeeps : KeepsFolders d d') (h : d.locate path = .ok location) :
    d'.locate path = .ok location := by
  obtain ⟨hfault, hempty, hshort, hway, hgoal⟩ := locate_eq_ok_iff.1 h
  exact locate_eq_ok_iff.2 ⟨hfault, hempty, hshort, fun l hl => hkeeps l (hway l hl), hgoal⟩

/-- Where a path that asks for a folder leads to something, it is a folder. -/
theorem folder_of_look {path : String} (h : d.look path = .ok node) (hasks : Path.asksForFolder path = true) :
    ∃ location, d.locate path = .ok location ∧ d.node? location = some .folder := by
  rw [look] at h
  cases hlocate : d.locate path with
  | error error =>
    rw [hlocate] at h
    cases h
  | ok location =>
    rw [hlocate] at h
    refine ⟨location, rfl, ?_⟩
    simp only [bind, Except.bind, hasks, if_true] at h
    split at h
    · assumption
    · cases h
    · cases h

/-! ### Making folders -/

theorem node?_of_enter_eq_notFound {folder : List String} {part : String}
    (h : d.enter folder part = .error .notFound) :
    part.utf8ByteSize ≤ longestName ∧ d.node? (Path.turn folder part) = none := by
  rw [enter] at h
  cases hnext : next folder part with
  | error error =>
    rw [hnext] at h
    obtain rfl := Except.error.inj h
    rw [next] at hnext
    split at hnext <;> cases hnext
  | ok l =>
    rw [hnext] at h
    obtain ⟨hshort, rfl⟩ := next_eq_ok_iff.1 hnext
    simp only [bind, Except.bind] at h
    split at h
    · cases h
    · cases h
    · rename_i hnone
      exact ⟨hshort, hnone⟩

/-- Folders are made on the way only. -/
theorem gains_makeFoldersFrom (d : Disk) (folder parts : List String) :
    Gains (Path.wayFrom folder parts) d (d.makeFoldersFrom folder parts).2 := by
  induction parts generalizing d folder with
  | nil => exact Gains.refl _ d
  | cons part rest ih =>
    rw [makeFoldersFrom, Path.wayFrom]
    split
    · rename_i location henter
      obtain ⟨hnext, -⟩ := enter_eq_ok_iff.1 henter
      obtain ⟨-, rfl⟩ := next_eq_ok_iff.1 hnext
      exact (ih d _).mono (List.subset_cons_self _ _)
    · rename_i henter
      obtain ⟨-, hnone⟩ := node?_of_enter_eq_notFound henter
      intro location
      rcases ih (d.put (Path.turn folder part) .folder) (Path.turn folder part) location with heq | ⟨hmem, hno, hyes⟩
      · by_cases hturn : location = Path.turn folder part
        · subst hturn
          refine Or.inr ⟨List.mem_cons_self, hnone, ?_⟩
          rw [heq, node?_put_self (by simp [hnone])]
        · rw [heq, node?_put_of_ne hturn]
          exact Or.inl rfl
      · refine Or.inr ⟨List.mem_cons_of_mem _ hmem, ?_, hyes⟩
        rw [node?_put_of_ne] at hno
        · exact hno
        · rintro rfl
          rw [node?_put_self (by simp [hnone])] at hno
          cases hno
    · exact Gains.refl _ d

theorem mapError_eq_ok_iff {result : Except DiskError Unit} :
    result.mapError DiskError.inPlace = .ok () ↔ result = .ok () := by
  cases result with
  | ok => exact Iff.rfl
  | error error => exact ⟨nofun, nofun⟩

/-- Where no folder is missing any more, all parts lead to folders. -/
theorem folders_of_makeFoldersFrom {folder parts : List String} (h : (d.makeFoldersFrom folder parts).1 = .ok ()) :
    (∀ part ∈ parts, part.utf8ByteSize ≤ longestName) ∧
      ∀ l ∈ Path.wayFrom folder parts, (d.makeFoldersFrom folder parts).2.node? l = some .folder := by
  induction parts generalizing d folder with
  | nil => exact ⟨nofun, nofun⟩
  | cons part rest ih =>
    have hkeeps (d : Disk) (folder : List String) := (gains_makeFoldersFrom d folder rest).keepsFolders
    rw [makeFoldersFrom] at h ⊢
    rw [Path.wayFrom]
    cases henter : d.enter folder part with
    | ok location =>
      obtain ⟨hnext, hfolder⟩ := enter_eq_ok_iff.1 henter
      obtain ⟨hshort, rfl⟩ := next_eq_ok_iff.1 hnext
      simp only [henter] at h ⊢
      obtain ⟨hparts, hway⟩ := ih h
      exact ⟨List.forall_mem_cons.2 ⟨hshort, hparts⟩, List.forall_mem_cons.2 ⟨hkeeps _ _ _ hfolder, hway⟩⟩
    | error error =>
      cases error with
      | notFound =>
        obtain ⟨hshort, hnone⟩ := node?_of_enter_eq_notFound henter
        simp only [henter] at h ⊢
        obtain ⟨hparts, hway⟩ := ih (mapError_eq_ok_iff.1 h)
        have hfolder : (d.put (Path.turn folder part) .folder).node? (Path.turn folder part) = some .folder :=
          node?_put_self (by simp [hnone])
        exact ⟨List.forall_mem_cons.2 ⟨hshort, hparts⟩, List.forall_mem_cons.2 ⟨hkeeps _ _ _ hfolder, hway⟩⟩
      | _ => simp only [henter] at h; cases h

theorem wayTo_isPrefix_parts (path : String) : wayTo path <+: Path.parts path := by
  rw [wayTo]
  split
  · exact List.dropLast_prefix _
  · exact List.prefix_rfl

/-- Making the folders for a path changes nothing off its way. -/
theorem gains_makeFolders (d : Disk) (path : String) : Gains (Path.way path) d (d.makeFolders path).2 := by
  have hgains := (gains_makeFoldersFrom d (Path.start path) (wayTo path)).mono
    (Path.wayFrom_subset (wayTo_isPrefix_parts path))
  rw [makeFolders]
  split
  · exact Gains.refl _ d
  · split
    all_goals
      rename_i hmade
      rw [hmade] at hgains
      exact hgains

/-- Nor does making a part of them. -/
theorem gains_makeFolders_partly (d : Disk) (done : Nat) (path : String) :
    Gains (Path.way path) d (d.performPartly done (.makeFolders path)) := by
  rw [performPartly]
  split
  · exact (gains_makeFoldersFrom d _ _).mono
      (Path.wayFrom_subset ((List.take_prefix _ _).trans (wayTo_isPrefix_parts path)))
  · exact Gains.refl _ d

/-- **Where the folders for a path have been made, all that it passes are folders.** -/
theorem folders_of_makeFolders {path : String} (h : d.makeFolders path = (.ok (), d')) :
    (∀ part ∈ Path.parts path, part.utf8ByteSize ≤ longestName) ∧
      ∀ l ∈ Path.way path, d'.node? l = some .folder := by
  rw [makeFolders] at h
  split at h
  · cases h
  · split at h
    · rename_i made hmade
      have hfolders := folders_of_makeFoldersFrom (congrArg Prod.fst hmade)
      rw [hmade] at hfolders
      obtain ⟨hlook, rfl⟩ := Prod.mk.inj h
      rw [wayTo] at hfolders
      split at hlook
      · rename_i hdot
        -- the last folder is the one that the dot stands in
        cases hfound : made.look path with
        | error error =>
          rw [hfound] at hlook
          cases hlook
        | ok node =>
          obtain ⟨location, hlocate, hnode⟩ := folder_of_look hfound (Path.asksForFolder_of_endsInDot hdot)
          obtain ⟨-, -, hshort, hway, rfl⟩ := locate_eq_ok_iff.1 hlocate
          refine ⟨hshort, fun l hl => ?_⟩
          rcases Path.mem_wayFrom hl with hl | rfl
          · exact hway l hl
          · exact hnode
      · rename_i hdot
        rw [if_neg hdot] at hfolders
        exact hfolders
    · cases h

/-! ### Files -/

/-- What is read where a path leads that does not ask for a folder. -/
theorem content_eq {path : String} (hlocate : d.locate path = .ok location)
    (hasks : Path.asksForFolder path = false) :
    d.content path = match d.node? location with
      | some (.file content) => .ok content
      | some .device => .ok []
      | some _ => .error .occupied
      | none => .error .notFound := by
  rw [content, look, hlocate]
  simp only [bind, Except.bind, hasks]
  cases d.node? location with
  | none => rfl
  | some node => cases node <;> rfl

/-- A file is put where none is or where one is, unless a device takes it in. -/
theorem putFile_cases {path : String} {content : Bytes} (h : d.putFile path content = .ok d') :
    d.locate path = .ok (Path.goal path) ∧
      (d.node? (Path.goal path) = some .device ∧ d' = d ∨
        d.node? (Path.goal path) ≠ some .folder ∧ d' = d.put (Path.goal path) (.file content)) := by
  rw [putFile] at h
  cases hlocate : d.locate path with
  | error error =>
    rw [hlocate] at h
    cases h
  | ok location =>
    obtain rfl := locate_eq_goal hlocate
    refine ⟨rfl, ?_⟩
    simp only [hlocate, bind, Except.bind] at h
    split at h
    · cases h
    · split at h
      · rename_i hnode
        exact Or.inr ⟨by simp [hnode], (Except.ok.inj h).symm⟩
      · rename_i hnode
        exact Or.inr ⟨by simp [hnode], (Except.ok.inj h).symm⟩
      · rename_i hnode
        exact Or.inr ⟨by simp [hnode], (Except.ok.inj h).symm⟩
      · rename_i hnode
        exact Or.inl ⟨hnode, (Except.ok.inj h).symm⟩
      · cases h

/-- A device takes in whatever is written to it. -/
theorem eq_of_putFile {path : String} {content : Bytes} (h : d.putFile path content = .ok d')
    (hdevice : d.node? (Path.goal path) = some .device) : d' = d := by
  obtain ⟨hlocate, -⟩ := putFile_cases h
  rw [putFile, hlocate] at h
  simp only [bind, Except.bind, hdevice] at h
  split at h
  · cases h
  · exact (Except.ok.inj h).symm

theorem attempt_eq_ok {x : Except DiskError Disk} (h : d.attempt x = (.ok (), d')) : x = .ok d' := by
  cases x with
  | error error => cases h
  | ok made => exact congrArg Except.ok (congrArg Prod.snd h)

theorem eq_of_attempt_eq_error {x : Except DiskError Disk} {error : DiskError}
    (h : d.attempt x = (.error error, d')) : d = d' := by
  cases x with
  | error error => exact congrArg Prod.snd h
  | ok made => cases h

theorem perform_create (d : Disk) (path : String) : d.perform (.create path) = d.attempt (d.putFile path []) := rfl

theorem perform_append (d : Disk) (path : String) (content : Bytes) :
    d.perform (.append path content) =
      d.attempt (d.content path >>= fun before => d.putFile path (before ++ content)) := rfl

theorem perform_rename (d : Disk) (source target : String) :
    d.perform (.rename source target) = d.attempt (d.moveFile source target) := rfl

/-- Putting a file changes nothing but what stands at the goal. -/
theorem writes_putFile (d : Disk) (path : String) (content : Bytes) :
    Writes (Path.goal path) d (d.attempt (d.putFile path content)).2 := by
  cases hput : d.putFile path content with
  | error error => exact Writes.refl _ d
  | ok d' =>
    obtain ⟨-, ⟨-, rfl⟩ | ⟨hno, rfl⟩⟩ := putFile_cases hput
    · exact Writes.refl _ _
    · exact writes_put hno content

theorem writes_append (d : Disk) (path : String) (content : Bytes) :
    Writes (Path.goal path) d (d.perform (.append path content)).2 := by
  rw [perform_append]
  cases d.content path with
  | error error => exact Writes.refl _ d
  | ok old => exact writes_putFile d path (old ++ content)

/-- Where a file is put, the path does not ask for a folder. -/
theorem asksForFolder_of_putFile {path : String} {content : Bytes} (h : d.putFile path content = .ok d') :
    Path.asksForFolder path = false := by
  rw [putFile] at h
  cases hlocate : d.locate path with
  | error error =>
    rw [hlocate] at h
    cases h
  | ok location =>
    cases hasks : Path.asksForFolder path with
    | false => rfl
    | true =>
      simp only [hlocate, bind, Except.bind, hasks, if_true] at h
      cases h

/-- Where a file is put and no device takes it in, it is read back. -/
theorem content_of_putFile {path : String} {content : Bytes} (h : d.putFile path content = .ok d')
    (hdevice : d.node? (Path.goal path) ≠ some .device) :
    d'.content path = .ok content ∧ d'.node? (Path.goal path) = some (.file content) := by
  have hasks := asksForFolder_of_putFile h
  obtain ⟨hlocate, ⟨hdev, -⟩ | ⟨hno, rfl⟩⟩ := putFile_cases h
  · exact absurd hdev hdevice
  · have hnode : (d.put (Path.goal path) (.file content)).node? (Path.goal path) = some (.file content) :=
      node?_put_self hno
    have hcontent := content_eq (locate_of_keepsFolders (keepsFolders_put hno (.file content)) hlocate) hasks
    rw [hnode] at hcontent
    exact ⟨hcontent, hnode⟩

/-- A folder has no content. -/
theorem node?_ne_folder_of_content {path : String} {content : Bytes} (h : d.content path = .ok content) :
    d.node? (Path.goal path) ≠ some .folder := by
  intro hfolder
  rw [Disk.content, look] at h
  cases hlocate : d.locate path with
  | error error =>
    rw [hlocate] at h
    cases h
  | ok location =>
    obtain rfl := locate_eq_goal hlocate
    simp only [hlocate, bind, Except.bind, hfolder] at h
    cases h

/-- A file that has been moved stands at the target, and not at the source any more unless that is the same place. -/
theorem moveFile_cases {source target : String} (h : d.moveFile source target = .ok d') :
    ∃ content, d.content source = .ok content ∧ d.locate target = .ok (Path.goal target) ∧
      d.node? (Path.goal target) ≠ some .folder ∧ Path.asksForFolder target = false ∧
      d' = if Path.goal source = Path.goal target then d.put (Path.goal target) (.file content)
        else (d.put (Path.goal target) (.file content)).remove (Path.goal source) := by
  rw [moveFile] at h
  cases hcontent : d.content source with
  | error error =>
    rw [hcontent] at h
    cases h
  | ok content =>
    rw [hcontent] at h
    cases hold : d.locate source with
    | error error =>
      rw [hold] at h
      cases h
    | ok old =>
      rw [hold] at h
      cases hnew : d.locate target with
      | error error =>
        rw [hnew] at h
        cases h
      | ok new =>
        obtain rfl := locate_eq_goal hold
        obtain rfl := locate_eq_goal hnew
        simp only [hnew, bind, Except.bind] at h
        split at h
        · cases h
        · rename_i hno
          split at h
          · cases h
          · rename_i hasks
            exact ⟨content, rfl, rfl, hno, Bool.eq_false_iff.2 hasks, (Except.ok.inj h).symm⟩

/-- A file that has been moved to another place stands there, and not at the source any more. -/
theorem moveFile_eq_ok {source target : String} (h : d.moveFile source target = .ok d')
    (hne : Path.goal source ≠ Path.goal target) :
    ∃ content, d.content source = .ok content ∧ d.locate target = .ok (Path.goal target) ∧
      d.node? (Path.goal target) ≠ some .folder ∧
      d' = (d.put (Path.goal target) (.file content)).remove (Path.goal source) := by
  obtain ⟨content, hcontent, hlocate, hno, -, heq⟩ := moveFile_cases h
  rw [if_neg hne] at heq
  exact ⟨content, hcontent, hlocate, hno, heq⟩

/-- Where a file is moved no folder comes, and none goes. -/
theorem sameFolders_moveFile {source target : String} (h : d.moveFile source target = .ok d') : SameFolders d d' := by
  obtain ⟨content, hcontent, -, hno, -, rfl⟩ := moveFile_cases h
  have hput : SameFolders d (d.put (Path.goal target) (.file content)) := sameFolders_put hno nofun
  split
  · exact hput
  · exact hput.trans (sameFolders_remove (mt (hput _).1 (node?_ne_folder_of_content hcontent)))

/-- What has been moved is read at the target. -/
theorem content_of_moveFile {source target : String} (h : d.moveFile source target = .ok d') :
    d'.content target = d.content source := by
  have hkeeps := (sameFolders_moveFile h).keepsFolders
  obtain ⟨content, hcontent, hlocate, hno, hasks, heq⟩ := moveFile_cases h
  have hput : (d.put (Path.goal target) (.file content)).node? (Path.goal target) = some (.file content) :=
    node?_put_self hno
  rw [hcontent, content_eq (locate_of_keepsFolders hkeeps hlocate) hasks, heq]
  by_cases hsame : Path.goal source = Path.goal target
  · rw [if_pos hsame, hput]
  · rw [if_neg hsame, node?_remove_of_ne (Ne.symm hsame), hput]

/-! ### Several operations -/

theorem performAll_cons_later {trouble : Option Trouble} (h : ∀ done reason, trouble ≠ some ⟨0, done, reason⟩)
    (d : Disk) (op : Op) (rest : List Op) :
    d.performAll trouble (op :: rest) = match d.perform op with
      | (.ok (), d) => d.performAll (trouble.map Trouble.later) rest
      | (.error error, d) => (.error error, d) := by
  rcases trouble with _ | ⟨_ | after, done, reason⟩
  · rfl
  · exact absurd rfl (h done reason)
  · rfl

/-- The device fails at the first operation, or that is performed and the others follow unless it fails. -/
theorem performAll_cons_cases (d : Disk) (trouble : Option Trouble) (op : Op) (rest : List Op) :
    (∃ done reason, d.performAll trouble (op :: rest) = (.error (.device reason), d.performPartly done op)) ∨
      (∃ made, d.perform op = (.ok (), made) ∧
        d.performAll trouble (op :: rest) = made.performAll (trouble.map Trouble.later) rest) ∨
      ∃ error made, d.perform op = (.error error, made) ∧
        d.performAll trouble (op :: rest) = (.error error, made) := by
  by_cases hnow : ∃ done reason, trouble = some ⟨0, done, reason⟩
  · obtain ⟨done, reason, rfl⟩ := hnow
    exact Or.inl ⟨done, reason, by rw [performAll]⟩
  · rw [performAll_cons_later fun done reason heq => hnow ⟨done, reason, heq⟩]
    obtain ⟨result, made⟩ := d.perform op
    cases result with
    | ok => exact Or.inr (Or.inl ⟨made, rfl, rfl⟩)
    | error error => exact Or.inr (Or.inr ⟨error, made, rfl, rfl⟩)

theorem perform_of_performAll {op : Op} {rest : List Op} {trouble : Option Trouble}
    (h : d.performAll trouble (op :: rest) = (.ok (), d')) :
    ∃ made, d.perform op = (.ok (), made) ∧ made.performAll (trouble.map Trouble.later) rest = (.ok (), d') := by
  rcases performAll_cons_cases d trouble op rest with ⟨_, _, heq⟩ | ⟨made, hmade, heq⟩ | ⟨_, _, -, heq⟩
  · rw [heq] at h
    cases h
  · exact ⟨made, hmade, heq ▸ h⟩
  · rw [heq] at h
    cases h

/-- Where a list of operations is cut in two, the second part follows unless the first fails. -/
theorem performAll_append (d : Disk) (trouble : Option Trouble) (ops more : List Op) :
    (∃ error made, d.performAll trouble ops = (.error error, made) ∧
        d.performAll trouble (ops ++ more) = (.error error, made)) ∨
      ∃ left made, d.performAll trouble ops = (.ok (), made) ∧
        d.performAll trouble (ops ++ more) = made.performAll left more := by
  induction ops generalizing d trouble with
  | nil => exact Or.inr ⟨trouble, d, rfl, rfl⟩
  | cons op rest ih =>
    by_cases hnow : ∃ done reason, trouble = some ⟨0, done, reason⟩
    · obtain ⟨done, reason, rfl⟩ := hnow
      exact Or.inl ⟨_, _, by rw [performAll], by rw [List.cons_append, performAll]⟩
    · have hlater : ∀ done reason, trouble ≠ some ⟨0, done, reason⟩ := fun done reason heq => hnow ⟨done, reason, heq⟩
      rw [List.cons_append, performAll_cons_later hlater, performAll_cons_later hlater]
      obtain ⟨result, made⟩ := d.perform op
      cases result with
      | ok => exact ih made _
      | error error => exact Or.inl ⟨error, made, rfl, rfl⟩

/-! ### Operations that are cut off -/

/-- What may be left of operations that are performed in order and cut off at any point. -/
inductive CutOff : List Op → Disk → Disk → Prop
  /-- All has been done. -/
  | done (d : Disk) : CutOff [] d d
  /-- The first operation is cut off. -/
  | within {d d' : Disk} {op : Op} {rest : List Op} (h : d.interrupted op d') : CutOff (op :: rest) d d'
  /-- The first operation is done, and those behind it are cut off. -/
  | beyond {d made d' : Disk} {op : Op} {rest : List Op} (hop : d.perform op = (.ok (), made))
      (hrest : CutOff rest made d') : CutOff (op :: rest) d d'

/-- Operations of which one fails are cut off there. -/
theorem cutOff_performAll (d : Disk) (trouble : Option Trouble) (ops : List Op) :
    CutOff ops d (d.performAll trouble ops).2 := by
  induction ops generalizing d trouble with
  | nil => exact .done d
  | cons op rest ih =>
    rcases performAll_cons_cases d trouble op rest with
      ⟨done, reason, heq⟩ | ⟨made, hmade, heq⟩ | ⟨error, made, hmade, heq⟩
    · rw [heq]
      exact .within (Or.inr (Or.inr ⟨done, rfl⟩))
    · rw [heq]
      exact .beyond hmade (ih made _)
    · rw [heq]
      exact .within (Or.inr (Or.inl (congrArg Prod.snd hmade).symm))

/-- What each of some operations keeps, also where only a part of it is done, is kept wherever they are cut off. -/
theorem CutOff.keeps {P : Disk → Prop} {ops : List Op} (h : CutOff ops d d')
    (hops : ∀ op ∈ ops, ∀ d, P d → P (d.perform op).2 ∧ ∀ done, P (d.performPartly done op)) (hd : P d) : P d' := by
  induction h with
  | done d => exact hd
  | within h =>
    obtain ⟨hall, hpartly⟩ := hops _ List.mem_cons_self _ hd
    rcases h with rfl | rfl | ⟨done, rfl⟩
    · exact hd
    · exact hall
    · exact hpartly done
  | beyond hop _ ih =>
    have hmade := (hops _ List.mem_cons_self _ hd).1
    rw [hop] at hmade
    exact ih (fun op hmem => hops op (List.mem_cons_of_mem _ hmem)) hmade

end Logbook.Disk
