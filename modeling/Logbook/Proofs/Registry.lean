import Logbook.Proofs.Running
import Logbook.Proofs.StateFile

/-!
# The registry through all runs

What a running collector knows about its logs is kept three times: in memory, in the state file, and in who fills which
log.  The three agree whenever a collector runs, after whatever has happened, and whichever operation on the disk
has failed.

## Main definitions

* `Collector.Rests` — what is known of the disk while no collector runs.
* `Collector.Serves` — what is known of a collector that runs.
* `Collector.Sound` — the one or the other.
* `Collector.Agrees` — what can be seen of it: what is read back, who fills which log, and which commands succeed.

## Main results

* `CollectorSettings.apart_inHome` — the database that a home folder has by default is kept away from the state file.
* `Collector.Rests.of_prepare`, `Collector.Serves.of_prepare` — a start leaves the roster as it was, and loads it where it
  succeeds.
* `Collector.Sound.change`, `Collector.sound_run` — whatever happens, the three copies go on to agree.
* `Collector.run_agrees` — **they agree in every run.**
-/

namespace Logbook

open Disk

/-- The place that a database has without being told keeps it apart. -/
theorem CollectorSettings.apart_inHome (home : String) : (CollectorSettings.inHome home).Apart := by
  have hlogs : Path.IsPlain "logs" := ⟨by decide, by decide⟩
  have hevents : Path.IsPlain "events.redb" := ⟨by decide, by decide⟩
  have hway : Path.way (CollectorSettings.storePathIn home) =
      Path.way home ++ [Path.goal home ++ ["logs"]] ++ [Path.goal home ++ ["logs"] ++ ["events.redb"]] := by
    rw [CollectorSettings.storePathIn, Path.way_join hevents, Path.way_join hlogs, Path.goal_join hlogs]
  intro location hmem hhome
  change location ∈ Path.way (CollectorSettings.storePathIn home) at hmem
  rw [StateFile.goal_statePath, StateFile.goal_draft]
  rw [hway, List.mem_append, List.mem_append, List.mem_singleton, List.mem_singleton] at hmem
  rcases hmem with (hmem | rfl) | rfl
  · exact absurd hmem hhome
  · exact ⟨by simp [CollectorSettings.inHome], by simp [CollectorSettings.inHome]⟩
  · exact ⟨by simp [CollectorSettings.inHome], by simp [CollectorSettings.inHome]⟩

namespace Collector

variable {s : CollectorSettings} {r : Roster} {d d' : Disk} {way : List (List String)}

/-! ### While no collector runs -/

/-- The roster that was saved last stands in the state file, unless a folder has come to stand there.  With such a
folder no collector starts. -/
structure Rests (s : CollectorSettings) (r : Roster) (d : Disk) : Prop where
  /-- The logs and sources are acceptable. -/
  entries : ∀ name feed, r.find? name = some feed → LogName.Valid name ∧ feed.source ≠ ""
  /-- A draft can be written. -/
  draft : d.node? (Path.goal (StateFile.draft s.statePath)) ≠ some .device
  /-- What stands at the place of the state file. -/
  file : StateFile.Holds s.statePath r d ∨ d.node? (Path.goal s.statePath) = some .folder

/-- The roster rests as long as nothing happens to the state file and its draft. -/
theorem Rests.of_node?_eq (h : Rests s r d)
    (hdraft : d'.node? (Path.goal (StateFile.draft s.statePath)) = d.node? (Path.goal (StateFile.draft s.statePath)))
    (hfile : d'.node? (Path.goal s.statePath) = d.node? (Path.goal s.statePath)) : Rests s r d' where
  entries := h.entries
  draft := hdraft ▸ h.draft
  file := by
    rw [StateFile.Holds, hfile]
    exact h.file

/-- New folders do not harm the roster. -/
theorem Rests.gains (h : Rests s r d) (hgains : Gains way d d') : Rests s r d' where
  entries := h.entries
  draft := by
    rcases hgains (Path.goal (StateFile.draft s.statePath)) with heq | ⟨-, -, hfolder⟩
    · rw [heq]
      exact h.draft
    · rw [hfolder]
      exact nofun
  file := by
    rcases hgains (Path.goal s.statePath) with heq | ⟨-, -, hfolder⟩
    · rw [StateFile.Holds, heq]
      exact h.file
    · exact Or.inr hfolder

/-! ### While a collector runs -/

/-- What is in memory, in the state file and in the hands of the workers agrees. -/
structure Serves (s : CollectorSettings) (crew : Crew) (store : Store) (d : Disk) : Prop where
  /-- The logs and sources are acceptable. -/
  entries : ∀ name feed, crew.roster.find? name = some feed → LogName.Valid name ∧ feed.source ≠ ""
  /-- A draft can be written. -/
  draft : d.node? (Path.goal (StateFile.draft s.statePath)) ≠ some .device
  /-- The state file holds the roster. -/
  file : StateFile.Holds s.statePath crew.roster d
  /-- The state file can be found. -/
  locate : d.locate s.statePath = .ok (Path.goal s.statePath)
  /-- The crew uses it. -/
  statePath : crew.statePath = s.statePath
  /-- The logs of the roster have workers. -/
  staffed : crew.Staffed crew.roster
  /-- The store keeps to the settings. -/
  settings : store.settings = s.store
  /-- The database stands elsewhere. -/
  database : Path.goal s.store.path ≠ Path.goal s.statePath ∧
    Path.goal s.store.path ≠ Path.goal (StateFile.draft s.statePath)

variable {crew crew' : Crew} {store store' : Store}

theorem Serves.rests (h : Serves s crew store d) : Rests s crew.roster d := ⟨h.entries, h.draft, Or.inl h.file⟩

/-- A collector goes on to serve while its workers go on. -/
theorem Serves.of_alike (h : Serves s crew store d) (halike : Crew.Alike crew crew')
    (hremains : store.Remains store') : Serves s crew' store' d where
  entries := halike.roster ▸ h.entries
  draft := h.draft
  file := halike.roster ▸ h.file
  locate := h.locate
  statePath := halike.statePath.trans h.statePath
  staffed := halike.roster ▸ h.staffed.of_alike halike
  settings := hremains.settings.trans h.settings
  database := h.database

/-! ### The place of the database -/

/-- A database that can be put somewhere is kept away from the state file. -/
theorem goal_store_ne (hapart : s.Apart) (hhome : ∀ l ∈ Path.way s.home, d.node? l = some .folder)
    (hno : d.node? (Path.goal s.store.path) ≠ some .folder) :
    Path.goal s.store.path ≠ Path.goal s.statePath ∧
      Path.goal s.store.path ≠ Path.goal (StateFile.draft s.statePath) := by
  refine hapart _ (Path.goal_mem_way fun hparts => hno ?_) fun hmem => hno (hhome _ hmem)
  -- without any part the path would lead to a folder that always stands
  rw [Path.goal, hparts, List.foldl_nil, Path.start, node?, if_pos]
  split
  · exact Or.inr rfl
  · exact Or.inl rfl

/-- Folders on the way to the database leave the state file as it is once the home folder has been made. -/
theorem node?_statePath_of_gains (hapart : s.Apart) (hhome : ∀ l ∈ Path.way s.home, d.node? l = some .folder)
    (hgains : Gains (Path.way s.store.path) d d') :
    d'.node? (Path.goal s.statePath) = d.node? (Path.goal s.statePath) := by
  refine hgains.node?_eq fun hmem hnone => ?_
  by_cases hway : Path.goal s.statePath ∈ Path.way s.home
  · rw [hhome _ hway] at hnone
    cases hnone
  · exact (hapart _ hmem hway).1 rfl

/-! ### Starting and stopping -/

variable {roster : Roster} {trouble : Option Trouble} {error : CollectorError} {strays : Option (Crew × Store)}

/-- **A start that fails leaves the roster as it was.** -/
theorem Rests.of_prepare (h : Rests s r d) (hprepare : prepare s trouble d = (.error error, d')) : Rests s r d' :=
  h.gains (gains_of_prepare hprepare)

/-- The roster that is loaded is the one that was saved. -/
theorem Rests.of_load (h : Rests s r d) (hlocate : d.locate s.statePath = .ok (Path.goal s.statePath))
    (hload : StateFile.load s.statePath d = .ok roster) : roster = r ∧ StateFile.Holds s.statePath r d := by
  rcases h.file with hfile | hfolder
  · have hload' := StateFile.load_of_holds hlocate hfile
    rw [hload] at hload'
    exact ⟨Except.ok.inj hload', hfile⟩
  · have hcontent := content_eq hlocate (StateFile.asksForFolder_statePath s)
    rw [hfolder] at hcontent
    rw [StateFile.load, hcontent] at hload
    cases hload

/-- **A start that succeeds loads the roster, and then the collector serves.** -/
theorem Serves.of_prepare (hapart : s.Apart) (h : Rests s r d)
    (hprepare : prepare s trouble d = (.ok (roster, store), d')) :
    Serves s (Crew.start s.statePath s.maxMessageSize roster) store d' := by
  obtain ⟨made, opened, hopens, rfl⟩ := opens_of_prepare hprepare
  have hmade : Rests s r made := by
    have hgains := gains_makeFolders d s.home
    rw [hopens.home] at hgains
    exact h.gains hgains
  have hlocate := StateFile.locate_of_load hopens.home hopens.loads
  obtain ⟨rfl, hfile⟩ := hmade.of_load hlocate hopens.loads
  -- the home folder stands, so only folders on the database's own way can be new
  have hhome := StateFile.folders_of_locate hlocate
  have hgains := hopens.folders
  have hno := hopens.database
  obtain ⟨hstate, hdraft⟩ := goal_store_ne hapart (fun l hl => hgains.keepsFolders l (hhome l hl)) hno
  obtain ⟨hroster, hpath⟩ := Crew.roster_start s.statePath s.maxMessageSize roster
  refine ⟨?_, ?_, ?_, ?_, hpath, ?_, hopens.settings, hstate, hdraft⟩
  · rw [hroster]
    exact h.entries
  · rw [node?_put_of_ne hdraft.symm]
    exact (hmade.gains hgains).draft
  · rw [hroster, StateFile.Holds, node?_put_of_ne hstate.symm, node?_statePath_of_gains hapart hhome hgains]
    exact hfile
  · exact locate_of_keepsFolders (hgains.keepsFolders.trans (keepsFolders_put hno _)) hlocate
  · rw [hroster]
    exact Crew.staffed_start s.statePath s.maxMessageSize roster

/-! ### Additions and removals -/

/-- A collector goes on to serve after a save that failed, and the state file is as it was. -/
theorem Serves.of_save_error (h : Serves s crew store d) {error : CollectorError}
    (hsave : StateFile.save crew.statePath roster trouble d = (.error error, d')) :
    Serves s crew store d' ∧ d'.content s.statePath = d.content s.statePath := by
  rw [h.statePath] at hsave
  obtain ⟨result, saved, hcases, hspares, hfile⟩ := StateFile.save_cases h.locate h.draft roster trouble
  obtain ⟨rfl, rfl⟩ := Prod.mk.inj (hsave.symm.trans hcases)
  have hlocate := locate_of_keepsFolders hspares.folders h.locate
  refine ⟨{ h with draft := hspares.draft, locate := hlocate, file := ?_ },
    StateFile.content_of_node?_eq h.locate hspares.folders hfile⟩
  rw [StateFile.Holds, hfile]
  exact h.file

/-- A collector goes on to serve with the roster that was saved, as soon as its workers are those of that roster. -/
theorem Serves.of_save (h : Serves s crew store d)
    (hsave : StateFile.save crew.statePath crew'.roster trouble d = (.ok (), d'))
    (hentries : ∀ name feed, crew'.roster.find? name = some feed → LogName.Valid name ∧ feed.source ≠ "")
    (hpath : crew'.statePath = crew.statePath) (hstaffed : crew'.Staffed crew'.roster) :
    Serves s crew' store d' := by
  rw [h.statePath] at hsave
  obtain ⟨result, saved, hcases, hspares, hfile⟩ := StateFile.save_cases h.locate h.draft crew'.roster trouble
  obtain ⟨rfl, rfl⟩ := Prod.mk.inj (hsave.symm.trans hcases)
  exact
    { entries := hentries
      draft := hspares.draft
      file := Or.inl hfile
      locate := locate_of_keepsFolders hspares.folders h.locate
      statePath := hpath.trans h.statePath
      staffed := hstaffed
      settings := h.settings
      database := h.database }

/-- A collector goes on to serve after an addition. -/
theorem Serves.add (h : Serves s crew store d) (name source : String) (trouble : Option Trouble) :
    Serves s (crew.add name source trouble d).2.1 store (crew.add name source trouble d).2.2 := by
  rcases crew.add_cases name source trouble d with
    ⟨error, -, hadd⟩ | ⟨hobjection, ⟨error, d', hsave, hadd⟩ | ⟨d', hsave, hadd⟩⟩
  · rw [hadd]
    exact h
  · rw [hadd]
    exact (h.of_save_error hsave).1
  · rw [hadd]
    obtain ⟨hvalid, hsource, -⟩ := Crew.objection_eq_none_iff.1 hobjection
    refine h.of_save hsave (fun log feed hfind => ?_) rfl (h.staffed.enlist _ name source)
    change (crew.roster.insert name ⟨source⟩).find? log = some feed at hfind
    by_cases hlog : log = name
    · subst hlog
      rw [SortedMap.find?_insert_self] at hfind
      obtain rfl := Option.some.inj hfind
      exact ⟨hvalid, hsource⟩
    · rw [SortedMap.find?_insert_of_ne hlog] at hfind
      exact h.entries log feed hfind

/-- A collector goes on to serve after a log has been withdrawn. -/
theorem Serves.remove (h : Serves s crew store d) (name : String) (trouble : Option Trouble) :
    Serves s (crew.remove name trouble d).2.1 store (crew.remove name trouble d).2.2 := by
  rcases Crew.remove_cases h.staffed name trouble d with
    ⟨-, hremove⟩ | ⟨error, d', hsave, hremove⟩ | ⟨number, d', hnumber, hsave, hremove⟩
  · rw [hremove]
    exact h
  · rw [hremove]
    exact (h.of_save_error hsave).1
  · rw [hremove]
    refine h.of_save hsave (fun log feed hfind => ?_) rfl (h.staffed.release hnumber _)
    change (crew.roster.erase name).find? log = some feed at hfind
    by_cases hlog : log = name
    · subst hlog
      rw [SortedMap.find?_erase_self] at hfind
      cases hfind
    · rw [SortedMap.find?_erase_of_ne hlog] at hfind
      exact h.entries log feed hfind

/-! ### Runs -/

/-- What is known of what a collector is doing, and of the disk. -/
inductive Sound (s : CollectorSettings) : Phase × Disk → Prop
  /-- It has never run. -/
  | idle {r : Roster} {d : Disk} (h : Rests s r d) : Sound s (.idle, d)
  /-- It runs. -/
  | running {crew : Crew} {store : Store} {d : Disk} (h : Serves s crew store d) : Sound s (.running crew store, d)
  /-- It has been stopped. -/
  | stopped {r : Roster} {d : Disk} (h : Rests s r d) : Sound s (.stopped, d)

/-- **Whatever changes, the three copies go on to agree.** -/
theorem Sound.change (hapart : s.Apart) {x y : Phase × Disk} (h : Sound s x) (hchange : Change s x y) : Sound s y := by
  cases h with
  | idle h =>
    cases hchange with
    | failed _ hprepare => exact .idle (h.of_prepare hprepare)
    | started _ hprepare => exact .running (.of_prepare hapart h hprepare)
  | stopped h =>
    cases hchange with
    | failed _ hprepare => exact .stopped (h.of_prepare hprepare)
    | started _ hprepare => exact .running (.of_prepare hapart h hprepare)
  | running h =>
    cases hchange with
    | failed hphase => cases hphase
    | started hphase => cases hphase
    | worked halike hremains => exact .running (h.of_alike halike hremains)
    | added name source trouble => exact .running (h.add name source trouble)
    | removed name trouble => exact .running (h.remove name trouble)
    | stopped hremains =>
      -- when the store is closed, the database comes to stand away from the state file
      have hstore := hremains.settings.trans h.settings
      exact .stopped (h.rests.of_node?_eq (Store.node?_close _ (hstore ▸ h.database.2))
        (Store.node?_close _ (hstore ▸ h.database.1)))

/-- **Whatever happens, the three copies go on to agree**, if there can be an inbox. -/
theorem sound_run (hapart : s.Apart) (hcapacity : s.inboxCapacity ≤ Inbox.largestCapacity) {w : World}
    (h : Sound s (.idle, w.disk)) (os : List Occurrence) :
    Sound s ((run { settings := s } w os).1.phase, (run { settings := s } w os).2.disk) :=
  (leads_run (c := { settings := s }) hcapacity rfl w os).keeps (fun _ _ hchange h => h.change hapart hchange) h

/-! ### What can be seen of a run -/

/-- What is in memory, in the state file and in the hands of the workers agrees.  A command changes all of them or
none. -/
structure Agrees (c : Collector) (crew : Crew) (w : World) : Prop where
  /-- The state file is read as the roster. -/
  loads : StateFile.load c.settings.statePath w.disk = .ok crew.roster
  /-- The logs that have a worker are those of the roster. -/
  logs : crew.holders.keys = crew.roster.keys
  /-- The worker of a log was started on its source and has not been told to stop. -/
  workers : ∀ name number, crew.holders.find? name = some number → ∃ feed worker,
    crew.roster.find? name = some feed ∧ crew.workers[number]? = some worker ∧
      worker.log = name ∧ worker.source = feed.source ∧ worker.cancelled = false
  /-- The logs and sources are acceptable. -/
  entries : ∀ name feed, crew.roster.find? name = some feed → LogName.Valid name ∧ feed.source ≠ ""
  /-- Which additions succeed. -/
  adds : ∀ name source trouble, (c.addLog name source trouble w).1 = .ok () ↔
    LogName.Valid name ∧ source ≠ "" ∧ crew.roster.find? name = none ∧
      (StateFile.save c.settings.statePath (crew.roster.insert name ⟨source⟩) trouble w.disk).1 = .ok ()
  /-- An addition that succeeds can be read back. -/
  added : ∀ name source trouble, (c.addLog name source trouble w).1 = .ok () →
    StateFile.load c.settings.statePath (c.addLog name source trouble w).2.2.disk =
      .ok (crew.roster.insert name ⟨source⟩)
  /-- So can a removal. -/
  removed : ∀ name trouble, (c.removeLog name trouble w).1 = .ok () →
    StateFile.load c.settings.statePath (c.removeLog name trouble w).2.2.disk = .ok (crew.roster.erase name)
  /-- An addition that fails leaves the collector and the state file as they were. -/
  unadded : ∀ name source trouble error, (c.addLog name source trouble w).1 = .error error →
    (c.addLog name source trouble w).2.1 = c ∧
      (c.addLog name source trouble w).2.2.disk.content c.settings.statePath =
        w.disk.content c.settings.statePath
  /-- So does a removal. -/
  unremoved : ∀ name trouble error, (c.removeLog name trouble w).1 = .error error →
    (c.removeLog name trouble w).2.1 = c ∧
      (c.removeLog name trouble w).2.2.disk.content c.settings.statePath = w.disk.content c.settings.statePath

/-- What a collector that runs does with an addition. -/
theorem addLog_running (s : CollectorSettings) (crew : Crew) (store : Store) (name source : String)
    (trouble : Option Trouble) (w : World) :
    addLog ⟨s, .running crew store, strays⟩ name source trouble w =
      ((crew.add name source trouble w.disk).1, ⟨s, .running (crew.add name source trouble w.disk).2.1 store, strays⟩,
        { w with disk := (crew.add name source trouble w.disk).2.2 }) := rfl

theorem withdraw_running (s : CollectorSettings) (crew : Crew) (store : Store) (name : String)
    (trouble : Option Trouble) (w : World) :
    withdraw ⟨s, .running crew store, strays⟩ name trouble w =
      ((crew.remove name trouble w.disk).1, ⟨s, .running (crew.remove name trouble w.disk).2.1 store, strays⟩,
        { w with disk := (crew.remove name trouble w.disk).2.2 }) := rfl

/-- The roster is read back. -/
theorem Serves.load (h : Serves s crew store d) : StateFile.load s.statePath d = .ok crew.roster :=
  StateFile.load_of_holds h.locate h.file

theorem Serves.addLog_eq_ok_iff (h : Serves s crew store w.disk) (name source : String) (trouble : Option Trouble) :
    (addLog ⟨s, .running crew store, strays⟩ name source trouble w).1 = .ok () ↔
      LogName.Valid name ∧ source ≠ "" ∧ crew.roster.find? name = none ∧
        (StateFile.save s.statePath (crew.roster.insert name ⟨source⟩) trouble w.disk).1 = .ok () := by
  rw [addLog_running, ← h.statePath]
  rcases crew.add_cases name source trouble w.disk with
    ⟨error, hobjection, hadd⟩ | ⟨hobjection, ⟨error, d', hsave, hadd⟩ | ⟨d', hsave, hadd⟩⟩
  · rw [hadd]
    refine ⟨nofun, fun ⟨hvalid, hsource, hnew, _⟩ => ?_⟩
    rw [Crew.objection_eq_none_iff.2 ⟨hvalid, hsource, hnew⟩] at hobjection
    cases hobjection
  · rw [hadd, hsave]
    refine ⟨nofun, fun ⟨_, _, _, hok⟩ => ?_⟩
    cases hok
  · rw [hadd, hsave]
    obtain ⟨hvalid, hsource, hnew⟩ := Crew.objection_eq_none_iff.1 hobjection
    exact ⟨fun _ => ⟨hvalid, hsource, hnew, rfl⟩, fun _ => rfl⟩

theorem Serves.load_of_addLog (h : Serves s crew store w.disk) {name source : String}
    (hok : (addLog ⟨s, .running crew store, strays⟩ name source trouble w).1 = .ok ()) :
    StateFile.load s.statePath (addLog ⟨s, .running crew store, strays⟩ name source trouble w).2.2.disk =
      .ok (crew.roster.insert name ⟨source⟩) := by
  have hserves := h.add name source trouble
  rw [addLog_running] at hok ⊢
  rcases crew.add_cases name source trouble w.disk with
    ⟨error, -, hadd⟩ | ⟨-, ⟨error, d', -, hadd⟩ | ⟨d', -, hadd⟩⟩
  all_goals rw [hadd] at hok hserves ⊢
  · cases hok
  · cases hok
  · exact hserves.load

theorem Serves.addLog_error (h : Serves s crew store w.disk) {name source : String} {error : CollectorError}
    (herror : (addLog ⟨s, .running crew store, strays⟩ name source trouble w).1 = .error error) :
    (addLog ⟨s, .running crew store, strays⟩ name source trouble w).2.1 = ⟨s, .running crew store, strays⟩ ∧
      (addLog ⟨s, .running crew store, strays⟩ name source trouble w).2.2.disk.content s.statePath =
        w.disk.content s.statePath := by
  rw [addLog_running] at herror ⊢
  rcases crew.add_cases name source trouble w.disk with
    ⟨error, -, hadd⟩ | ⟨-, ⟨error, d', hsave, hadd⟩ | ⟨d', -, hadd⟩⟩
  all_goals rw [hadd] at herror ⊢
  · exact ⟨rfl, rfl⟩
  · exact ⟨rfl, (h.of_save_error hsave).2⟩
  · cases herror

/-- A removal ends as the withdrawal does. -/
theorem removeLog_cases (c : Collector) (name : String) (trouble : Option Trouble) (w : World) :
    (∃ error, (c.withdraw name trouble w).1 = .error error ∧
      c.removeLog name trouble w = (.error error, (c.withdraw name trouble w).2)) ∨
      (∃ number, (c.withdraw name trouble w).1 = .ok number) ∧ (c.removeLog name trouble w).1 = .ok () ∧
        (c.removeLog name trouble w).2.2.disk = (c.withdraw name trouble w).2.2.disk := by
  rw [removeLog]
  rcases c.withdraw name trouble w with ⟨error | number | number, c', w'⟩
  · exact Or.inl ⟨error, rfl, rfl⟩
  · exact Or.inr ⟨⟨none, rfl⟩, rfl, rfl⟩
  · refine Or.inr ⟨⟨some number, rfl⟩, rfl, ?_⟩
    simp only [settleOne]
    split <;> rfl

theorem Serves.load_of_removeLog (h : Serves s crew store w.disk) {name : String}
    (hok : (removeLog ⟨s, .running crew store, strays⟩ name trouble w).1 = .ok ()) :
    StateFile.load s.statePath (removeLog ⟨s, .running crew store, strays⟩ name trouble w).2.2.disk =
      .ok (crew.roster.erase name) := by
  rcases removeLog_cases ⟨s, .running crew store, strays⟩ name trouble w with
    ⟨error, -, hremove⟩ | ⟨⟨number, hwithdraw⟩, -, hdisk⟩
  · rw [hremove] at hok
    cases hok
  · rw [hdisk]
    have hserves := h.remove name trouble
    rw [withdraw_running] at hwithdraw ⊢
    rcases Crew.remove_cases h.staffed name trouble w.disk with
      ⟨hnone, hremove⟩ | ⟨error, d', -, hremove⟩ | ⟨other, d', -, -, hremove⟩
    all_goals rw [hremove] at hwithdraw hserves ⊢
    · -- a log that is not registered is removed already
      have hsame : crew.roster.erase name = crew.roster := by
        refine SortedMap.ext_find? fun log => ?_
        by_cases hlog : log = name
        · rw [hlog, SortedMap.find?_erase_self, hnone]
        · rw [SortedMap.find?_erase_of_ne hlog]
      rw [hsame]
      exact h.load
    · cases hwithdraw
    · exact hserves.load

theorem Serves.removeLog_error (h : Serves s crew store w.disk) {name : String} {error : CollectorError}
    (herror : (removeLog ⟨s, .running crew store, strays⟩ name trouble w).1 = .error error) :
    (removeLog ⟨s, .running crew store, strays⟩ name trouble w).2.1 = ⟨s, .running crew store, strays⟩ ∧
      (removeLog ⟨s, .running crew store, strays⟩ name trouble w).2.2.disk.content s.statePath =
        w.disk.content s.statePath := by
  rcases removeLog_cases ⟨s, .running crew store, strays⟩ name trouble w with
    ⟨error, hwithdraw, hremove⟩ | ⟨-, hok, -⟩
  · rw [hremove]
    rw [withdraw_running] at hwithdraw ⊢
    rcases Crew.remove_cases h.staffed name trouble w.disk with
      ⟨-, hremove⟩ | ⟨error, d', hsave, hremove⟩ | ⟨other, d', -, -, hremove⟩
    all_goals rw [hremove] at hwithdraw ⊢
    · exact ⟨rfl, rfl⟩
    · exact ⟨rfl, (h.of_save_error hsave).2⟩
    · cases hwithdraw
  · rw [hok] at herror
    cases herror

theorem Serves.agrees (h : Serves s crew store w.disk) : Agrees ⟨s, .running crew store, strays⟩ crew w where
  loads := h.load
  logs := SortedMap.keys_eq_of_mem_iff h.staffed.logs
  workers name number hnumber := by
    obtain ⟨feed, worker, hfeed, hworker, hbadge⟩ := h.staffed.workers name number hnumber
    obtain ⟨hlog, hrest⟩ := Prod.mk.inj hbadge
    obtain ⟨hsource, hcancelled⟩ := Prod.mk.inj hrest
    exact ⟨feed, worker, hfeed, hworker, hlog, hsource, hcancelled⟩
  entries := h.entries
  adds name source trouble := h.addLog_eq_ok_iff name source trouble
  added _ _ _ hok := h.load_of_addLog hok
  removed _ _ hok := h.load_of_removeLog hok
  unadded _ _ _ _ herror := h.addLog_error herror
  unremoved _ _ _ herror := h.removeLog_error herror

/-- **The roster in memory, the state file and the workers agree in every run that begins without a state file.** -/
theorem run_agrees (s : CollectorSettings) (hapart : s.Apart) (w : World)
    (hnone : w.disk.node? (Path.goal s.statePath) = none)
    (hdraft : w.disk.node? (Path.goal (StateFile.draft s.statePath)) ≠ some .device) (os : List Occurrence)
    {crew : Crew} {store : Store}
    (hphase : (run { settings := s } w os).1.phase = .running crew store) :
    Agrees (run { settings := s } w os).1 crew (run { settings := s } w os).2 := by
  -- where nothing stands, the empty roster is what was saved last
  have hrests : Rests s .empty w.disk := by
    refine ⟨fun name feed hfind => ?_, hdraft, Or.inl (Or.inr ⟨hnone, rfl⟩)⟩
    rw [SortedMap.find?_empty] at hfind
    cases hfind
  rcases Nat.lt_or_ge Inbox.largestCapacity s.inboxCapacity with hlarge | hcapacity
  · -- without an inbox it would never have come to run
    have hidle := not_started_run (c := { settings := s }) rfl hlarge w os
    rw [isStarted, hphase] at hidle
    cases hidle
  · have hsound := sound_run hapart hcapacity (.idle hrests) os
    have hsettings := (leads_run (c := { settings := s }) hcapacity rfl w os).settings
    generalize (run { settings := s } w os).1 = c, (run { settings := s } w os).2 = w' at hsound hsettings hphase ⊢
    obtain ⟨settings, phase, strays⟩ := c
    obtain rfl : settings = s := hsettings
    obtain rfl : phase = .running crew store := hphase
    cases hsound with
    | running h => exact h.agrees

/-- A log is added, another one is not since its draft cannot be moved, and the collector is started again. -/
theorem run_agrees_restarted :
    let w : World := ⟨.blank, ⟨fun _ => ⟨.ofNanos 0, .error "no entropy"⟩, 0⟩⟩
    let os : List Occurrence := [.command .start none, .command (.addLog "a" "x") none,
      .command (.addLog "b" "y") (some ⟨4, 0, "no space"⟩), .command .stop none, .command .start none]
    ∃ crew store, (run { settings := .inHome "home" } w os).1.phase = .running crew store ∧
      crew.roster.keys = ["a"] ∧
      Agrees (run { settings := .inHome "home" } w os).1 crew (run { settings := .inHome "home" } w os).2 := by
  intro w os
  have hagrees : ∀ crew store, (run { settings := .inHome "home" } w os).1.phase = .running crew store →
      Agrees (run { settings := .inHome "home" } w os).1 crew (run { settings := .inHome "home" } w os).2 :=
    fun _ _ => run_agrees (.inHome "home") (CollectorSettings.apart_inHome "home") w (by decide +kernel)
      (by decide +kernel) os
  have hkeys : (run { settings := .inHome "home" } w os).1.service.map (fun p => p.1.roster.keys) = .ok ["a"] := by
    decide +kernel
  rw [service] at hkeys
  generalize (run { settings := .inHome "home" } w os).1.phase = phase at hkeys hagrees ⊢
  cases phase with
  | idle => cases hkeys
  | running crew store => exact ⟨crew, store, rfl, Except.ok.inj hkeys, hagrees crew store rfl⟩
  | stopped => cases hkeys

end Collector

end Logbook
