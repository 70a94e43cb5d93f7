import Logbook.Proofs.Callers
import Logbook.Proofs.Refusal
import Logbook.Proofs.Running
import Logbook.Proofs.Saving

/-!
# The life of a collector

A collector is started and stopped any number of times, and in between its logs are filled and looked at.  All that can
fail in a start is done before the first worker is started, but for the inbox, which is made when the workers have
begun.  Where an inbox of the capacity that is set cannot be made, no start succeeds, and one that gets as far leaves
workers behind that nobody can stop.  Where it can, a start that fails leaves nothing behind but folders.  As long as a
collector runs, no other roster can be loaded from the state file than the one in memory, and while it does not run
nothing but new folders comes to the disk.  So the logs that there were before a stop are there again after the next
start that succeeds, however many have failed before.

That depends neither on where the paths of the settings lead nor on what is on the disk.  Where the database takes the
place of the state file, or a device takes in a draft, no roster can be loaded any more, and then no start succeeds.

## Main definitions

* `Command.isOperation` — what can be asked of a collector besides to start and to stop.
* `Collector.atWork` — the workers of a collector that have not come to an end, also those that a start left behind.
* `StateFile.Recalls` — no other roster can be loaded.
* `Collector.Operates`, `Collector.InOrder` — what is known of a collector that runs, and of any collector.
* `Collector.Ends` — what a stop does.
* `Collector.Lives` — what is known of every moment in the life of a collector.

## Main results

* `StateFile.Recalls.gains`, `StateFile.recalls_of_save` — what the state file recalls through failed starts and saves.
* `Collector.inOrder_run` — a collector that runs is in order.
* `Worker.isFinished_settleAll` — workers that have been told to stop come to an end.
* `Collector.recalls_of_stop`, `Collector.recalls_run` — the state file recalls the roster until the next start.
* `Collector.start_eq_error`, `Collector.start_eq_broken` — what a start that fails leaves behind.
* `Collector.obey_eq_notStarted_iff` — which operations are answered by a collector that does not run.
* `Collector.lifecycle` — **how a collector lives.**
-/

namespace Logbook

open Disk

/-- What can be asked of a collector besides to start and to stop. -/
def Command.isOperation : Command → Bool
  | .start => false
  | .stop => false
  | _ => true

/-! ### What the state file recalls -/

namespace StateFile

variable {s : CollectorSettings} {r : Roster} {d d' : Disk} {trouble : Option Trouble}

/-- The state file can be found, and no other roster is loaded from it. -/
structure Recalls (s : CollectorSettings) (r : Roster) (d : Disk) : Prop where
  /-- The state file can be found. -/
  locate : d.locate s.statePath = .ok (Path.goal s.statePath)
  /-- What is loaded, if anything, is the roster. -/
  unique : ∀ loaded, load s.statePath d = .ok loaded → loaded = r

/-- A roster is loaded from a file, or from a place where nothing stands. -/
theorem file_of_load (hlocate : d.locate s.statePath = .ok (Path.goal s.statePath)) (h : load s.statePath d = .ok r) :
    d.node? (Path.goal s.statePath) = none ∨ ∃ content, d.node? (Path.goal s.statePath) = some (.file content) := by
  have hcontent := content_eq hlocate (asksForFolder_statePath s)
  cases hnode : d.node? (Path.goal s.statePath) with
  | none => exact Or.inl rfl
  | some node =>
    rw [hnode] at hcontent
    cases node with
    | file content => exact Or.inr ⟨content, rfl⟩
    | device => exact absurd h (load_ne_ok_of_content hcontent)
    | _ =>
      rw [load, hcontent] at h
      cases h

/-- What the state file recalls depends on no more than what stands in its place. -/
theorem Recalls.of_same (h : Recalls s r d) (hkeeps : KeepsFolders d d')
    (hsame : d'.node? (Path.goal s.statePath) = d.node? (Path.goal s.statePath)) : Recalls s r d' := by
  refine ⟨locate_of_keepsFolders hkeeps h.locate, fun loaded hload => h.unique loaded ?_⟩
  rwa [load, ← content_of_node?_eq h.locate hkeeps hsame]

/-- Where something else than a file comes to stand, nothing is loaded any more. -/
theorem Recalls.of_node (h : Recalls s r d) (hkeeps : KeepsFolders d d') {node : Node}
    (hnode : d'.node? (Path.goal s.statePath) = some node) (hfile : ∀ content, node ≠ .file content) :
    Recalls s r d' := by
  have hlocate := locate_of_keepsFolders hkeeps h.locate
  refine ⟨hlocate, fun loaded hload => ?_⟩
  rcases file_of_load hlocate hload with hnone | ⟨content, hcontent⟩
  · cases hnode.symm.trans hnone
  · exact absurd (Option.some.inj (hnode.symm.trans hcontent)) (hfile content)

/-- New folders do not make the state file recall another roster. -/
theorem Recalls.gains {way : List (List String)} (h : Recalls s r d) (hgains : Gains way d d') : Recalls s r d' := by
  rcases hgains (Path.goal s.statePath) with heq | ⟨-, -, hfolder⟩
  · exact h.of_same hgains.keepsFolders heq
  · exact h.of_node hgains.keepsFolders hfolder nofun

/-- Nor does a database that is put somewhere. -/
theorem Recalls.put {location : List String} (h : Recalls s r d) (hno : d.node? location ≠ some .folder)
    (table : Option Table) : Recalls s r (d.put location (.database table)) := by
  have hkeeps := keepsFolders_put hno (.database table)
  by_cases heq : Path.goal s.statePath = location
  · subst heq
    exact h.of_node hkeeps (node?_put_self hno) nofun
  · exact h.of_same hkeeps (node?_put_of_ne heq)

theorem recalls_of_load (hlocate : d.locate s.statePath = .ok (Path.goal s.statePath))
    (hload : load s.statePath d = .ok r) : Recalls s r d :=
  ⟨hlocate, fun _ hloaded => Except.ok.inj (hloaded.symm.trans hload)⟩

/-- A save that fails leaves what the state file recalls. -/
theorem Recalls.of_save_error {roster : Roster} {error : CollectorError} (h : Recalls s r d)
    (hsave : save s.statePath roster trouble d = (.error error, d')) : Recalls s r d' :=
  h.of_same (sameFolders_save h.locate hsave).keepsFolders (node?_of_save_error h.locate hsave)

/-- **The state file recalls what has been saved**, even where a device took in the draft. -/
theorem recalls_of_save (hlocate : d.locate s.statePath = .ok (Path.goal s.statePath))
    (hsave : save s.statePath r trouble d = (.ok (), d')) : Recalls s r d' := by
  refine ⟨locate_of_keepsFolders (sameFolders_save hlocate hsave).keepsFolders hlocate, fun loaded hload => ?_⟩
  rcases content_save_cases hsave with hcontent | hcontent
  · exact Except.ok.inj (hload.symm.trans (load_of_content hcontent))
  · exact absurd hload (load_ne_ok_of_content hcontent)

end StateFile

namespace Collector

variable {s : CollectorSettings} {d d' : Disk} {crew crew' : Crew} {store store' : Store} {roster : Roster}
  {trouble : Option Trouble} {error : CollectorError}

/-! ### While a collector runs -/

/-- What is known of a collector that runs, wherever its paths lead. -/
structure Operates (s : CollectorSettings) (crew : Crew) (store : Store) (d : Disk) : Prop where
  /-- No other roster is loaded than the one in memory. -/
  recalls : StateFile.Recalls s crew.roster d
  /-- The crew saves it in the state file. -/
  statePath : crew.statePath = s.statePath
  /-- The logs of the roster have workers. -/
  staffed : crew.Staffed crew.roster
  /-- The store keeps to the settings. -/
  settings : store.settings = s.store
  /-- It has not been closed. -/
  isOpen : store.isOpen = true
  /-- The place of the database can be found. -/
  locate : d.locate s.store.path = .ok (Path.goal s.store.path)
  /-- No folder stands there. -/
  database : d.node? (Path.goal s.store.path) ≠ some .folder

theorem Operates.of_prepare (h : prepare s trouble d = (.ok (roster, store), d')) :
    Operates s (Crew.start s.statePath s.maxMessageSize roster) store d' := by
  obtain ⟨made, opened, hopens, rfl⟩ := opens_of_prepare h
  have hmade := StateFile.recalls_of_load (StateFile.locate_of_load hopens.home hopens.loads) hopens.loads
  obtain ⟨hroster, hpath⟩ := Crew.roster_start s.statePath s.maxMessageSize roster
  refine ⟨?_, hpath, ?_, hopens.settings, hopens.isOpen, ?_, ?_⟩
  · -- the database may come to stand in the place of the state file, which is not read again before the next start
    rw [hroster]
    exact (hmade.gains hopens.folders).put hopens.database none
  · rw [hroster]
    exact Crew.staffed_start s.statePath s.maxMessageSize roster
  · exact locate_of_keepsFolders (keepsFolders_put hopens.database _) hopens.locate
  · rw [node?_put_self hopens.database]
    exact nofun

theorem Operates.of_alike (h : Operates s crew store d) (halike : Crew.Alike crew crew')
    (hremains : store.Remains store') : Operates s crew' store' d where
  recalls := halike.roster ▸ h.recalls
  statePath := halike.statePath.trans h.statePath
  staffed := halike.roster ▸ h.staffed.of_alike halike
  settings := hremains.settings.trans h.settings
  isOpen := hremains.isOpen.trans h.isOpen
  locate := h.locate
  database := h.database

/-- After a save a collector goes on with the roster that the state file recalls then. -/
theorem Operates.of_sameFolders (h : Operates s crew store d) (hsame : SameFolders d d')
    (hrecalls : StateFile.Recalls s crew'.roster d') (hpath : crew'.statePath = crew.statePath)
    (hstaffed : crew'.Staffed crew'.roster) : Operates s crew' store d' where
  recalls := hrecalls
  statePath := hpath.trans h.statePath
  staffed := hstaffed
  settings := h.settings
  isOpen := h.isOpen
  locate := locate_of_keepsFolders hsame.keepsFolders h.locate
  database := mt (hsame _).1 h.database

theorem Operates.of_save_error (h : Operates s crew store d)
    (hsave : StateFile.save crew.statePath roster trouble d = (.error error, d')) : Operates s crew store d' := by
  rw [h.statePath] at hsave
  exact h.of_sameFolders (StateFile.sameFolders_save h.recalls.locate hsave) (h.recalls.of_save_error hsave) rfl
    h.staffed

theorem Operates.of_save (h : Operates s crew store d)
    (hsave : StateFile.save crew.statePath crew'.roster trouble d = (.ok (), d'))
    (hpath : crew'.statePath = crew.statePath) (hstaffed : crew'.Staffed crew'.roster) : Operates s crew' store d' := by
  rw [h.statePath] at hsave
  exact h.of_sameFolders (StateFile.sameFolders_save h.recalls.locate hsave)
    (StateFile.recalls_of_save h.recalls.locate hsave) hpath hstaffed

theorem Operates.add (h : Operates s crew store d) (name source : String) (trouble : Option Trouble) :
    Operates s (crew.add name source trouble d).2.1 store (crew.add name source trouble d).2.2 := by
  rcases crew.add_cases name source trouble d with
    ⟨error, -, hadd⟩ | ⟨-, ⟨error, d', hsave, hadd⟩ | ⟨d', hsave, hadd⟩⟩
  · rw [hadd]
    exact h
  · rw [hadd]
    exact h.of_save_error hsave
  · rw [hadd]
    exact h.of_save hsave rfl (h.staffed.enlist _ name source)

theorem Operates.remove (h : Operates s crew store d) (name : String) (trouble : Option Trouble) :
    Operates s (crew.remove name trouble d).2.1 store (crew.remove name trouble d).2.2 := by
  rcases Crew.remove_cases h.staffed name trouble d with
    ⟨-, hremove⟩ | ⟨error, d', hsave, hremove⟩ | ⟨number, d', hnumber, hsave, hremove⟩
  · rw [hremove]
    exact h
  · rw [hremove]
    exact h.of_save_error hsave
  · rw [hremove]
    exact h.of_save hsave rfl (h.staffed.release hnumber _)

/-- Nothing is known of a collector that does not run. -/
def InOrder (s : CollectorSettings) (x : Phase × Disk) : Prop :=
  ∀ crew store, x.1 = .running crew store → Operates s crew store x.2

/-- **A collector that has come to run is in order, whatever changes.** -/
theorem InOrder.change {x y : Phase × Disk} (h : InOrder s x) (hchange : Change s x y) : InOrder s y := by
  intro crew store hrunning
  cases hchange with
  | failed hphase =>
    obtain rfl := hrunning
    cases hphase
  | started _ hprepare =>
    obtain ⟨rfl, rfl⟩ := Phase.running.inj hrunning
    exact .of_prepare hprepare
  | worked halike hremains =>
    obtain ⟨rfl, rfl⟩ := Phase.running.inj hrunning
    exact (h _ _ rfl).of_alike halike hremains
  | added name source trouble =>
    obtain ⟨rfl, rfl⟩ := Phase.running.inj hrunning
    exact (h _ _ rfl).add name source trouble
  | removed name trouble =>
    obtain ⟨rfl, rfl⟩ := Phase.running.inj hrunning
    exact (h _ _ rfl).remove name trouble
  | stopped => cases hrunning

theorem inOrder_run (hcapacity : s.inboxCapacity ≤ Inbox.largestCapacity) (w : World) (os : List Occurrence) :
    InOrder s ((run { settings := s } w os).1.phase, (run { settings := s } w os).2.disk) :=
  (leads_run (c := { settings := s }) hcapacity rfl w os).keeps (fun _ _ hchange h => h.change hchange) nofun

end Collector

/-! ### Stopping -/

namespace Worker

/-- A worker that has been told to stop takes its steps to the end. -/
theorem isFinished_settle {w : Worker} (hcancelled : w.cancelled = true) (d : Disk) (store : Store) (supply : Supply) :
    (w.settle d store supply).1.isFinished = true := by
  fun_induction settle w d store supply with
  | case1 w store supply w' store' h ih =>
    obtain ⟨-, -, htold⟩ := badge_eq_iff.1 (badge_of_step h).1
    exact ih (htold.trans hcancelled)
  | case2 w store supply h => exact isFinished_iff.2 (owing_eq_zero_of_step hcancelled h)

/-- **Workers that have been told to stop come to an end.** -/
theorem isFinished_settleAll (d : Disk) (store : Store) (supply : Supply) {workers : List Worker}
    (hcancelled : ∀ w ∈ workers, w.cancelled = true) :
    ∀ w ∈ (settleAll d store supply workers).1, w.isFinished = true := by
  induction workers generalizing store supply with
  | nil => exact nofun
  | cons w rest ih =>
    obtain ⟨hfirst, hrest⟩ := List.forall_mem_cons.1 hcancelled
    exact List.forall_mem_cons.2 ⟨isFinished_settle hfirst d store supply, ih _ _ hrest⟩

/-- A new worker begins to read, if there can be a buffer for a message of the greatest size. -/
theorem openSource_new {maxSize : Nat} (hsize : maxSize ≤ largestBuffer) (log source : String) {d : Disk} {node : Node}
    (hlook : d.look source = .ok node) :
    (new log source maxSize).openSource d = (new log source maxSize).beginReading node := by
  have hroom : (new log source maxSize).maxSize ≤ largestBuffer := Nat.max_le.2 ⟨hsize, by decide⟩
  have hsource : d.look (new log source maxSize).source = .ok node := hlook
  rw [openSource, hsource]
  exact if_pos hroom

end Worker

/-- All workers of a crew that are told to stop come to an end, each with its log and its source. -/
theorem Crew.isFinished_settleAll (c : Crew) (d : Disk) (store : Store) (supply : Supply) {number : Nat} {w : Worker}
    (hw : c.workers[number]? = some w) :
    ∃ w', (c.dismissAll.settleAll d store supply).1.workers[number]? = some w' ∧ w'.log = w.log ∧
      w'.source = w.source ∧ w'.isFinished = true := by
  obtain ⟨halike, -⟩ := c.dismissAll.alike_settleAll d store supply
  have hbadge := congrArg (·[number]?) halike.badges
  simp only [dismissAll, List.map_map, List.getElem?_map, hw, Option.map_some] at hbadge
  obtain ⟨w', hw', hsame⟩ := Option.map_eq_some_iff.1 hbadge
  obtain ⟨hlog, hsource, -⟩ := Worker.badge_eq_iff.1 hsame
  refine ⟨w', hw', hlog, hsource, ?_⟩
  refine Worker.isFinished_settleAll d store supply (fun w hmem => ?_) w' (List.mem_of_getElem? hw')
  obtain ⟨told, -, rfl⟩ := List.mem_map.1 hmem
  rfl

namespace Collector

variable {s : CollectorSettings} {c : Collector} {w : World} {crew last : Crew} {store left : Store} {supply : Supply}
  {strays : Option (Crew × Store)}

/-- What a stop does.  The workers are told to stop and take their steps to the end, and then the store is closed with
what it holds. -/
structure Ends (c : Collector) (w : World) (crew : Crew) (store : Store) (last : Crew) (left : Store)
    (supply : Supply) : Prop where
  /-- The crew and the store when the workers have taken their steps. -/
  settled : crew.dismissAll.settleAll w.disk store w.supply = (last, left, supply)
  /-- Each worker has come to an end. -/
  finished : ∀ (number : Nat) (worker : Worker), crew.workers[number]? = some worker →
    ∃ worker' : Worker, last.workers[number]? = some worker' ∧ worker'.log = worker.log ∧
      worker'.source = worker.source ∧ worker'.isFinished = true
  /-- The store is closed. -/
  closed : (left.close w.disk).1.isOpen = false
  /-- The collector has stopped. -/
  stopped : c.stop w = ({ c with phase := .stopped }, ⟨(left.close w.disk).2, supply⟩)
  /-- What the store held stands in the database. -/
  stored : ∃ t, left.table? = some t ∧
    (c.stop w).2.disk.node? (Path.goal c.settings.store.path) = some (.database (some t))

/-- When the workers have left, the store is closed, and its table comes to stand in the place of the database. -/
theorem Operates.close (h : Operates s crew store w.disk) (hremains : store.Remains left) :
    (left.close w.disk).1.isOpen = false ∧ ∃ t, left.table? = some t ∧
      (left.close w.disk).2 = w.disk.put (Path.goal s.store.path) (.database (some t)) := by
  obtain ⟨t, ht⟩ := Option.isSome_iff_exists.1 (hremains.isOpen.trans h.isOpen)
  have hlocate := h.locate
  rw [← h.settings, ← hremains.settings] at hlocate ⊢
  simp only [Store.close, ht, Disk.place, hlocate]
  exact ⟨rfl, t, rfl, rfl⟩

/-- **A stop ends every worker and closes the store.** -/
theorem Operates.ends (h : Operates s crew store w.disk)
    (hsettled : crew.dismissAll.settleAll w.disk store w.supply = (last, left, supply)) :
    Ends ⟨s, .running crew store, strays⟩ w crew store last left supply := by
  obtain ⟨-, hremains⟩ := crew.dismissAll.alike_settleAll w.disk store w.supply
  have hfinished : ∀ (number : Nat) (worker : Worker), crew.workers[number]? = some worker → _ :=
    fun _ _ => crew.isFinished_settleAll w.disk store w.supply
  rw [hsettled] at hremains hfinished
  have hstop : stop ⟨s, .running crew store, strays⟩ w = (⟨s, .stopped, strays⟩, ⟨(left.close w.disk).2, supply⟩) := by
    simp only [stop, hsettled]
  obtain ⟨hclosed, t, ht, hclose⟩ := h.close hremains
  refine ⟨hsettled, hfinished, hclosed, hstop, t, ht, ?_⟩
  rw [hstop, hclose]
  exact node?_put_self h.database

/-- After a stop the state file recalls the roster. -/
theorem recalls_of_stop (h : Operates s crew store w.disk) :
    StateFile.Recalls s crew.roster (stop ⟨s, .running crew store, strays⟩ w).2.disk := by
  obtain ⟨-, hremains⟩ := crew.dismissAll.alike_settleAll w.disk store w.supply
  obtain ⟨-, t, -, hclose⟩ := h.close hremains
  rw [stop]
  simp only [hclose]
  exact h.recalls.put h.database (some t)

/-! ### Between a stop and the next start -/

variable {r roster : Roster} {trouble : Option Trouble} {error : CollectorError}

/-- The workers of a collector that have not come to an end, also those that a start has left behind. -/
def atWork (c : Collector) : List Worker :=
  let crew := match c.phase with
    | .running crew _ => crew.workers
    | _ => []
  let left := match c.strays with
    | some (crew, _) => crew.workers
    | none => []
  (crew ++ left).filter fun worker => !worker.isFinished

theorem atWork_of_not_started (h : c.isStarted = false) (hstrays : c.strays = none) : c.atWork = [] := by
  obtain ⟨s, phase, strays⟩ := c
  obtain rfl := hstrays
  cases phase with
  | running crew store => cases h
  | idle | stopped => rfl

section Starting

variable (hidle : c.isStarted = false)
include hidle

/-- A start that fails leaves all but the disk, and that but for new folders, if there can be an inbox. -/
theorem start_eq_error (hcapacity : c.settings.inboxCapacity ≤ Inbox.largestCapacity)
    (herror : (c.start trouble w).1 = .error error) :
    ∃ disk, c.start trouble w = (.error error, c, { w with disk }) ∧
      Gains (Path.way c.settings.home ++ Path.way c.settings.store.path) w.disk disk := by
  rcases start_cases hidle trouble w with ⟨_, disk, hprepare, hstart⟩ | ⟨_, _, _, -, hstart, -⟩
  · rw [hstart] at herror
    obtain rfl := Except.error.inj herror
    exact ⟨disk, hstart, gains_of_prepare hprepare⟩
  · rw [hstart hcapacity] at herror
    cases herror

/-- A start that succeeds loads what the state file recalls, and begins with new workers. -/
theorem start_eq_ok (hrecalls : StateFile.Recalls c.settings r w.disk) (hok : (c.start trouble w).1 = .ok ()) :
    ∃ crew store, (c.start trouble w).2.1 = ⟨c.settings, .running crew store, c.strays⟩ ∧ crew.roster = r ∧
      crew.Staffed r ∧ crew.workers = r.entries.map fun log => .new log.1 log.2.source c.settings.maxMessageSize := by
  rcases start_cases hidle trouble w with ⟨_, _, -, hstart⟩ | ⟨roster, store, disk, hprepare, hstart, hbroken⟩
  · rw [hstart] at hok
    cases hok
  · rcases Nat.lt_or_ge Inbox.largestCapacity c.settings.inboxCapacity with hlarge | hcapacity
    · obtain ⟨reason, hbroken⟩ := hbroken hlarge
      rw [hbroken] at hok
      cases hok
    · obtain ⟨made, opened, hopens, -⟩ := opens_of_prepare hprepare
      have hgains := gains_makeFolders w.disk c.settings.home
      rw [hopens.home] at hgains
      obtain rfl := (hrecalls.gains hgains).unique roster hopens.loads
      rw [hstart hcapacity]
      exact ⟨_, store, rfl, (Crew.roster_start _ _ _).1, Crew.staffed_start _ _ _, Crew.workers_start _ _ _⟩

/-- **A start that breaks off leaves a worker for each log behind**, and the collector does not run. -/
theorem start_eq_broken (hlarge : Inbox.largestCapacity < c.settings.inboxCapacity) {store : Store} {disk : Disk}
    (hprepare : prepare c.settings trouble w.disk = (.ok (roster, store), disk)) (hlogs : roster.entries ≠ []) :
    ∃ reason, (c.start trouble w).1 = .error (.broken reason) ∧ (c.start trouble w).2.1.isStarted = false ∧
      (c.start trouble w).2.1.atWork.map (·.log) = roster.keys := by
  rcases start_cases hidle trouble w with ⟨_, _, hfailed, -⟩ | ⟨roster', store', disk', hprepare', -, hbroken⟩
  · cases hprepare.symm.trans hfailed
  · obtain ⟨rfl, rfl⟩ : roster = roster' ∧ store = store' :=
      Prod.mk.inj (Except.ok.inj (Prod.mk.inj (hprepare.symm.trans hprepare')).1)
    obtain ⟨reason, hstart⟩ := hbroken hlarge
    obtain ⟨s, phase, strays⟩ := c
    have hworkers := Crew.workers_start s.statePath s.maxMessageSize roster
    -- none of them has taken a step yet
    have hbusy : (Crew.start s.statePath s.maxMessageSize roster).workers.all Worker.isFinished = false := by
      rw [hworkers, List.all_map]
      obtain ⟨log, rest, hentries⟩ := List.exists_cons_of_ne_nil hlogs
      rw [hentries]
      rfl
    have hatWork : (Crew.start s.statePath s.maxMessageSize roster).workers.filter (fun worker => !worker.isFinished) =
        (Crew.start s.statePath s.maxMessageSize roster).workers := by
      rw [hworkers]
      refine List.filter_eq_self.2 fun worker hworker => ?_
      obtain ⟨log, -, rfl⟩ := List.mem_map.1 hworker
      rfl
    rw [hstart, leave, hbusy]
    cases phase with
    | running crew store => cases hidle
    | idle | stopped =>
      refine ⟨reason, rfl, rfl, ?_⟩
      show ((Crew.start s.statePath s.maxMessageSize roster).workers.filter _).map _ = _
      rw [hatWork, hworkers, List.map_map]
      rfl

end Starting

/-- **While a collector does not run, the state file recalls what it recalled**, and the collector stays what it is. -/
theorem recalls_run (hcapacity : c.settings.inboxCapacity ≤ Inbox.largestCapacity) (hstrays : c.strays = none)
    (hrecalls : StateFile.Recalls c.settings r w.disk) (rest : List Occurrence)
    (hidle : ∀ k, (c.run w (rest.take k)).1.isStarted = false) :
    (c.run w rest).1 = c ∧ StateFile.Recalls c.settings r (c.run w rest).2.disk := by
  induction rest generalizing w with
  | nil => exact ⟨rfl, hrecalls⟩
  | cons o rest ih =>
    have hnow : c.isStarted = false := hidle 0
    have hrest : ∀ k, ((c.undergo w o).1.run (c.undergo w o).2 (rest.take k)).1.isStarted = false :=
      fun k => hidle (k + 1)
    rw [run]
    rcases undergo_of_not_started hnow hstrays w o with hsame | ⟨trouble, rfl⟩
    · rw [hsame] at hrest ⊢
      exact ih hrecalls hrest
    · rcases start_cases hnow trouble w with ⟨error, disk, hprepare, hstart⟩ | ⟨_, _, _, -, hstart, -⟩
      · have hundergo : c.undergo w (.command .start trouble) = (c, { w with disk }) := by
          rw [undergo, obey, hstart]
        rw [hundergo] at hrest ⊢
        exact ih (hrecalls.gains (gains_of_prepare hprepare)) hrest
      · -- a start that succeeds would leave it running
        have hrunning : (c.undergo w (.command .start trouble)).1.isStarted = false := hrest 0
        rw [undergo, obey, hstart hcapacity] at hrunning
        cases hrunning

/-! ### Operations -/

section Operations

variable {α β : Type}

theorem map_eq_error_iff {f : α → β} {answer : Except CollectorError α} :
    answer.map f = .error error ↔ answer = .error error := by
  cases answer with
  | error other => exact ⟨fun h => congrArg _ (Except.error.inj h), fun h => congrArg _ (Except.error.inj h)⟩
  | ok a => exact ⟨nofun, nofun⟩

theorem ok_ne_notStarted (a : α) : (.ok a : Except CollectorError α) ≠ .error .notStarted := by
  intro h
  cases h

/-- What fails in the store is no lack of one. -/
theorem mapError_store_ne_notStarted (result : Except StoreError α) :
    result.mapError CollectorError.store ≠ .error .notStarted := by
  cases result with
  | error error =>
    intro h
    cases h
  | ok a => exact ok_ne_notStarted a

theorem bind_ne_notStarted {first : Except CollectorError α} {next : α → Except CollectorError β}
    (h : first ≠ .error .notStarted) (hnext : ∀ a, next a ≠ .error .notStarted) :
    (first >>= next) ≠ .error .notStarted := by
  cases first with
  | error error => exact fun herror => h (congrArg _ (Except.error.inj herror))
  | ok a => exact hnext a

theorem save_ne_notStarted (path : String) (r : Roster) (trouble : Option Trouble) (d : Disk) :
    (StateFile.save path r trouble d).1 ≠ .error .notStarted := by
  rw [StateFile.save]
  rcases d.performAll trouble (StateFile.saveOps path r) with ⟨error | _, _⟩
  · intro h
    cases h
  · exact ok_ne_notStarted ()

theorem checkAll_of_accepted {logs : List String} (h : ¬ c.Objectionable (.clear logs)) :
    LogName.checkAll logs = .ok () := by
  refine LogName.checkAll_eq_ok_iff.2 fun name hname => ?_
  by_contra hinvalid
  exact h ⟨name, hname, hinvalid⟩

/-- What is asked of a collector that does not run is answered so, once the arguments have been accepted. -/
theorem obey_eq_notStarted (hphase : c.isStarted = false) {command : Command} (hoperation : command.isOperation = true)
    (haccepted : ¬ c.Objectionable command) (trouble : Option Trouble) (w : World) :
    (c.obey command trouble w).1 = .error .notStarted := by
  have hservice : c.service = .error .notStarted := by
    obtain ⟨s, phase⟩ := c
    cases phase with
    | running crew store => cases hphase
    | idle | stopped => rfl
  cases command with
  | start => cases hoperation
  | stop => cases hoperation
  | addLog name source => simp only [obey, addLog, hservice, map_eq_error_iff]
  | removeLog name => simp only [obey, removeLog, withdraw, hservice, map_eq_error_iff]
  | describe names =>
    obtain ⟨_, hnames⟩ := (checks_checkAll names).passes haccepted
    rw [obey, map_eq_error_iff, describe, hnames]
    simp only [bind, Except.bind, hservice]
  | activeWorkers =>
    rw [obey, map_eq_error_iff, activeWorkers, hservice]
    rfl
  | addEvent log timestamp message =>
    obtain ⟨_, hevent⟩ := (checks_checkEvent log timestamp).passes haccepted
    simp only [obey, addEvent, hevent, hservice, map_eq_error_iff]
  | getEvents request =>
    obtain ⟨_, hrequest⟩ := (checks_checkRequest c request).passes haccepted
    rw [obey, map_eq_error_iff, getEvents, hrequest]
    simp only [bind, Except.bind, hservice]
  | clear logs =>
    have hlogs := checkAll_of_accepted haccepted
    simp only [obey, clear, hlogs, changeStore, hservice, map_eq_error_iff]
  | evict => simp only [obey, evict, changeStore, hservice, map_eq_error_iff]

theorem remove_ne_notStarted (crew : Crew) (name : String) (trouble : Option Trouble) (d : Disk) :
    (crew.remove name trouble d).1 ≠ .error .notStarted := by
  have hsave := save_ne_notStarted crew.statePath (crew.roster.erase name) trouble d
  simp only [Crew.remove]
  split
  · exact ok_ne_notStarted _
  · split
    · rename_i herror
      rw [herror] at hsave
      exact fun h => hsave (congrArg _ (Except.error.inj h))
    · split <;> exact ok_ne_notStarted _

/-- A collector that runs never answers so. -/
theorem obey_running_ne_notStarted {command : Command}
    (haccepted : ¬ Objectionable ⟨s, .running crew store, strays⟩ command) (trouble : Option Trouble) (w : World) :
    (obey ⟨s, .running crew store, strays⟩ command trouble w).1 ≠ .error .notStarted := by
  cases command with
  | start =>
    intro h
    cases h
  | stop => exact ok_ne_notStarted _
  | addLog name source =>
    have hobjection := mt (objectionable_addLog_iff rfl name source).2 haccepted
    have hsave := save_ne_notStarted crew.statePath (crew.roster.insert name ⟨source⟩) trouble w.disk
    simp only [obey, addLog, service, ne_eq, map_eq_error_iff]
    rcases crew.add_cases name source trouble w.disk with
      ⟨_, herror, -⟩ | ⟨-, ⟨_, _, herror, hadd⟩ | ⟨_, -, hadd⟩⟩
    · exact absurd (by simp [herror]) hobjection
    · rw [herror] at hsave
      rwa [hadd]
    · rw [hadd]
      exact ok_ne_notStarted _
  | removeLog name =>
    have hremove := remove_ne_notStarted crew name trouble w.disk
    simp only [obey, removeLog, withdraw, service, ne_eq, map_eq_error_iff]
    rcases hresult : crew.remove name trouble w.disk with ⟨error | number | number, _, _⟩
    · rw [hresult] at hremove
      exact fun h => hremove (congrArg _ (Except.error.inj h))
    · exact ok_ne_notStarted _
    · exact ok_ne_notStarted _
  | describe names =>
    obtain ⟨_, hnames⟩ := (checks_checkAll names).passes haccepted
    rw [obey, ne_eq, map_eq_error_iff, describe, hnames]
    exact mapError_store_ne_notStarted _
  | activeWorkers => exact ok_ne_notStarted _
  | addEvent log timestamp message =>
    obtain ⟨_, hevent⟩ := (checks_checkEvent log timestamp).passes haccepted
    simp only [obey, addEvent, hevent, service, ne_eq, map_eq_error_iff]
    exact mapError_store_ne_notStarted _
  | getEvents request =>
    obtain ⟨_, hrequest⟩ := (checks_checkRequest _ request).passes haccepted
    rw [obey, ne_eq, map_eq_error_iff, getEvents, hrequest]
    refine bind_ne_notStarted (ok_ne_notStarted _) fun search => ?_
    refine bind_ne_notStarted (ok_ne_notStarted (crew, store)) fun _ => ?_
    exact bind_ne_notStarted (mapError_store_ne_notStarted _) fun _ => mapError_store_ne_notStarted _
  | clear logs =>
    have hlogs := checkAll_of_accepted haccepted
    simp only [obey, clear, hlogs, changeStore, service, ne_eq, map_eq_error_iff]
    exact mapError_store_ne_notStarted _
  | evict =>
    simp only [obey, evict, changeStore, service, ne_eq, map_eq_error_iff]
    exact mapError_store_ne_notStarted _

/-- **An operation is refused for that reason just where the collector does not run.** -/
theorem obey_eq_notStarted_iff (c : Collector) {command : Command} (hoperation : command.isOperation = true)
    (haccepted : ¬ c.Objectionable command) (trouble : Option Trouble) (w : World) :
    (c.obey command trouble w).1 = .error .notStarted ↔ c.isStarted = false := by
  refine ⟨fun h => ?_, fun h => obey_eq_notStarted h hoperation haccepted trouble w⟩
  obtain ⟨s, phase⟩ := c
  cases phase with
  | running crew store => exact absurd h (obey_running_ne_notStarted haccepted trouble w)
  | idle | stopped => rfl

end Operations

/-! ### The life of a collector -/

/-- What is known of every moment in the life of a collector. -/
structure Lives (c : Collector) (w : World) : Prop where
  /-- An operation with acceptable arguments is answered by `notStarted` just where the collector does not run. -/
  operations : ∀ (command : Command) (trouble : Option Trouble), command.isOperation = true →
    ¬ c.Objectionable command → ((c.obey command trouble w).1 = .error .notStarted ↔ c.isStarted = false)
  /-- A collector that runs is not started again. -/
  started : c.isStarted = true → ∀ trouble, c.start trouble w = (.error .alreadyStarted, c, w)
  /-- A start that fails leaves the collector as it was, with no worker at work, and all files and databases. -/
  failed : c.isStarted = false → ∀ trouble error, (c.start trouble w).1 = .error error →
    ∃ disk, (c.start trouble w).2 = (c, { w with disk }) ∧ c.atWork = [] ∧
      ∀ location node, node ≠ .folder → (disk.node? location = some node ↔ w.disk.node? location = some node)
  /-- To stop a collector that does not run changes nothing. -/
  idle : c.isStarted = false → c.stop w = (c, w)
  /-- To stop one that runs ends every worker and closes the store. -/
  ends : ∀ crew store, c.phase = .running crew store → ∃ last left supply, Ends c w crew store last left supply
  /-- The first start that succeeds after a stop brings the same logs back, each with one new worker, whatever has been
  tried in between.  If there can be a buffer for a message of the greatest size, each worker begins to read whatever
  stands at its source. -/
  restarts : ∀ crew store, c.phase = .running crew store → ∀ (rest : List Occurrence) (trouble : Option Trouble)
    (c' : Collector) (w' : World), (c.stop w).1.run (c.stop w).2 rest = (c', w') →
    (∀ k, ((c.stop w).1.run (c.stop w).2 (rest.take k)).1.isStarted = false) → (c'.start trouble w').1 = .ok () →
      ∃ crew' store', (c'.start trouble w').2.1.phase = .running crew' store' ∧ crew'.roster = crew.roster ∧
        crew'.Staffed crew.roster ∧
        crew'.workers = crew.roster.entries.map (fun log => .new log.1 log.2.source c.settings.maxMessageSize) ∧
        (c.settings.maxMessageSize ≤ Worker.largestBuffer → ∀ worker ∈ crew'.workers, ∀ (d : Disk) (node : Node),
          d.look worker.source = .ok node → worker.openSource d = worker.beginReading node)

theorem InOrder.lives (hcapacity : c.settings.inboxCapacity ≤ Inbox.largestCapacity) (hstrays : c.strays = none)
    (h : InOrder c.settings (c.phase, w.disk)) : Lives c w where
  operations command trouble hoperation haccepted := c.obey_eq_notStarted_iff hoperation haccepted trouble w
  started hstarted trouble := by rw [start, if_pos hstarted]
  failed hidle trouble error herror := by
    obtain ⟨disk, hstart, hgains⟩ := start_eq_error hidle hcapacity herror
    exact ⟨disk, congrArg Prod.snd hstart, atWork_of_not_started hidle hstrays, fun _ _ => hgains.node?_eq_some_iff⟩
  idle hidle := by
    obtain ⟨s, phase, strays⟩ := c
    cases phase with
    | running crew store => cases hidle
    | idle | stopped => rfl
  ends crew store hphase := by
    obtain ⟨s, phase, strays⟩ := c
    obtain rfl := hphase
    exact ⟨_, _, _, (h crew store rfl).ends rfl⟩
  restarts crew store hphase rest trouble c' w' hrun hidle hok := by
    obtain ⟨s, phase, left⟩ := c
    obtain rfl := hphase
    have hrecalls : StateFile.Recalls (stop ⟨s, .running crew store, left⟩ w).1.settings crew.roster
        (stop ⟨s, .running crew store, left⟩ w).2.disk := recalls_of_stop (h crew store rfl)
    have hstopped : (stop ⟨s, .running crew store, left⟩ w).1.isStarted = false := hidle 0
    obtain ⟨hsame, hleft⟩ :=
      recalls_run (c := (stop ⟨s, .running crew store, left⟩ w).1) hcapacity hstrays hrecalls rest hidle
    rw [hrun] at hsame hleft
    obtain rfl := hsame
    obtain ⟨crew', store', hstart, hroster, hstaffed, hworkers⟩ := start_eq_ok hstopped hleft hok
    refine ⟨crew', store', by rw [hstart], hroster, hstaffed, hworkers, fun hsize worker hworker d node hlook => ?_⟩
    rw [hworkers] at hworker
    obtain ⟨log, -, rfl⟩ := List.mem_map.1 hworker
    exact Worker.openSource_new hsize _ _ hlook

/-- **How a collector lives.**

A collector whose inbox can be made begins with any disk, and then whatever may happen to it happens: it is started and
stopped, operations are carried out, workers take steps and bytes arrive, and at any of that the device may fail.  After
that, an operation with acceptable arguments is answered by `notStarted` just where the collector does not run.  A start
is refused without a trace where it runs; and where a start fails, no worker is at work, and the collector, all files and
all databases are what they were.  A stop does nothing where it does not run; else each worker comes to an end, and the
store is closed with its table on the disk.  And when a start succeeds after a stop, however many have failed in between,
the logs are those from before the stop, each with one new worker. -/
theorem lifecycle (s : CollectorSettings) (hcapacity : s.inboxCapacity ≤ Inbox.largestCapacity) (w : World)
    (os : List Occurrence) : Lives (run { settings := s } w os).1 (run { settings := s } w os).2 := by
  have hleads := leads_run (c := { settings := s }) hcapacity rfl w os
  have hsettings : (run { settings := s } w os).1.settings = s := hleads.settings
  refine InOrder.lives ?_ hleads.strays ?_
  · rw [hsettings]
    exact hcapacity
  · rw [hsettings]
    exact inOrder_run hcapacity w os

/-- A log is added, the collector is stopped, a first start fails when the store is to be opened, and a second one
succeeds. -/
theorem lifecycle_restarted :
    let w : World := ⟨.blank, ⟨fun _ => ⟨.ofNanos 0, .error "no entropy"⟩, 0⟩⟩
    let before := run { settings := .inHome "home" } w [.command .start none, .command (.addLog "a" "x") none]
    let between := (before.1.stop before.2).1.run (before.1.stop before.2).2
      [.command .start (some ⟨2, 0, "no space"⟩)]
    between.1.isStarted = false ∧ (between.1.start none between.2).1 = .ok () ∧
      ∃ crew store, (between.1.start none between.2).2.1.phase = .running crew store ∧ crew.roster.keys = ["a"] ∧
        crew.workers = [.new "a" "x" (CollectorSettings.inHome "home").maxMessageSize] := by
  intro w before between
  have hlives : Lives before.1 before.2 := lifecycle (.inHome "home") (by decide) w _
  have hservice : before.1.service.map (fun p => p.1.roster.entries) = .ok [("a", ⟨"x"⟩)] := by decide +kernel
  have hstopped : (before.1.stop before.2).1.isStarted = false := by decide +kernel
  have hfailed : between.1.isStarted = false := by decide +kernel
  have hok : (between.1.start none between.2).1 = .ok () := by decide +kernel
  have hsettings : before.1.settings = .inHome "home" :=
    (leads_run (c := { settings := .inHome "home" }) (by decide) rfl w _).settings
  refine ⟨hfailed, hok, ?_⟩
  cases hphase : before.1.phase with
  | running crew store =>
    rw [service, hphase] at hservice
    have hentries : crew.roster.entries = [("a", ⟨"x"⟩)] := Except.ok.inj hservice
    obtain ⟨crew', store', hrunning, hroster, -, hworkers, -⟩ :=
      hlives.restarts crew store hphase [.command .start (some ⟨2, 0, "no space"⟩)] none between.1 between.2 rfl
        (fun k => by
          cases k with
          | zero => exact hstopped
          | succ k =>
            rw [List.take_succ_cons, List.take_nil]
            exact hfailed)
        hok
    refine ⟨crew', store', hrunning, ?_, ?_⟩
    · rw [hroster, SortedMap.keys, hentries]
      rfl
    · rw [hworkers, hentries, hsettings]
      rfl
  | idle | stopped =>
    rw [service, hphase] at hservice
    cases hservice

/-- A log is registered that reads from a pipe.  Where there can be no inbox of the capacity that is set, a start breaks
off, and the worker of the log is at work although the collector does not run; the next start finds the database open.
Where there can be no buffer, a start succeeds, but then the log has no worker any more. -/
theorem not_lifecycle_of_large :
    let d : Disk := ((Disk.blank.put ["home"] .folder).put ["home", "logd.json"]
      (.file (StateFile.document (.ofEntries [("a", ⟨"p"⟩)])))).put ["p"] .pipe
    let w : World := ⟨d, ⟨fun _ => ⟨.ofNanos 0, .error "no entropy"⟩, 0⟩⟩
    let inbox : CollectorSettings := { CollectorSettings.inHome "home" with inboxCapacity := Inbox.largestCapacity + 1 }
    let broken := run { settings := inbox } w [.command .start none, .work 0]
    let buffer : CollectorSettings :=
      { CollectorSettings.inHome "home" with maxMessageSize := Worker.largestBuffer + 1 }
    let restarted := run { settings := buffer } w
      [.command .start none, .command .stop none, .command .start none, .work 0]
    ((start { settings := inbox } none w).1 ≠ .ok () ∧ broken.1.isStarted = false ∧
        broken.1.atWork.map (·.log) = ["a"] ∧ (broken.1.start none broken.2).1 ≠ .ok ()) ∧
      restarted.1.isStarted = true ∧ restarted.1.activeWorkers = .ok [] := by
  decide +kernel

end Collector

end Logbook
