import Logbook.Collector.Run
import Logbook.Proofs.Crew
import Mathlib.Logic.Relation

/-!
# What can happen to a collector

A collector that does not run can only be started, and that may fail.  While it runs, logs are added and removed, and
the workers and the clients change what is in the store, until it is stopped.  So whatever is to hold in all runs has to
be looked at for these few changes only, with the disk before and after each of them.  What is drawn for identifiers
plays no part in it.

That is so where there can be an inbox of the capacity that is set.  Where there cannot, no start succeeds.

## Main definitions

* `Collector.Opens` — a start that succeeds.
* `Collector.Change` — a single change of what a collector is doing and of the disk.
* `Collector.Leads` — changes one after another.

## Main results

* `Collector.gains_of_prepare`, `Collector.opens_of_prepare` — what a start does to the disk.
* `Collector.start_cases` — how a start ends.
* `Collector.undergo_idle_cases`, `Collector.undergo_of_not_started` — to a collector that does not run, nothing happens
  but a start.
* `Collector.leads_undergo`, `Collector.leads_run` — **whatever happens comes to such changes.**
* `Collector.Leads.keeps` — what each change keeps is kept.
* `Collector.not_started_run` — a collector never runs where its inbox cannot be made.
* `Collector.locks_run`, `Collector.start_of_strays` — what is left behind has the database open.
-/

namespace Logbook.Collector

open Disk

/-! ### Starting -/

/-- A start that succeeds makes the home folder, loads the roster, makes the folders for the database and takes its
table off where no folder stands. -/
structure Opens (s : CollectorSettings) (d made opened : Disk) (roster : Roster) (store : Store) : Prop where
  /-- The home folder has been made. -/
  home : d.makeFolders s.home = (.ok (), made)
  /-- The roster has been loaded. -/
  loads : StateFile.load s.statePath made = .ok roster
  /-- The folders for the database have been made. -/
  folders : Gains (Path.way s.store.path) made opened
  /-- The database can be found. -/
  locate : opened.locate s.store.path = .ok (Path.goal s.store.path)
  /-- No folder stands in its place. -/
  database : opened.node? (Path.goal s.store.path) ≠ some .folder
  /-- No store has it open. -/
  free : opened.node? (Path.goal s.store.path) ≠ some (.database none)
  /-- The store keeps to the settings. -/
  settings : store.settings = s.store
  /-- It is open. -/
  isOpen : store.isOpen = true

section Starting

variable {s : CollectorSettings} {trouble : Option Trouble} {error : CollectorError} {roster : Roster} {store : Store}
  {d d' made : Disk}

/-- A start gets as far as the home folder, or it goes on from there. -/
theorem prepare_cases (s : CollectorSettings) (trouble : Option Trouble) (d : Disk) :
    ∃ made, Gains (Path.way s.home) d made ∧
      ((∃ error, prepare s trouble d = (.error error, made)) ∨
        d.makeFolders s.home = (.ok (), made) ∧ prepare s trouble d = loadAndOpen s made) := by
  rcases performAll_cons_cases d trouble (.makeFolders s.home) [] with
    ⟨done, reason, heq⟩ | ⟨made, hmade, heq⟩ | ⟨error, made, hmade, heq⟩
  · refine ⟨_, gains_makeFolders_partly d done s.home, Or.inl ⟨.io (DiskError.device reason).message, ?_⟩⟩
    rw [prepare, heq]
  all_goals
    have hgains := gains_makeFolders d s.home
    rw [perform] at hmade
    rw [hmade] at hgains
    refine ⟨made, hgains, ?_⟩
    rw [prepare, heq]
  · rw [performAll]
    simp only []
    -- trouble may come to the loading or to the store instead
    split
    · exact Or.inl ⟨_, rfl⟩
    · exact Or.inl ⟨_, rfl⟩
    · exact Or.inr ⟨hmade, rfl⟩
  · exact Or.inl ⟨_, rfl⟩

/-- The roster is loaded before the folders for the database are made. -/
theorem loadAndOpen_cases (s : CollectorSettings) (d : Disk) :
    ∃ opened, Gains (Path.way s.store.path) d opened ∧
      ((∃ error, loadAndOpen s d = (.error error, opened)) ∨
        ∃ roster t, StateFile.load s.statePath d = .ok roster ∧
          opened.locate s.store.path = .ok (Path.goal s.store.path) ∧
          opened.node? (Path.goal s.store.path) ≠ some .folder ∧
          opened.node? (Path.goal s.store.path) ≠ some (.database none) ∧
          loadAndOpen s d = (.ok (roster, { settings := s.store, table? := some t }),
            opened.put (Path.goal s.store.path) (.database none))) := by
  unfold loadAndOpen
  cases hload : StateFile.load s.statePath d with
  | error error => exact ⟨d, .refl _ d, Or.inl ⟨error, rfl⟩⟩
  | ok roster =>
    obtain ⟨opened, hfolders, ⟨error, hopen⟩ | ⟨t, hlocate, hno, hfree, hopen⟩⟩ := Store.open_cases s.store d
    · exact ⟨opened, hfolders, Or.inl ⟨.store error, by simp only [hopen]⟩⟩
    · exact ⟨opened, hfolders, Or.inr ⟨roster, t, rfl, hlocate, hno, hfree, by simp only [hopen]⟩⟩

/-- A start that fails leaves no more than new folders. -/
theorem gains_of_prepare (h : prepare s trouble d = (.error error, d')) :
    Gains (Path.way s.home ++ Path.way s.store.path) d d' := by
  obtain ⟨made, hgains, ⟨_, hprepare⟩ | ⟨-, hprepare⟩⟩ := prepare_cases s trouble d
  · obtain ⟨-, rfl⟩ := Prod.mk.inj (h.symm.trans hprepare)
    exact hgains.mono (List.subset_append_left _ _)
  · obtain ⟨opened, hfolders, ⟨_, hload⟩ | ⟨_, _, -, -, -, -, hload⟩⟩ := loadAndOpen_cases s made
    · obtain ⟨-, rfl⟩ := Prod.mk.inj ((h.symm.trans hprepare).trans hload)
      exact hgains.trans hfolders
    · cases (h.symm.trans hprepare).trans hload

theorem opens_of_prepare (h : prepare s trouble d = (.ok (roster, store), d')) :
    ∃ made opened, Opens s d made opened roster store ∧
      d' = opened.put (Path.goal s.store.path) (.database none) := by
  obtain ⟨made, -, ⟨_, hprepare⟩ | ⟨hmade, hprepare⟩⟩ := prepare_cases s trouble d
  · cases h.symm.trans hprepare
  · obtain ⟨opened, hfolders, ⟨_, hload⟩ | ⟨_, _, hroster, hlocate, hno, hfree, hload⟩⟩ := loadAndOpen_cases s made
    · cases (h.symm.trans hprepare).trans hload
    · obtain ⟨hresult, rfl⟩ := Prod.mk.inj ((h.symm.trans hprepare).trans hload)
      obtain ⟨rfl, rfl⟩ := Prod.mk.inj (Except.ok.inj hresult)
      exact ⟨made, opened, ⟨hmade, hroster, hfolders, hlocate, hno, hfree, rfl, rfl⟩, rfl⟩

end Starting

/-! ### Changes -/

/-- A single change of what a collector is doing and of the disk. -/
inductive Change (s : CollectorSettings) : Phase × Disk → Phase × Disk → Prop
  /-- A start fails. -/
  | failed {phase : Phase} {trouble : Option Trouble} {error : CollectorError} {d d' : Disk}
    (hphase : isStarted { settings := s, phase } = false) (h : prepare s trouble d = (.error error, d')) :
    Change s (phase, d) (phase, d')
  /-- A start succeeds. -/
  | started {phase : Phase} {trouble : Option Trouble} {roster : Roster} {store : Store} {d d' : Disk}
    (hphase : isStarted { settings := s, phase } = false) (h : prepare s trouble d = (.ok (roster, store), d')) :
    Change s (phase, d) (.running (Crew.start s.statePath s.maxMessageSize roster) store, d')
  /-- The workers go on, or what is in the store is changed. -/
  | worked {crew crew' : Crew} {store store' : Store} {d : Disk} (halike : Crew.Alike crew crew')
    (hremains : store.Remains store') : Change s (.running crew store, d) (.running crew' store', d)
  /-- A log is added, which may fail. -/
  | added {crew : Crew} {store : Store} {d : Disk} (name source : String) (trouble : Option Trouble) :
    Change s (.running crew store, d)
      (.running (crew.add name source trouble d).2.1 store, (crew.add name source trouble d).2.2)
  /-- A log is withdrawn, which may fail. -/
  | removed {crew : Crew} {store : Store} {d : Disk} (name : String) (trouble : Option Trouble) :
    Change s (.running crew store, d)
      (.running (crew.remove name trouble d).2.1 store, (crew.remove name trouble d).2.2)
  /-- The workers finish, and the store is closed. -/
  | stopped {crew : Crew} {store store' : Store} {d : Disk} (hremains : store.Remains store') :
    Change s (.running crew store, d) (.stopped, (store'.close d).2)

/-- A collector and the disk come to be what they are in the end by changes one after another. -/
structure Leads (c : Collector) (w : World) (c' : Collector) (w' : World) : Prop where
  /-- The settings are never changed. -/
  settings : c'.settings = c.settings
  /-- Nothing is left behind. -/
  strays : c'.strays = c.strays
  /-- The changes. -/
  changes : Relation.ReflTransGen (Change c.settings) (c.phase, w.disk) (c'.phase, w'.disk)

variable {c c' c'' : Collector} {w w' w'' : World} {s : CollectorSettings} {strays : Option (Crew × Store)}

theorem Leads.refl (c : Collector) (w : World) : Leads c w c w := ⟨rfl, rfl, .refl⟩

theorem Leads.trans (h : Leads c w c' w') (h' : Leads c' w' c'' w'') : Leads c w c'' w'' :=
  ⟨h'.settings.trans h.settings, h'.strays.trans h.strays, h.changes.trans (h.settings ▸ h'.changes)⟩

theorem Leads.of_change {phase phase' : Phase} (h : Change s (phase, w.disk) (phase', w'.disk)) :
    Leads ⟨s, phase, strays⟩ w ⟨s, phase', strays⟩ w' := ⟨rfl, rfl, .single h⟩

/-- **What each change keeps is kept.** -/
theorem Leads.keeps {P : Phase × Disk → Prop} (h : Leads c w c' w')
    (hchange : ∀ x y, Change c.settings x y → P x → P y) (hP : P (c.phase, w.disk)) : P (c'.phase, w'.disk) := by
  have hchanges := h.changes
  generalize (c'.phase, w'.disk) = y at hchanges ⊢
  induction hchanges with
  | refl => exact hP
  | tail _ hlast ih => exact hchange _ _ hlast ih

/-! ### Single occurrences -/

@[simp] theorem leave_settings (c : Collector) (crew : Crew) (store : Store) (w : World) :
    (c.leave crew store w).1.settings = c.settings := by
  rw [leave]
  split <;> rfl

@[simp] theorem leave_isStarted (c : Collector) (crew : Crew) (store : Store) (w : World) :
    (c.leave crew store w).1.isStarted = c.isStarted := by
  rw [leave]
  split <;> rfl

/-- To a collector that does not run nothing happens but a start, and what the workers do that were left behind. -/
theorem undergo_idle_cases (h : c.isStarted = false) (w : World) (o : Occurrence) :
    c.undergo w o = (c, w) ∨ (∃ trouble, o = .command .start trouble) ∨
      ∃ crew store, c.strays = some (crew, store) ∧
        ((∃ crew' store' supply, c.undergo w o = c.leave crew' store' { w with supply }) ∨
          ∃ crew', c.undergo w o = ({ c with strays := some (crew', store) }, w)) := by
  obtain ⟨s, phase, strays⟩ := c
  cases phase with
  | running crew store => cases h
  | idle | stopped =>
    cases o with
    | command command trouble =>
      cases command with
      | start => exact Or.inr (Or.inl ⟨trouble, rfl⟩)
      | addEvent log timestamp message =>
        -- the event is looked at first, but in vain
        refine Or.inl ?_
        rw [undergo, obey, addEvent]
        cases checkEvent log timestamp <;> rfl
      | clear logs =>
        refine Or.inl ?_
        rw [undergo, obey, clear]
        cases LogName.checkAll logs <;> rfl
      | _ => exact Or.inl rfl
    | withdrawal => exact Or.inl rfl
    | work number =>
      rcases strays with _ | ⟨crew, store⟩
      · exact Or.inl rfl
      · exact Or.inr (Or.inr ⟨crew, store, rfl, Or.inl ⟨_, _, _, rfl⟩⟩)
    | arrival path bytes =>
      rcases strays with _ | ⟨crew, store⟩
      · exact Or.inl rfl
      · exact Or.inr (Or.inr ⟨crew, store, rfl, Or.inr ⟨_, rfl⟩⟩)

/-- **To a collector that does not run and has left nothing behind, nothing happens but a start.** -/
theorem undergo_of_not_started (h : c.isStarted = false) (hstrays : c.strays = none) (w : World) (o : Occurrence) :
    c.undergo w o = (c, w) ∨ ∃ trouble, o = .command .start trouble := by
  rcases undergo_idle_cases h w o with hsame | hstart | ⟨_, _, hsome, -⟩
  · exact Or.inl hsame
  · exact Or.inr hstart
  · cases hstrays.symm.trans hsome

/-- A start gets as far as the workers, or it fails and the collector stays as it is. -/
theorem start_cases (h : c.isStarted = false) (trouble : Option Trouble) (w : World) :
    (∃ error d', prepare c.settings trouble w.disk = (.error error, d') ∧
        c.start trouble w = (.error error, c, { w with disk := d' })) ∨
      ∃ roster store d', prepare c.settings trouble w.disk = (.ok (roster, store), d') ∧
        (c.settings.inboxCapacity ≤ Inbox.largestCapacity → c.start trouble w = (.ok (),
          ⟨c.settings, .running (Crew.start c.settings.statePath c.settings.maxMessageSize roster) store, c.strays⟩,
          { w with disk := d' })) ∧
        (Inbox.largestCapacity < c.settings.inboxCapacity → ∃ reason, c.start trouble w = (.error (.broken reason),
          c.leave (Crew.start c.settings.statePath c.settings.maxMessageSize roster) store { w with disk := d' })) := by
  rw [start, h]
  rcases hprepare : prepare c.settings trouble w.disk with ⟨error | ⟨roster, store⟩, d'⟩
  · exact Or.inl ⟨error, d', rfl, by simp only []; rfl⟩
  · refine Or.inr ⟨roster, store, d', rfl, fun hcapacity => ?_, fun hcapacity => ?_⟩
    · simp only [if_pos hcapacity]
      rfl
    · exact ⟨_, by simp only [if_neg (Nat.not_le.2 hcapacity)]; rfl⟩

theorem leads_start (h : c.isStarted = false) (hcapacity : c.settings.inboxCapacity ≤ Inbox.largestCapacity)
    (trouble : Option Trouble) (w : World) : Leads c w (c.start trouble w).2.1 (c.start trouble w).2.2 := by
  obtain ⟨s, phase, strays⟩ := c
  rcases start_cases h trouble w with ⟨error, d', hprepare, hstart⟩ | ⟨roster, store, d', hprepare, hstart, -⟩
  · rw [hstart]
    exact .of_change (.failed h hprepare)
  · rw [hstart hcapacity]
    exact .of_change (.started h hprepare)

variable {crew crew' : Crew} {store store' : Store}

/-- What the workers or the clients of a collector do to it. -/
theorem leads_worked (halike : Crew.Alike crew crew') (hremains : store.Remains store') {d : Disk}
    (supply supply' : Supply) :
    Leads ⟨s, .running crew store, strays⟩ ⟨d, supply⟩ ⟨s, .running crew' store', strays⟩ ⟨d, supply'⟩ :=
  .of_change (.worked halike hremains)

theorem leads_changeStore {α : Type} {change : Store → Except StoreError α × Store}
    (hchange : ∀ store : Store, store.Remains (change store).2) (w : World) :
    Leads ⟨s, .running crew store, strays⟩ w (changeStore ⟨s, .running crew store, strays⟩ change).2 w :=
  leads_worked (.refl crew) (hchange store) w.supply w.supply

theorem leads_withdraw (name : String) (trouble : Option Trouble) (w : World) :
    Leads ⟨s, .running crew store, strays⟩ w (withdraw ⟨s, .running crew store, strays⟩ name trouble w).2.1
      (withdraw ⟨s, .running crew store, strays⟩ name trouble w).2.2 :=
  .of_change (.removed name trouble)

/-- A log is withdrawn, and then its worker finishes. -/
theorem leads_removeLog (name : String) (trouble : Option Trouble) (w : World) :
    Leads ⟨s, .running crew store, strays⟩ w (removeLog ⟨s, .running crew store, strays⟩ name trouble w).2.1
      (removeLog ⟨s, .running crew store, strays⟩ name trouble w).2.2 := by
  have hwithdrawn : Leads ⟨s, .running crew store, strays⟩ w
      (withdraw ⟨s, .running crew store, strays⟩ name trouble w).2.1
      (withdraw ⟨s, .running crew store, strays⟩ name trouble w).2.2 := leads_withdraw name trouble w
  have hrunning : (withdraw ⟨s, .running crew store, strays⟩ name trouble w).2.1 =
      ⟨s, .running (crew.remove name trouble w.disk).2.1 store, strays⟩ := rfl
  rw [removeLog]
  rcases hwithdraw : withdraw ⟨s, .running crew store, strays⟩ name trouble w with ⟨error | number | number, c', w'⟩
  all_goals rw [hwithdraw] at hwithdrawn hrunning
  · exact hwithdrawn
  · exact hwithdrawn
  · obtain rfl := hrunning
    obtain ⟨halike, hremains⟩ :=
      (crew.remove name trouble w.disk).2.1.alike_settle number w'.disk store w'.supply
    exact hwithdrawn.trans (leads_worked halike hremains _ _)

theorem leads_undergo_running (w : World) (o : Occurrence) :
    Leads ⟨s, .running crew store, strays⟩ w (undergo ⟨s, .running crew store, strays⟩ w o).1
      (undergo ⟨s, .running crew store, strays⟩ w o).2 := by
  cases o with
  | command command trouble =>
    cases command with
    | start => exact .refl _ w
    | stop => exact .of_change (.stopped (crew.dismissAll.alike_settleAll w.disk store w.supply).2)
    | addLog name source => exact .of_change (.added name source trouble)
    | removeLog name => exact leads_removeLog name trouble w
    | describe names => exact .refl _ w
    | activeWorkers => exact .refl _ w
    | addEvent log timestamp message =>
      rw [undergo, obey, addEvent]
      cases checkEvent log timestamp with
      | error error => exact .refl _ w
      | ok => exact leads_worked (.refl crew) (store.remains_add _ _ _ _) _ _
    | getEvents request => exact .refl _ w
    | clear logs =>
      rw [undergo, obey, clear]
      cases LogName.checkAll logs with
      | error error => exact .refl _ w
      | ok => exact leads_changeStore (fun store => store.remains_clearEach logs) w
    | evict => exact leads_changeStore Store.remains_evictAll w
  | withdrawal name trouble => exact leads_withdraw name trouble w
  | work number =>
    obtain ⟨halike, hremains⟩ := crew.alike_step number w.disk store w.supply.head
    exact leads_worked halike hremains _ _
  | arrival path bytes => exact leads_worked (crew.alike_deliver path bytes w.disk) (.refl store) _ _

/-! ### Runs -/

/-- **Whatever happens comes to such changes.** -/
theorem leads_undergo (hcapacity : c.settings.inboxCapacity ≤ Inbox.largestCapacity) (hstrays : c.strays = none)
    (w : World) (o : Occurrence) : Leads c w (c.undergo w o).1 (c.undergo w o).2 := by
  cases hstarted : c.isStarted with
  | false =>
    rcases undergo_of_not_started hstarted hstrays w o with hsame | ⟨trouble, rfl⟩
    · rw [hsame]
      exact .refl c w
    · exact leads_start hstarted hcapacity trouble w
  | true =>
    obtain ⟨s, phase, strays⟩ := c
    cases phase with
    | running crew store => exact leads_undergo_running w o
    | idle | stopped => cases hstarted

theorem leads_run (hcapacity : c.settings.inboxCapacity ≤ Inbox.largestCapacity) (hstrays : c.strays = none)
    (w : World) (os : List Occurrence) : Leads c w (c.run w os).1 (c.run w os).2 := by
  induction os generalizing c w with
  | nil => exact .refl c w
  | cons o rest ih =>
    have hfirst := leads_undergo hcapacity hstrays w o
    exact hfirst.trans (ih (hfirst.settings ▸ hcapacity) (hfirst.strays.trans hstrays) _)

/-! ### Where there can be no inbox -/

section Large

variable (hidle : c.isStarted = false) (hlarge : Inbox.largestCapacity < c.settings.inboxCapacity)
include hidle hlarge

/-- Whatever happens to a collector whose inbox cannot be made, it does not come to run. -/
theorem undergo_of_large (w : World) (o : Occurrence) :
    (c.undergo w o).1.settings = c.settings ∧ (c.undergo w o).1.isStarted = false := by
  rcases undergo_idle_cases hidle w o with hsame | ⟨trouble, rfl⟩ | ⟨_, _, -, ⟨_, _, _, hleave⟩ | ⟨_, harrival⟩⟩
  · rw [hsame]
    exact ⟨rfl, hidle⟩
  · rw [undergo, obey]
    rcases start_cases hidle trouble w with ⟨error, d', -, hstart⟩ | ⟨roster, store, d', -, -, hstart⟩
    · rw [hstart]
      exact ⟨rfl, hidle⟩
    · obtain ⟨reason, hstart⟩ := hstart hlarge
      rw [hstart]
      exact ⟨leave_settings _ _ _ _, (leave_isStarted _ _ _ _).trans hidle⟩
  · rw [hleave]
    exact ⟨leave_settings _ _ _ _, (leave_isStarted _ _ _ _).trans hidle⟩
  · rw [harrival]
    exact ⟨rfl, hidle⟩

/-- **A collector never runs where its inbox cannot be made.** -/
theorem not_started_run (w : World) (os : List Occurrence) : (c.run w os).1.isStarted = false := by
  induction os generalizing c w with
  | nil => exact hidle
  | cons o rest ih =>
    obtain ⟨hsettings, hstill⟩ := undergo_of_large hidle hlarge w o
    exact ih hstill (hsettings ▸ hlarge) _

end Large

/-- Workers that were left behind have the database open. -/
def Locks (c : Collector) (d : Disk) : Prop :=
  c.strays.isSome = true → d.node? (Path.goal c.settings.store.path) = some (.database none)

theorem Locks.gains {way : List (List String)} {d d' : Disk} (h : Locks c d) (hgains : Gains way d d') : Locks c d' :=
  fun hstrays => (hgains.node?_eq_some_iff Node.noConfusion).2 (h hstrays)

theorem locks_leave {crew : Crew} {store : Store}
    (h : w.disk.node? (Path.goal c.settings.store.path) = some (.database none)) :
    Locks (c.leave crew store w).1 (c.leave crew store w).2.disk := by
  rw [leave]
  split
  · exact nofun
  · exact fun _ => h

/-- A start that breaks off leaves the database open, and it is closed when the last worker has finished. -/
theorem locks_undergo (hidle : c.isStarted = false) (hlarge : Inbox.largestCapacity < c.settings.inboxCapacity)
    (h : Locks c w.disk) (o : Occurrence) : Locks (c.undergo w o).1 (c.undergo w o).2.disk := by
  rcases undergo_idle_cases hidle w o with hsame | ⟨trouble, rfl⟩ | ⟨_, _, hsome, ⟨_, _, _, hleave⟩ | ⟨_, harrival⟩⟩
  · rw [hsame]
    exact h
  · rw [undergo, obey]
    rcases start_cases hidle trouble w with ⟨error, d', hprepare, hstart⟩ | ⟨roster, store, d', hprepare, -, hstart⟩
    · rw [hstart]
      exact h.gains (gains_of_prepare hprepare)
    · obtain ⟨reason, hstart⟩ := hstart hlarge
      obtain ⟨made, opened, hopens, rfl⟩ := opens_of_prepare hprepare
      rw [hstart]
      exact locks_leave (node?_put_self hopens.database)
  · rw [hleave]
    exact locks_leave (h (by rw [hsome]; rfl))
  · rw [harrival]
    exact fun _ => h (by rw [hsome]; rfl)

theorem locks_run (hidle : c.isStarted = false) (hlarge : Inbox.largestCapacity < c.settings.inboxCapacity)
    (h : Locks c w.disk) (os : List Occurrence) : Locks (c.run w os).1 (c.run w os).2.disk := by
  induction os generalizing c w with
  | nil => exact h
  | cons o rest ih =>
    obtain ⟨hsettings, hstill⟩ := undergo_of_large hidle hlarge w o
    exact ih hstill (hsettings ▸ hlarge) (locks_undergo hidle hlarge h o)

/-- **As long as workers go on that were left behind, no other start gets as far as its workers.** -/
theorem start_of_strays (hidle : c.isStarted = false) (h : Locks c w.disk) (hstrays : c.strays.isSome = true)
    (trouble : Option Trouble) :
    ∃ error disk, c.start trouble w = (.error error, c, { w with disk }) := by
  rcases start_cases hidle trouble w with ⟨error, disk, -, hstart⟩ | ⟨roster, store, d', hprepare, -, -⟩
  · exact ⟨error, disk, hstart⟩
  · obtain ⟨made, opened, hopens, -⟩ := opens_of_prepare hprepare
    have hhome := gains_makeFolders w.disk c.settings.home
    rw [hopens.home] at hhome
    exact absurd (((h.gains hhome).gains hopens.folders) hstrays) hopens.free

end Logbook.Collector
