import Logbook.Collector.Command
import Logbook.Proofs.Crew
import Logbook.Proofs.Request

/-!
# Refusals

A call whose arguments are not acceptable is refused before anything is done, so it might as well not have been made.
What is not acceptable can be said without the checks: it depends on the arguments, on the settings and, for a log that
is to be added, on those that are there.  Where the collector accepts an event, the store does too.

## Main definitions

* `Collector.isRefusal` — whether an answer says that the arguments of a call are not acceptable.
* `Collector.Checks` — checks that fail under a condition.
* `Collector.Objectionable` — commands whose arguments are not acceptable.
* `Collector.Screened` — calls that are refused under a condition, and without a trace.
* `Collector.heeded` — the commands of a run that are not refused.

## Main results

* `Collector.screened_obey` — a command is refused just where its arguments are not acceptable, and then nothing has
  changed.
* `Collector.obeyAll_heeded` — a run ends as it does without the commands that are refused.
* `Collector.refused_without_trace` — **a refusal leaves no trace, and events that can be stored are not refused.**
-/

namespace Logbook

open LogName (Valid)

namespace Collector

section Answers

variable {α β : Type}

/-- Whether an answer says that the arguments of a call are not acceptable. -/
def isRefusal : Except CollectorError α → Bool
  | .ok _ => false
  | .error error => error.isValidation

@[simp] theorem isRefusal_map (f : α → β) (answer : Except CollectorError α) :
    isRefusal (answer.map f) = isRefusal answer := by
  cases answer <;> rfl

/-- What fails in the store is no refusal. -/
@[simp] theorem isRefusal_mapError_store (result : Except StoreError α) :
    isRefusal (result.mapError CollectorError.store) = false := by
  cases result <;> rfl

theorem isRefusal_bind {first : Except CollectorError α} {next : α → Except CollectorError β}
    (h : isRefusal first = false) (hnext : ∀ a, isRefusal (next a) = false) :
    isRefusal (first >>= next) = false := by
  cases first with
  | error error => exact h
  | ok a => exact hnext a

/-- A check that fails under a condition.  Then it refuses the call. -/
structure Checks (objection : Prop) (check : Except CollectorError α) : Prop where
  /-- What is objected to is refused. -/
  refuses : objection → isRefusal check = true
  /-- Anything else passes. -/
  passes : ¬ objection → ∃ a, check = .ok a

variable {P Q : Prop} {check : Except CollectorError α}

theorem Checks.isRefusal_iff (h : Checks P check) : isRefusal check = true ↔ P := by
  refine ⟨fun hrefusal => ?_, h.refuses⟩
  by_contra hP
  obtain ⟨a, rfl⟩ := h.passes hP
  cases hrefusal

theorem Checks.not_of_ok {a : α} (h : Checks P (.ok a)) : ¬ P := fun hP => nomatch h.refuses hP

theorem Checks.of_error {error : CollectorError} (h : Checks P (.error error : Except CollectorError α)) : P := by
  by_contra hP
  obtain ⟨a, ha⟩ := h.passes hP
  cases ha

/-- Of two checks, each may refuse the call. -/
theorem Checks.bind (h : Checks P check) {next : α → Except CollectorError β} (hnext : ∀ a, Checks Q (next a)) :
    Checks (P ∨ Q) (check >>= next) := by
  cases check with
  | error error => exact ⟨fun _ => h.refuses h.of_error, fun hPQ => absurd (Or.inl h.of_error) hPQ⟩
  | ok a =>
    refine ⟨fun hPQ => ?_, fun hPQ => ?_⟩
    · exact (hnext a).refuses (hPQ.resolve_left h.not_of_ok)
    · exact (hnext a).passes fun hQ => hPQ (Or.inr hQ)

/-- Nothing is refused any more once the check has passed. -/
theorem Checks.isRefusal_bind (h : Checks P check) {next : α → Except CollectorError β}
    (hnext : ∀ a, isRefusal (next a) = false) : isRefusal (check >>= next) = true ↔ P := by
  rw [← h.isRefusal_iff]
  cases check with
  | error error => rfl
  | ok a => exact iff_of_false (by simp [Bind.bind, Except.bind, hnext]) nofun

end Answers

/-! ### What is no refusal -/

theorem isRefusal_load (path : String) (d : Disk) : isRefusal (StateFile.load path d) = false := by
  rw [StateFile.load]
  split
  · split <;> rfl
  · rfl
  · rfl

theorem isRefusal_save (path : String) (r : Roster) (trouble : Option Disk.Trouble) (d : Disk) :
    isRefusal (StateFile.save path r trouble d).1 = false := by
  rw [StateFile.save]
  rcases d.performAll trouble (StateFile.saveOps path r) with ⟨_ | _, _⟩ <;> rfl

theorem isRefusal_loadAndOpen (s : CollectorSettings) (d : Disk) : isRefusal (loadAndOpen s d).1 = false := by
  have hload := isRefusal_load s.statePath d
  unfold loadAndOpen
  split
  · rename_i herror
    rwa [herror] at hload
  · split <;> rfl

theorem isRefusal_prepare (s : CollectorSettings) (trouble : Option Disk.Trouble) (d : Disk) :
    isRefusal (prepare s trouble d).1 = false := by
  rw [prepare]
  split
  · rfl
  · split
    · rfl
    · rfl
    · exact isRefusal_loadAndOpen s _

theorem isRefusal_start (c : Collector) (trouble : Option Disk.Trouble) (w : World) :
    isRefusal (c.start trouble w).1 = false := by
  have hprepare := isRefusal_prepare c.settings trouble w.disk
  rw [start]
  split
  · rfl
  · split
    · rename_i herror
      rwa [herror] at hprepare
    · dsimp only
      split <;> rfl

theorem isRefusal_service (c : Collector) : isRefusal c.service = false := by
  rw [service]
  split <;> rfl

theorem isRefusal_withdraw (c : Collector) (name : String) (trouble : Option Disk.Trouble) (w : World) :
    isRefusal (c.withdraw name trouble w).1 = false := by
  have hservice := isRefusal_service c
  rw [withdraw]
  split
  · rename_i herror
    rwa [herror] at hservice
  · rename_i crew store _
    simp only [Crew.remove]
    split
    · rfl
    · have hsave := isRefusal_save crew.statePath (crew.roster.erase name) trouble w.disk
      split
      · rename_i herror
        rwa [herror] at hsave
      · split <;> rfl

theorem isRefusal_removeLog (c : Collector) (name : String) (trouble : Option Disk.Trouble) (w : World) :
    isRefusal (c.removeLog name trouble w).1 = false := by
  have hwithdraw := isRefusal_withdraw c name trouble w
  rw [removeLog]
  split
  · rename_i herror
    rwa [herror] at hwithdraw
  · rfl
  · rfl

theorem isRefusal_changeStore {α : Type} (c : Collector) (change : Store → Except StoreError α × Store) :
    isRefusal (c.changeStore change).1 = false := by
  have hservice := isRefusal_service c
  rw [changeStore]
  split
  · rename_i herror
    rwa [herror] at hservice
  · exact isRefusal_mapError_store _

/-! ### What is refused -/

/-- Commands with arguments that are not acceptable to a collector. -/
def Objectionable (c : Collector) : Command → Prop
  | .addLog name source => ∃ crew store, c.phase = .running crew store ∧
      (¬ Valid name ∨ source = "" ∨ name ∈ crew.roster.keys)
  | .describe names | .clear names => ∃ name ∈ names, ¬ Valid name
  | .addEvent log timestamp _ => ¬ Valid log ∨ timestamp.nanos? = none
  | .getEvents r =>
      let limit := (r.limit.map UInt64.toNat).getD c.settings.defaultLimit
      (limit = 0 ∨ c.settings.maxLimit < limit) ∨
        (∃ text ∈ r.cursor, text ≠ "" ∧ ∀ cursor, Cursor.parse text ≠ .ok cursor) ∨ ∃ name ∈ r.logs, ¬ Valid name
  | _ => False

theorem checks_checkAll (names : List String) :
    Checks (∃ name ∈ names, ¬ Valid name) ((LogName.checkAll names).mapError .ofEventError) := by
  rcases LogName.checkAll_cases names with ⟨hvalid, hok⟩ | ⟨name, hname, hinvalid, herror⟩
  · rw [hok]
    exact ⟨fun ⟨name, hname, hinvalid⟩ => absurd (hvalid name hname) hinvalid, fun _ => ⟨(), rfl⟩⟩
  · rw [herror]
    exact ⟨fun _ => rfl, fun h => absurd ⟨name, hname, hinvalid⟩ h⟩

theorem checks_checkEvent (log : String) (timestamp : Instant) :
    Checks (¬ Valid log ∨ timestamp.nanos? = none) (checkEvent log timestamp) := by
  refine Checks.bind ?_ fun _ => ?_
  · rw [LogName.check]
    split
    · exact ⟨fun h => absurd ‹_› h, fun _ => ⟨(), rfl⟩⟩
    · exact ⟨fun _ => rfl, fun h => absurd ‹_› h⟩
  · split
    · exact ⟨fun _ => rfl, fun h => absurd ‹_› h⟩
    · exact ⟨fun h => absurd h ‹_›, fun _ => ⟨(), rfl⟩⟩

theorem checks_checkCursor (cursor : Option String) :
    Checks (∃ text ∈ cursor, text ≠ "" ∧ ∀ c, Cursor.parse text ≠ .ok c) (checkCursor cursor) := by
  cases cursor with
  | none =>
    refine ⟨fun h => ?_, fun _ => ⟨none, rfl⟩⟩
    obtain ⟨text, htext, -⟩ := h
    cases htext
  | some text =>
    simp only [Option.mem_some_iff, exists_eq_left', checkCursor]
    by_cases hempty : text = ""
    · rw [if_pos hempty]
      exact ⟨fun h => absurd hempty h.1, fun _ => ⟨none, rfl⟩⟩
    · rw [if_neg hempty]
      cases Cursor.parse text with
      | ok c => exact ⟨fun h => absurd rfl (h.2 c), fun _ => ⟨some c, rfl⟩⟩
      | error fault => exact ⟨fun _ => rfl, fun h => absurd ⟨hempty, fun c hc => by cases hc⟩ h⟩

theorem checks_checkLimit (s : CollectorSettings) (limit : Option UInt64) :
    Checks ((limit.map UInt64.toNat).getD s.defaultLimit = 0 ∨
      s.maxLimit < (limit.map UInt64.toNat).getD s.defaultLimit) (checkLimit s limit) := by
  rw [checkLimit]
  split
  · exact ⟨fun _ => rfl, fun h => absurd ‹_› h⟩
  · exact ⟨fun h => absurd h ‹_›, fun _ => ⟨_, rfl⟩⟩

/-- A request is refused where its limit, its cursor or one of its names is. -/
theorem checks_checkRequest (c : Collector) (r : PageRequest) :
    Checks (c.Objectionable (.getEvents r)) (checkRequest c.settings r) := by
  refine (checks_checkLimit c.settings r.limit).bind fun limit => ?_
  refine (checks_checkCursor r.cursor).bind fun cursor => ?_
  have hnone : Checks False (.ok { cursor, limit, logs := r.logs, filter := r.filter : Search }) :=
    ⟨False.elim, fun _ => ⟨_, rfl⟩⟩
  have hnames := (checks_checkAll r.logs).bind fun _ => hnone
  rwa [or_false] at hnames

/-! ### Calls -/

/-- What a call comes to that is refused under a condition, and without a trace. -/
structure Screened (c : Collector) (w : World) (objection : Prop) {α : Type}
    (result : Except CollectorError α × Collector × World) : Prop where
  /-- It is refused just where it is objected to. -/
  refused_iff : isRefusal result.1 = true ↔ objection
  /-- Where it is refused, nothing has changed. -/
  unchanged : isRefusal result.1 = true → result.2 = (c, w)

variable {c : Collector} {w : World} {P : Prop} {α β : Type}

/-- A call that changes nothing. -/
theorem Screened.of_same {answer : Except CollectorError α} (h : isRefusal answer = true ↔ P) :
    Screened c w P (answer, c, w) := ⟨h, fun _ => rfl⟩

/-- A call that is never refused. -/
theorem Screened.of_never {result : Except CollectorError α × Collector × World} (h : isRefusal result.1 = false) :
    Screened c w False result :=
  ⟨iff_of_false (by simp [h]) id, fun hrefusal => by simp [h] at hrefusal⟩

theorem Screened.congr {Q : Prop} {result : Except CollectorError α × Collector × World} (h : Screened c w P result)
    (hPQ : P ↔ Q) : Screened c w Q result := ⟨h.refused_iff.trans hPQ, h.unchanged⟩

theorem Screened.map {result : Except CollectorError α × Collector × World} (h : Screened c w P result)
    (f : α → β) : Screened c w P (result.1.map f, result.2) :=
  ⟨by rw [isRefusal_map, h.refused_iff], fun hrefusal => h.unchanged (by rwa [isRefusal_map] at hrefusal)⟩

/-- Whatever is objected to an addition refuses it. -/
theorem isValidation_of_objection {crew : Crew} {name source : String} {error : CollectorError}
    (h : crew.objection name source = some error) : error.isValidation = true := by
  rw [Crew.objection] at h
  repeat' split at h
  all_goals cases h
  all_goals rfl

theorem objectionable_addLog_iff {crew : Crew} {store : Store} (hphase : c.phase = .running crew store)
    (name source : String) : c.Objectionable (.addLog name source) ↔ crew.objection name source ≠ none := by
  have hobjection : crew.objection name source ≠ none ↔
      ¬ Valid name ∨ source = "" ∨ name ∈ crew.roster.keys := by
    rw [ne_eq, Crew.objection_eq_none_iff, SortedMap.mem_keys_iff, Option.isSome_iff_ne_none]
    tauto
  rw [hobjection]
  constructor
  · rintro ⟨crew', store', hphase', h⟩
    obtain ⟨rfl, rfl⟩ := Phase.running.inj (hphase.symm.trans hphase')
    exact h
  · exact fun h => ⟨crew, store, hphase, h⟩

theorem screened_addLog (c : Collector) (name source : String) (trouble : Option Disk.Trouble) (w : World) :
    Screened c w (c.Objectionable (.addLog name source)) (c.addLog name source trouble w) := by
  obtain ⟨settings, phase, strays⟩ := c
  cases phase with
  | running crew store =>
    have hiff := objectionable_addLog_iff (c := ⟨settings, .running crew store, strays⟩) rfl name source
    rw [addLog, service]
    rcases crew.add_cases name source trouble w.disk with
      ⟨error, hobjection, hadd⟩ | ⟨hobjection, ⟨error, d', hsave, hadd⟩ | ⟨d', hsave, hadd⟩⟩
    · simp only [hadd]
      rw [hobjection] at hiff
      exact Screened.of_same (iff_of_true (isValidation_of_objection hobjection) (hiff.2 (by simp)))
    · -- what cannot be saved has been accepted
      have hunrefused := isRefusal_save crew.statePath (crew.roster.insert name ⟨source⟩) trouble w.disk
      rw [hsave] at hunrefused
      simp only [hadd]
      exact (Screened.of_never hunrefused).congr (iff_of_false id fun h => hiff.1 h hobjection)
    · simp only [hadd]
      exact (Screened.of_never rfl).congr (iff_of_false id fun h => hiff.1 h hobjection)
  | idle | stopped =>
    refine Screened.of_same (iff_of_false Bool.false_ne_true fun h => ?_)
    obtain ⟨crew, store, hphase, -⟩ := h
    cases hphase

theorem screened_addEvent (c : Collector) (log : String) (timestamp : Instant) (message : Bytes) (w : World) :
    Screened c w (c.Objectionable (.addEvent log timestamp message)) (c.addEvent log timestamp message w) := by
  have hcheck : Checks (c.Objectionable (.addEvent log timestamp message)) (checkEvent log timestamp) :=
    checks_checkEvent log timestamp
  have hservice := isRefusal_service c
  rw [addEvent]
  cases hresult : checkEvent log timestamp with
  | error error =>
    rw [hresult] at hcheck
    exact Screened.of_same hcheck.isRefusal_iff
  | ok =>
    rw [hresult] at hcheck
    cases hc : c.service with
    | error error =>
      rw [hc] at hservice
      exact Screened.of_same (iff_of_false (Bool.eq_false_iff.1 hservice) hcheck.not_of_ok)
    | ok => exact (Screened.of_never (isRefusal_mapError_store _)).congr (iff_of_false id hcheck.not_of_ok)

/-- A list with a name that can name no log clears nothing. -/
theorem clear_of_invalid {logs : List String} (h : ∃ log ∈ logs, ¬ Valid log) :
    ∃ log ∈ logs, ¬ Valid log ∧ c.clear logs = (.error (.invalidLogName log), c) := by
  rcases LogName.checkAll_cases logs with ⟨hvalid, -⟩ | ⟨log, hlog, hinvalid, herror⟩
  · obtain ⟨log, hlog, hinvalid⟩ := h
    exact absurd (hvalid log hlog) hinvalid
  · refine ⟨log, hlog, hinvalid, ?_⟩
    rw [clear, herror]
    rfl

theorem screened_clear (c : Collector) (logs : List String) (w : World) :
    Screened c w (c.Objectionable (.clear logs)) ((c.clear logs).1, (c.clear logs).2, w) := by
  by_cases h : ∃ log ∈ logs, ¬ Valid log
  · obtain ⟨log, -, -, hclear⟩ := clear_of_invalid (c := c) h
    rw [hclear]
    exact Screened.of_same (iff_of_true rfl h)
  · have hvalid : LogName.checkAll logs = .ok () := LogName.checkAll_eq_ok_iff.2 (by simpa using h)
    rw [clear, hvalid]
    exact (Screened.of_never (isRefusal_changeStore c _)).congr (iff_of_false id h)

/-- **A command is refused just where its arguments are not acceptable, and then nothing has changed.** -/
theorem screened_obey (c : Collector) (command : Command) (trouble : Option Disk.Trouble) (w : World) :
    Screened c w (c.Objectionable command) (c.obey command trouble w) := by
  cases command with
  | start => exact (Screened.of_never (isRefusal_start c trouble w)).map _
  | stop => exact Screened.of_never rfl
  | addLog name source => exact (screened_addLog c name source trouble w).map _
  | removeLog name => exact (Screened.of_never (isRefusal_removeLog c name trouble w)).map _
  | describe names =>
    refine Screened.of_same ?_
    rw [isRefusal_map]
    exact (checks_checkAll names).isRefusal_bind fun _ =>
      isRefusal_bind (isRefusal_service c) fun _ => isRefusal_mapError_store _
  | activeWorkers =>
    have hnever : Screened c w False (c.activeWorkers, c, w) :=
      Screened.of_never (isRefusal_bind (isRefusal_service c) fun _ => rfl)
    exact hnever.map _
  | addEvent log timestamp message => exact (screened_addEvent c log timestamp message w).map _
  | getEvents r =>
    refine Screened.of_same ?_
    rw [isRefusal_map]
    exact (checks_checkRequest c r).isRefusal_bind fun _ =>
      isRefusal_bind (isRefusal_service c) fun _ =>
        isRefusal_bind (isRefusal_mapError_store _) fun _ => isRefusal_mapError_store _
  | clear logs => exact (screened_clear c logs w).map _
  | evict =>
    have hnever : Screened c w False (c.evict.1, c.evict.2, w) := Screened.of_never (isRefusal_changeStore c _)
    exact hnever.map _

/-! ### Runs -/

/-- The commands of a run that are not refused. -/
def heeded (c : Collector) (w : World) :
    List (Command × Option Disk.Trouble) → List (Command × Option Disk.Trouble)
  | [] => []
  | (command, trouble) :: rest =>
    let (answer, c, w) := c.obey command trouble w
    let rest := heeded c w rest
    if isRefusal answer then rest else (command, trouble) :: rest

/-- **A run ends as it does without the commands that are refused**, and the other commands get the same answers. -/
theorem obeyAll_heeded (c : Collector) (w : World) (commands : List (Command × Option Disk.Trouble)) :
    c.obeyAll w (c.heeded w commands) =
      ((c.obeyAll w commands).1.filter fun answer => !isRefusal answer, (c.obeyAll w commands).2) := by
  induction commands generalizing c w with
  | nil => rfl
  | cons command rest ih =>
    obtain ⟨command, trouble⟩ := command
    have hscreened := screened_obey c command trouble w
    rcases hobey : c.obey command trouble w with ⟨answer, c', w'⟩
    rw [hobey] at hscreened
    simp only [heeded, obeyAll, hobey, List.filter_cons, Bool.not_eq_true']
    cases hrefusal : isRefusal answer with
    | true =>
      -- what follows a refusal starts where the refusal did
      obtain ⟨rfl, rfl⟩ := Prod.mk.inj (hscreened.unchanged hrefusal)
      simp [ih]
    | false => simp [obeyAll, hobey, ih]

/-! ### Events that can be stored -/

/-- An event that names a log and can be stored is added, unless nothing is added at all. -/
theorem error_of_addEvent {log : String} {timestamp : Instant} {message : Bytes} (hlog : Valid log)
    (htime : timestamp.nanos? ≠ none) {error : CollectorError} {after : Collector × World}
    (h : c.addEvent log timestamp message w = (.error error, after)) :
    error = .notStarted ∨ error = .store .closed ∨ ∃ reason, error = .store (.event (.entropy reason)) := by
  obtain ⟨_, hcheck⟩ := (checks_checkEvent log timestamp).passes (not_or.2 ⟨not_not_intro hlog, htime⟩)
  cases hphase : c.phase with
  | running crew store =>
    simp only [addEvent, hcheck, service, hphase, Prod.mk.injEq] at h
    obtain ⟨herror, -⟩ := h
    cases hadd : (store.add log timestamp (truncate c.settings.maxMessageSize message) w.supply.head).1 with
    | error fault =>
      rw [hadd] at herror
      obtain rfl := Except.error.inj herror
      rcases Store.error_of_add hlog htime hadd with rfl | ⟨reason, rfl⟩
      · exact Or.inr (Or.inl rfl)
      · exact Or.inr (Or.inr ⟨reason, rfl⟩)
    | ok id =>
      rw [hadd] at herror
      cases herror
  | idle =>
    simp only [addEvent, hcheck, service, hphase, Prod.mk.injEq] at h
    exact Or.inl (Except.error.inj h.1).symm
  | stopped =>
    simp only [addEvent, hcheck, service, hphase, Prod.mk.injEq] at h
    exact Or.inl (Except.error.inj h.1).symm

/-- **A refusal leaves no trace, and events that can be stored are not refused.**  Any command is refused just where its
arguments are not acceptable, and then the collector, its store and the world are as they were.  One name that can name
no log keeps the others on its list from being cleared.  An event with a name and a time that the collector accepts is
accepted by the store. -/
theorem refused_without_trace (c : Collector) (w : World) (trouble : Option Disk.Trouble) :
    (∀ command, isRefusal (c.obey command trouble w).1 = true → (c.obey command trouble w).2 = (c, w)) ∧
    (∀ command, isRefusal (c.obey command trouble w).1 = true ↔ c.Objectionable command) ∧
    (∀ logs : List String, (∃ log ∈ logs, ¬ Valid log) →
      ∃ log ∈ logs, ¬ Valid log ∧ c.clear logs = (.error (.invalidLogName log), c)) ∧
    ∀ (log : String) (timestamp : Instant) (message : Bytes) (error : CollectorError) (after : Collector × World),
      Valid log → timestamp.nanos? ≠ none → c.addEvent log timestamp message w = (.error error, after) →
        error.isValidation = false ∧ (∀ name, error ≠ .store (.event (.invalidLogName name))) ∧
          ∀ shown, error ≠ .store (.invalidTimestamp shown) := by
  refine ⟨fun command => (screened_obey c command trouble w).unchanged,
    fun command => (screened_obey c command trouble w).refused_iff, fun logs => clear_of_invalid, ?_⟩
  intro log timestamp message error after hlog htime h
  rcases error_of_addEvent hlog htime h with rfl | rfl | ⟨reason, rfl⟩
  · exact ⟨rfl, nofun, nofun⟩
  · exact ⟨rfl, nofun, nofun⟩
  · exact ⟨rfl, nofun, nofun⟩

/-- A name that can name no log among three, where the other two have an event each, and an event for which there is no
entropy. -/
theorem refused_without_trace_clear :
    let rows : Table := .ofEntries [(Entry.key "a" .least, Entry.payload 3 [104]),
      (Entry.key "b" .least, Entry.payload 4 [105])]
    let store : Store := { settings := {}, table? := some rows }
    let crew : Crew := .start "home/logd.json" 8 (.ofEntries [("a", ⟨"x"⟩)])
    let c : Collector := { settings := .inHome "home", phase := .running crew store }
    let w : World := ⟨.blank, ⟨fun _ => ⟨.ofNanos 5, .error "none left"⟩, 0⟩⟩
    c.activeWorkers = .ok ["a"] ∧ (c.obey (.clear ["a", "b"]) none w).1 = .ok (.removed 2) ∧
      isRefusal (c.obey (.clear ["a", "", "b"]) none w).1 = true ∧
      (c.obey (.clear ["a", "", "b"]) none w).2 = (c, w) ∧ c.clear ["a", "", "b"] = (.error (.invalidLogName ""), c) ∧
      ∃ error, (c.addEvent "a" (.ofNanos 5) [104] w).1 = .error error ∧ error.isValidation = false := by
  intro rows store crew c w
  obtain ⟨hunchanged, hrefused, hclear, hadd⟩ := refused_without_trace c w none
  have hbad : ∃ log ∈ ["a", "", "b"], ¬ Valid log := ⟨"", by simp, by decide⟩
  have hrefusal := (hrefused (.clear ["a", "", "b"])).2 hbad
  obtain ⟨log, hlog, hinvalid, herror⟩ := hclear _ hbad
  have hvalid : Valid "a" ∧ Valid "b" := ⟨by decide, by decide⟩
  obtain rfl : log = "" := by
    rcases hlog with _ | ⟨_, _ | ⟨_, _ | ⟨_, h⟩⟩⟩
    · exact absurd hvalid.1 hinvalid
    · rfl
    · exact absurd hvalid.2 hinvalid
    · cases h
  exact ⟨by decide +kernel, by decide +kernel, hrefusal, hunchanged _ hrefusal, herror, _, rfl,
    (hadd "a" (.ofNanos 5) [104] _ _ hvalid.1 (by decide) rfl).1⟩

end Collector
end Logbook
