import Logbook.Crew.Callers
import Logbook.Proofs.Crew

/-!
# Who still works for a log

Of the workers of a log, at most one has not been told to stop, and it fills the log.  Each of the others has come to
an end, or the caller that removed the log waits for it.  So there are two at a time only while a removal has not been
answered; and a worker that has been told to stop needs no more than two steps to come to an end.

## Main definitions

* `Worker.Onward`, `Crew.Onward` — a worker, or all workers of a crew, have gone on.
* `Crew.Accounted` — who still works fills its log, or is waited for.
* `Traffic.Orderly` — the invariant.
* `Progress.owing`, `Crew.Stopping` — how many steps a worker that has been told to stop can take at most.

## Main results

* `Crew.Accounted.add`, `Crew.Accounted.remove` — what additions and removals keep.
* `Traffic.Orderly.after`, `Traffic.Orderly.run` — every move keeps the invariant.
* `Traffic.Orderly.isBusy_run` — a worker that has been told to stop comes to an end, whatever else happens.
* `Traffic.unfinished_accounted` — **who still works for a log.**
-/

namespace Logbook

/-! ### Workers -/

/-- How many steps are left to a worker that has been told to stop, at most. -/
def Progress.owing : Progress → Nat
  | .finished _ => 0
  | .reading _ _ => 1
  | .opening => 2
  | .appending _ _ => 2

namespace Worker

theorem badge_eq_iff {w w' : Worker} : w'.badge = w.badge ↔
    w'.log = w.log ∧ w'.source = w.source ∧ w'.cancelled = w.cancelled := by
  rw [badge, badge, Prod.mk.injEq, Prod.mk.injEq]

theorem isFinished_iff {w : Worker} : w.isFinished = true ↔ w.progress.owing = 0 := by
  rw [isFinished]
  cases w.progress <;> simp [Progress.owing]

/-- A worker has gone on: it has not begun again after its end, and if it has been told to stop, it has not gone
back. -/
structure Onward (w w' : Worker) : Prop where
  /-- It is the same worker. -/
  badge : w'.badge = w.badge
  /-- It has not begun again. -/
  finished : w.isFinished = true → w'.isFinished = true
  /-- It has not gone back. -/
  owing : w.cancelled = true → w'.progress.owing ≤ w.progress.owing

theorem Onward.refl (w : Worker) : w.Onward w := ⟨rfl, id, fun _ => Nat.le_refl _⟩

theorem Onward.isFinished_eq_false {w w' : Worker} (h : w.Onward w') (hbusy : w'.isFinished = false) :
    w.isFinished = false := by
  rw [Bool.eq_false_iff] at hbusy ⊢
  exact mt h.finished hbusy

/-- A source that has been opened is read, or the worker has come to an end. -/
theorem owing_openSource_le (w : Worker) (d : Disk) : (w.openSource d).owing ≤ 1 := by
  rw [openSource]
  split
  · exact Nat.zero_le 1
  · split
    · unfold beginReading
      split
      all_goals simp only [Progress.owing, Nat.le_refl, Nat.zero_le]
    · exact Nat.zero_le 1

/-- After an append the worker reads, or it has come to an end. -/
theorem owing_append_le (w : Worker) (line : Line) (s : Stream) (store : Store) (draw : Draw) :
    (w.append line s store draw).1.owing ≤ 1 := by
  rw [append]
  split
  · exact Nat.le_refl 1
  · exact Nat.zero_le 1

variable {w w' : Worker} {d : Disk} {store store' : Store} {draw : Draw}

/-- Each step brings a worker that has been told to stop closer to its end. -/
theorem owing_lt_of_step (hcancelled : w.cancelled = true) (h : w.step d store draw = some (w', store')) :
    w'.progress.owing < w.progress.owing := by
  rw [step] at h
  split at h
  · rename_i hprogress
    obtain ⟨rfl, -⟩ := Prod.mk.inj (Option.some.inj h)
    rw [hprogress]
    exact Nat.lt_succ_of_le (w.owing_openSource_le d)
  · rename_i started s hprogress
    rw [if_pos hcancelled] at h
    obtain ⟨rfl, -⟩ := Prod.mk.inj (Option.some.inj h)
    rw [hprogress]
    exact Nat.zero_lt_one
  · rename_i line s hprogress
    obtain ⟨rfl, -⟩ := Prod.mk.inj (Option.some.inj h)
    rw [hprogress]
    exact Nat.lt_succ_of_le (w.owing_append_le line s store draw)
  · cases h

/-- A worker that has been told to stop takes steps until it has come to an end. -/
theorem owing_eq_zero_of_step (hcancelled : w.cancelled = true) (h : w.step d store draw = none) :
    w.progress.owing = 0 := by
  rw [step] at h
  split at h
  · cases h
  · rw [if_pos hcancelled] at h
    cases h
  · cases h
  · rename_i error hprogress
    rw [hprogress]
    rfl

/-- A worker that has come to an end takes no step. -/
theorem step_of_finished (hfinished : w.isFinished = true) : w.step d store draw = none := by
  rw [isFinished] at hfinished
  rw [step]
  cases hprogress : w.progress with
  | finished error => rfl
  | opening =>
    rw [hprogress] at hfinished
    cases hfinished
  | reading started s =>
    rw [hprogress] at hfinished
    cases hfinished
  | appending line s =>
    rw [hprogress] at hfinished
    cases hfinished

/-- A step leads a worker on. -/
theorem onward_of_step (h : w.step d store draw = some (w', store')) : w.Onward w' where
  badge := (badge_of_step h).1
  finished hfinished := by
    rw [step_of_finished hfinished] at h
    cases h
  owing hcancelled := Nat.le_of_lt (owing_lt_of_step hcancelled h)

/-- Bytes that come through a pipe lead a worker on. -/
theorem onward_deliver (w : Worker) (bytes : Bytes) : w.Onward (w.deliver bytes) := by
  have howing : (w.deliver bytes).progress.owing = w.progress.owing := by
    rw [deliver]
    cases hprogress : w.progress <;> rfl
  exact ⟨rfl, fun hfinished => isFinished_iff.2 (howing.trans (isFinished_iff.1 hfinished)),
    fun _ => Nat.le_of_eq howing⟩

end Worker

/-! ### Crews -/

namespace Crew

variable {c c' : Crew} {callers callers' : List Caller} {name source : String} {number : Nat} {w : Worker}

theorem mem_unfinished_iff : number ∈ c.unfinished name ↔
    ∃ w, c.workers[number]? = some w ∧ w.log = name ∧ w.isFinished = false := by
  rw [unfinished, List.mem_filter, List.mem_range]
  cases hw : c.workers[number]? with
  | none => simp
  | some w =>
    have hlt := (List.getElem?_eq_some_iff.1 hw).1
    simp [hlt]

theorem nodup_unfinished (c : Crew) (name : String) : (c.unfinished name).Nodup := List.nodup_range.filter _

theorem isBusy_of_not_finished (hw : c.workers[number]? = some w) (hbusy : w.isFinished = false) :
    c.isBusy number = true := by
  rw [isBusy, hw]
  simp only [hbusy, Bool.not_false]

/-- Who still works fills its log, or it has been told to stop and a caller waits for it. -/
structure Accounted (c : Crew) (callers : List Caller) : Prop where
  /-- A worker that has not been told to stop fills its log. -/
  running : ∀ number w, c.workers[number]? = some w → w.isFinished = false → w.cancelled = false →
    c.holders.find? w.log = some number
  /-- A caller waits for a worker that has been told to stop. -/
  stopping : ∀ number w, c.workers[number]? = some w → w.isFinished = false → w.cancelled = true →
    Caller.waiting w.log number ∈ callers

/-- Callers may come and get their answers, but for those that wait for someone who still works. -/
theorem Accounted.mono (h : c.Accounted callers)
    (hkeep : ∀ name number, c.isBusy number = true → Caller.waiting name number ∈ callers →
      Caller.waiting name number ∈ callers') : c.Accounted callers' where
  running := h.running
  stopping number w hw hbusy hcancelled :=
    hkeep _ _ (isBusy_of_not_finished hw hbusy) (h.stopping number w hw hbusy hcancelled)

/-- A worker that is started fills a log that had no worker. -/
theorem Accounted.hire (h : c.Accounted callers) (hfree : c.holders.find? name = none) (source : String) :
    (c.hire name source).Accounted callers := by
  have hcases : ∀ number w, (c.hire name source).workers[number]? = some w →
      c.workers[number]? = some w ∨ number = c.workers.length ∧ w = .new name source c.maxSize := by
    intro number w hw
    change (c.workers ++ [Worker.new name source c.maxSize])[number]? = some w at hw
    rw [List.getElem?_append] at hw
    split at hw
    · exact Or.inl hw
    · obtain ⟨hlt, rfl⟩ := List.getElem?_eq_some_iff.1 hw
      rw [List.length_singleton] at hlt
      exact Or.inr ⟨by omega, by simp⟩
  constructor
  · intro number w hw hbusy hcancelled
    change (c.holders.insert name c.workers.length).find? w.log = some number
    rcases hcases number w hw with hold | ⟨rfl, rfl⟩
    · have hholder := h.running number w hold hbusy hcancelled
      have hne : w.log ≠ name := by
        intro heq
        rw [heq, hfree] at hholder
        cases hholder
      rw [SortedMap.find?_insert_of_ne hne, hholder]
    · exact SortedMap.find?_insert_self _ _ _
  · intro number w hw hbusy hcancelled
    rcases hcases number w hw with hold | ⟨rfl, rfl⟩
    · exact h.stopping number w hold hbusy hcancelled
    · cases hcancelled

/-- A worker that is told to stop is waited for by the caller that removes its log. -/
theorem Accounted.release (h : c.Accounted callers) (hholder : c.holders.find? name = some number)
    (hw : c.workers[number]? = some w) (hlog : w.log = name) (roster : Roster)
    (hkeep : ∀ name number, Caller.waiting name number ∈ callers → Caller.waiting name number ∈ callers')
    (hwaits : Caller.waiting name number ∈ callers') :
    ({ c with roster, holders := c.holders.erase name }.dismiss number).Accounted callers' := by
  have hcases : ∀ other v,
      ({ c with roster, holders := c.holders.erase name }.dismiss number).workers[other]? = some v →
        other ≠ number ∧ c.workers[other]? = some v ∨ other = number ∧ v = w.cancel := by
    intro other v hv
    change (c.workers.modify number Worker.cancel)[other]? = some v at hv
    by_cases hother : other = number
    · subst hother
      rw [List.getElem?_modify_eq, hw] at hv
      exact Or.inr ⟨rfl, (Option.some.inj hv).symm⟩
    · rw [List.getElem?_modify_ne _ _ (Ne.symm hother)] at hv
      exact Or.inl ⟨hother, hv⟩
  constructor
  · intro other v hv hbusy hcancelled
    rcases hcases other v hv with ⟨hother, hold⟩ | ⟨-, rfl⟩
    · have hfills := h.running other v hold hbusy hcancelled
      have hne : v.log ≠ name := by
        intro heq
        rw [heq, hholder] at hfills
        exact hother (Option.some.inj hfills).symm
      change (c.holders.erase name).find? v.log = some other
      rw [SortedMap.find?_erase_of_ne hne, hfills]
    · cases hcancelled
  · intro other v hv hbusy hcancelled
    rcases hcases other v hv with ⟨-, hold⟩ | ⟨rfl, rfl⟩
    · exact hkeep _ _ (h.stopping other v hold hbusy hcancelled)
    · change Caller.waiting w.log other ∈ callers'
      rw [hlog]
      exact hwaits

/-- The workers of a crew have gone on. -/
def Onward (c c' : Crew) : Prop :=
  ∀ (number : Nat) (w' : Worker), c'.workers[number]? = some w' →
    ∃ w : Worker, c.workers[number]? = some w ∧ w.Onward w'

/-- Who still works is accounted for while workers go on. -/
theorem Accounted.of_onward (h : c.Accounted callers) (halike : Alike c c') (honward : Onward c c') :
    c'.Accounted callers := by
  constructor
  · intro number w' hw' hbusy hcancelled
    obtain ⟨w, hw, hgone⟩ := honward number w' hw'
    obtain ⟨hlog, -, htold⟩ := Worker.badge_eq_iff.1 hgone.badge
    rw [halike.holders, hlog]
    exact h.running number w hw (hgone.isFinished_eq_false hbusy) (htold ▸ hcancelled)
  · intro number w' hw' hbusy hcancelled
    obtain ⟨w, hw, hgone⟩ := honward number w' hw'
    obtain ⟨hlog, -, htold⟩ := Worker.badge_eq_iff.1 hgone.badge
    rw [hlog]
    exact h.stopping number w hw (hgone.isFinished_eq_false hbusy) (htold ▸ hcancelled)

/-- A step of a worker leads the crew on. -/
theorem onward_step (c : Crew) (number : Nat) (d : Disk) (store : Store) (draw : Draw) :
    Onward c (c.step number d store draw).1 := by
  intro other w' hw'
  rw [step] at hw'
  split at hw'
  · rename_i w hw
    split at hw'
    · rename_i v store' hstep
      change (c.workers.set number v)[other]? = some w' at hw'
      by_cases hother : number = other
      · subst hother
        obtain ⟨hlt, -⟩ := List.getElem?_eq_some_iff.1 hw
        rw [List.getElem?_set_self hlt] at hw'
        obtain rfl := Option.some.inj hw'
        exact ⟨w, hw, Worker.onward_of_step hstep⟩
      · rw [List.getElem?_set_ne hother] at hw'
        exact ⟨w', hw', .refl w'⟩
    · exact ⟨w', hw', .refl w'⟩
  · exact ⟨w', hw', .refl w'⟩

/-- Bytes that come through a pipe lead the crew on. -/
theorem onward_deliver (c : Crew) (path : String) (bytes : Bytes) (d : Disk) :
    Onward c (c.deliver path bytes d) := by
  intro number w' hw'
  rw [deliver] at hw'
  split at hw'
  · exact ⟨w', hw', .refl w'⟩
  · rw [List.getElem?_map, Option.map_eq_some_iff] at hw'
    obtain ⟨w, hw, rfl⟩ := hw'
    refine ⟨w, hw, ?_⟩
    split
    · split
      · exact w.onward_deliver bytes
      · exact .refl w
    · exact .refl w

/-- The crew of a roster has a worker at each of its logs, and nobody waits. -/
theorem accounted_start (statePath : String) (maxSize : Nat) (roster : Roster) :
    (start statePath maxSize roster).Accounted [] := by
  have hempty : ({ statePath, maxSize, roster } : Crew).Accounted [] := ⟨nofun, nofun⟩
  have hfree : ∀ log ∈ roster.entries, ({ statePath, maxSize, roster } : Crew).holders.find? log.1 = none :=
    fun log _ => SortedMap.find?_empty log.1
  have hnodup : (roster.entries.map (·.1)).Nodup := roster.nodup_keys
  rw [start]
  generalize ({ statePath, maxSize, roster } : Crew) = c at hempty hfree
  generalize roster.entries = logs at hfree hnodup
  -- each log in turn has no worker yet, since no log is named twice
  induction logs generalizing c with
  | nil => exact hempty
  | cons log rest ih =>
    rw [List.map_cons, List.nodup_cons] at hnodup
    refine ih (c.hire log.1 log.2.source)
      (hempty.hire (hfree log List.mem_cons_self) log.2.source) (fun other hother => ?_) hnodup.2
    have hne : other.1 ≠ log.1 := fun heq => hnodup.1 (heq ▸ List.mem_map_of_mem hother)
    change (c.holders.insert log.1 c.workers.length).find? other.1 = none
    rw [SortedMap.find?_insert_of_ne hne, hfree other (List.mem_cons_of_mem _ hother)]

/-- A crew whose logs are staffed and whose workers are accounted for stays so when a log is added. -/
theorem Accounted.add (h : c.Accounted callers) (hstaffed : c.Staffed c.roster) (name source : String)
    (trouble : Option Disk.Trouble) (d : Disk) :
    (c.add name source trouble d).2.1.Staffed (c.add name source trouble d).2.1.roster ∧
      (c.add name source trouble d).2.1.Accounted callers := by
  rcases c.add_cases name source trouble d with
    ⟨error, -, hadd⟩ | ⟨hobjection, ⟨error, d', -, hadd⟩ | ⟨d', -, hadd⟩⟩
  · rw [hadd]
    exact ⟨hstaffed, h⟩
  · rw [hadd]
    exact ⟨hstaffed, h⟩
  · rw [hadd]
    have hfree : c.holders.find? name = none := by
      obtain ⟨-, -, hnone⟩ := objection_eq_none_iff.1 hobjection
      rw [← Option.not_isSome_iff_eq_none, ← SortedMap.mem_keys_iff, hstaffed.logs, SortedMap.mem_keys_iff, hnone]
      exact Bool.false_ne_true
    have hworking : ({ c with roster := c.roster.insert name ⟨source⟩ } : Crew).Accounted callers :=
      ⟨h.running, h.stopping⟩
    exact ⟨hstaffed.enlist _ name source, hworking.hire hfree source⟩

/-- It stays so when a log is removed, if the caller then waits for the worker that is told to stop. -/
theorem Accounted.remove (h : c.Accounted callers) (hstaffed : c.Staffed c.roster) (name : String)
    (trouble : Option Disk.Trouble) (d : Disk)
    (hkeep : ∀ name number, Caller.waiting name number ∈ callers → Caller.waiting name number ∈ callers')
    (hwaits : ∀ number, (c.remove name trouble d).1 = .ok (some number) → Caller.waiting name number ∈ callers') :
    (c.remove name trouble d).2.1.Staffed (c.remove name trouble d).2.1.roster ∧
      (c.remove name trouble d).2.1.Accounted callers' := by
  have hstay : c.Accounted callers' := h.mono fun log number _ => hkeep log number
  rcases remove_cases hstaffed name trouble d with
    ⟨-, hremove⟩ | ⟨error, d', -, hremove⟩ | ⟨number, d', hholder, -, hremove⟩
  · rw [hremove]
    exact ⟨hstaffed, hstay⟩
  · rw [hremove]
    exact ⟨hstaffed, hstay⟩
  · rw [hremove] at hwaits ⊢
    obtain ⟨feed, w, -, hw, hbadge⟩ := hstaffed.workers name number hholder
    exact ⟨hstaffed.release hholder _,
      h.release hholder hw (congrArg Prod.fst hbadge) _ hkeep (hwaits number rfl)⟩

end Crew

/-! ### Callers -/

namespace Caller

variable {callers : List Caller} {crew : Crew} {number : Nat}

/-- Who is not the one that changes stays. -/
theorem mem_set_of_keeps {caller caller' waiting : Caller} (hcaller : callers[number]? = some caller)
    (hkeep : caller = waiting → caller' = waiting) (hmem : waiting ∈ callers) :
    waiting ∈ callers.set number caller' := by
  obtain ⟨other, hother⟩ := List.mem_iff_getElem?.1 hmem
  by_cases heq : number = other
  · subst heq
    rw [← hkeep (Option.some.inj (hcaller.symm.trans hother))]
    exact List.mem_set (List.getElem?_eq_some_iff.1 hcaller).1 _
  · exact List.mem_of_getElem? ((List.getElem?_set_ne heq).trans hother)

/-- Who waits for someone who still works goes on waiting. -/
theorem mem_modify_of_isBusy {name : String} {awaited : Nat} (hbusy : crew.isBusy awaited = true)
    (hmem : waiting name awaited ∈ callers) : waiting name awaited ∈ callers.modify number (resume crew) := by
  obtain ⟨other, hother⟩ := List.mem_iff_getElem?.1 hmem
  refine List.mem_of_getElem? (i := other) ?_
  rw [List.getElem?_modify, hother, Option.map_eq_map, Option.map_some, Option.some.injEq]
  split
  · exact if_pos hbusy
  · rfl

/-- A removal does to the crew and the disk what the crew says. -/
theorem serve_removing (name : String) (trouble : Option Disk.Trouble) (crew : Crew) (d : Disk) :
    ((removing name).serve trouble crew d).2 = (crew.remove name trouble d).2 := by
  rw [serve]
  rcases crew.remove name trouble d with ⟨answer, crew', d'⟩
  rcases answer with error | awaited
  · rfl
  · cases awaited with
    | none => rfl
    | some number => rfl

/-- Who has removed a log with a worker waits for it. -/
theorem serve_removing_of_some {name : String} {trouble : Option Disk.Trouble} {d : Disk}
    (h : (crew.remove name trouble d).1 = .ok (some number)) :
    ((removing name).serve trouble crew d).1 = waiting name number := by
  rw [serve]
  rcases hremove : crew.remove name trouble d with ⟨answer, crew', d'⟩
  rw [hremove] at h
  obtain rfl : answer = .ok (some number) := h
  rfl

theorem awaits_eq_some_iff {name : String} {caller : Caller} :
    caller.awaits name = some number ↔ caller = waiting name number := by
  cases caller with
  | waiting log awaited =>
    rw [awaits]
    by_cases heq : log = name
    · rw [if_pos heq, heq, Option.some.injEq, Caller.waiting.injEq, and_iff_right rfl]
    · rw [if_neg heq, Caller.waiting.injEq]
      exact iff_of_false nofun fun h => heq h.1
  | adding => exact iff_of_false nofun nofun
  | removing => exact iff_of_false nofun nofun
  | answered => exact iff_of_false nofun nofun

end Caller

namespace Traffic

theorem mem_awaited_iff {s : Traffic} {name : String} {number : Nat} :
    number ∈ s.awaited name ↔ Caller.waiting name number ∈ s.callers := by
  rw [awaited, List.mem_filterMap]
  constructor
  · rintro ⟨caller, hmem, hawaits⟩
    exact Caller.awaits_eq_some_iff.1 hawaits ▸ hmem
  · exact fun hmem => ⟨_, hmem, Caller.awaits_eq_some_iff.2 rfl⟩

/-! ### The invariant -/

/-- The crew is that of its roster, and who still works is accounted for. -/
structure Orderly (s : Traffic) : Prop where
  /-- Each log of the roster has a worker of its own. -/
  staffed : s.crew.Staffed s.crew.roster
  /-- Who still works fills its log, or is waited for. -/
  accounted : s.crew.Accounted s.callers

theorem orderly_start (statePath : String) (maxSize : Nat) (roster : Roster) (store : Store) (disk : Disk) :
    (start statePath maxSize roster store disk).Orderly where
  staffed := by
    have hroster : (Crew.start statePath maxSize roster).roster = roster := (Crew.roster_start _ _ _).1
    change (Crew.start statePath maxSize roster).Staffed (Crew.start statePath maxSize roster).roster
    rw [hroster]
    exact Crew.staffed_start statePath maxSize roster
  accounted := Crew.accounted_start statePath maxSize roster

variable {s : Traffic}

/-- Serving a caller keeps order. -/
theorem Orderly.serve (h : s.Orderly) (number : Nat) (trouble : Option Disk.Trouble) :
    (s.after (.serve number trouble)).Orderly := by
  rw [after]
  split
  · rename_i caller hcaller
    -- all that wait go on waiting
    have hkeep (caller' : Caller) (hstays : ∀ name awaited, caller = .waiting name awaited → caller' = caller) :
        ∀ name awaited, Caller.waiting name awaited ∈ s.callers →
          Caller.waiting name awaited ∈ s.callers.set number caller' :=
      fun name awaited => Caller.mem_set_of_keeps hcaller fun heq => (hstays name awaited heq).trans heq
    cases caller with
    | adding name source =>
      obtain ⟨hstaffed, haccounted⟩ := h.accounted.add h.staffed name source trouble s.disk
      exact ⟨hstaffed, haccounted.mono fun log awaited _ => hkeep _ nofun log awaited⟩
    | removing name =>
      have hcallers := hkeep ((Caller.removing name).serve trouble s.crew s.disk).1 nofun
      obtain ⟨hstaffed, haccounted⟩ := h.accounted.remove h.staffed name trouble s.disk hcallers
        fun awaited hremoved => by
          rw [Caller.serve_removing_of_some hremoved]
          exact List.mem_set (List.getElem?_eq_some_iff.1 hcaller).1 _
      rw [← Caller.serve_removing] at hstaffed haccounted
      exact ⟨hstaffed, haccounted⟩
    | waiting name awaited =>
      exact ⟨h.staffed, h.accounted.mono fun log other _ => hkeep _ (fun _ _ _ => rfl) log other⟩
    | answered answer =>
      exact ⟨h.staffed, h.accounted.mono fun log other _ => hkeep _ (fun _ _ _ => rfl) log other⟩
  · exact h

/-- **Every move keeps order.** -/
theorem Orderly.after (h : s.Orderly) (move : Move) : (s.after move).Orderly := by
  cases move with
  | add name source => exact ⟨h.staffed, h.accounted.mono fun _ _ _ hmem => List.mem_append_left _ hmem⟩
  | remove name => exact ⟨h.staffed, h.accounted.mono fun _ _ _ hmem => List.mem_append_left _ hmem⟩
  | serve number trouble => exact h.serve number trouble
  | resume number => exact ⟨h.staffed, h.accounted.mono fun _ _ hbusy hmem => Caller.mem_modify_of_isBusy hbusy hmem⟩
  | work number draw =>
    obtain ⟨halike, -⟩ := s.crew.alike_step number s.disk s.store draw
    refine ⟨?_, h.accounted.of_onward halike (s.crew.onward_step number s.disk s.store draw)⟩
    change Crew.Staffed _ (s.crew.step number s.disk s.store draw).1.roster
    rw [halike.roster]
    exact h.staffed.of_alike halike
  | arrive path bytes =>
    have halike := s.crew.alike_deliver path bytes s.disk
    refine ⟨?_, h.accounted.of_onward halike (s.crew.onward_deliver path bytes s.disk)⟩
    change Crew.Staffed _ (s.crew.deliver path bytes s.disk).roster
    rw [halike.roster]
    exact h.staffed.of_alike halike
  | change store disk => exact ⟨h.staffed, h.accounted⟩

/-- **Order is kept, whatever callers and workers do.** -/
theorem Orderly.run (h : s.Orderly) (moves : List Move) : (s.run moves).Orderly := by
  induction moves generalizing s with
  | nil => exact h
  | cons move rest ih => exact ih (h.after move)

/-- In order, of the workers of a log that have not come to an end, all but one are waited for. -/
theorem Orderly.length_unfinished_le (h : s.Orderly) (name : String) :
    (s.crew.unfinished name).length ≤ 1 + (s.awaited name).length := by
  have hsubset : s.crew.unfinished name ⊆ (s.crew.holders.find? name).toList ++ s.awaited name := by
    intro number hmem
    obtain ⟨w, hw, rfl, hbusy⟩ := Crew.mem_unfinished_iff.1 hmem
    rw [List.mem_append]
    cases hcancelled : w.cancelled with
    | false =>
      rw [h.accounted.running number w hw hbusy hcancelled]
      exact Or.inl List.mem_cons_self
    | true => exact Or.inr (mem_awaited_iff.2 (h.accounted.stopping number w hw hbusy hcancelled))
  have hle := (s.crew.nodup_unfinished name).length_le_of_subset hsubset
  have hone : (s.crew.holders.find? name).toList.length ≤ 1 := by
    cases s.crew.holders.find? name with
    | none => exact Nat.zero_le 1
    | some number => exact Nat.le_refl 1
  rw [List.length_append] at hle
  omega

/-! ### Workers that have been told to stop -/

end Traffic

namespace Crew

/-- A worker has been told to stop, and it has no more than some steps left. -/
def Stopping (c : Crew) (number steps : Nat) : Prop :=
  ∃ w : Worker, c.workers[number]? = some w ∧ w.cancelled = true ∧ w.progress.owing ≤ steps

variable {c : Crew} {number steps : Nat}

/-- Two steps are enough for any worker that has been told to stop. -/
theorem stopping_of_cancelled {w : Worker} (hw : c.workers[number]? = some w) (hcancelled : w.cancelled = true) :
    c.Stopping number 2 := by
  refine ⟨w, hw, hcancelled, ?_⟩
  cases w.progress with
  | opening => exact Nat.le_refl 2
  | reading => exact Nat.le_succ 1
  | appending => exact Nat.le_refl 2
  | finished => exact Nat.zero_le 2

theorem Stopping.isBusy_eq_false (h : c.Stopping number 0) : c.isBusy number = false := by
  obtain ⟨w, hw, -, howing⟩ := h
  have hfinished : w.isFinished = true := Worker.isFinished_iff.2 (Nat.le_zero.1 howing)
  rw [isBusy, hw]
  simp only [hfinished, Bool.not_true]

theorem Stopping.hire (h : c.Stopping number steps) (name source : String) :
    (c.hire name source).Stopping number steps := by
  obtain ⟨w, hw, hrest⟩ := h
  exact ⟨w, (List.getElem?_append_left (List.getElem?_eq_some_iff.1 hw).1).trans hw, hrest⟩

theorem Stopping.dismiss (h : c.Stopping number steps) (other : Nat) : (c.dismiss other).Stopping number steps := by
  obtain ⟨w, hw, hcancelled, howing⟩ := h
  by_cases hother : other = number
  · subst hother
    refine ⟨w.cancel, ?_, rfl, howing⟩
    change (c.workers.modify other Worker.cancel)[other]? = _
    rw [List.getElem?_modify_eq, hw]
    rfl
  · exact ⟨w, (List.getElem?_modify_ne _ _ hother).trans hw, hcancelled, howing⟩

theorem Stopping.add (h : c.Stopping number steps) (name source : String) (trouble : Option Disk.Trouble)
    (d : Disk) : (c.add name source trouble d).2.1.Stopping number steps := by
  rcases c.add_cases name source trouble d with ⟨error, -, hadd⟩ | ⟨-, ⟨error, d', -, hadd⟩ | ⟨d', -, hadd⟩⟩
  · rw [hadd]
    exact h
  · rw [hadd]
    exact h
  · rw [hadd]
    have hnamed : ({ c with roster := c.roster.insert name ⟨source⟩ } : Crew).Stopping number steps := h
    exact hnamed.hire name source

theorem Stopping.remove (h : c.Stopping number steps) (hstaffed : c.Staffed c.roster) (name : String)
    (trouble : Option Disk.Trouble) (d : Disk) : (c.remove name trouble d).2.1.Stopping number steps := by
  rcases remove_cases hstaffed name trouble d with
    ⟨-, hremove⟩ | ⟨error, d', -, hremove⟩ | ⟨other, d', -, -, hremove⟩
  · rw [hremove]
    exact h
  · rw [hremove]
    exact h
  · rw [hremove]
    have hfreed : ({ c with roster := c.roster.erase name, holders := c.holders.erase name } : Crew).Stopping
        number steps := h
    exact hfreed.dismiss other

/-- The steps of others lead a worker neither on nor back. -/
theorem Stopping.step_of_ne (h : c.Stopping number steps) {other : Nat} (hne : other ≠ number) (d : Disk)
    (store : Store) (draw : Draw) : (c.step other d store draw).1.Stopping number steps := by
  rw [step]
  split
  · split
    · obtain ⟨w, hw, hrest⟩ := h
      exact ⟨w, (List.getElem?_set_ne hne).trans hw, hrest⟩
    · exact h
  · exact h

/-- Its own step brings a worker closer to its end. -/
theorem Stopping.step_self (h : c.Stopping number steps) (d : Disk) (store : Store) (draw : Draw) :
    (c.step number d store draw).1.Stopping number (steps - 1) := by
  obtain ⟨w, hw, hcancelled, howing⟩ := h
  cases hstep : w.step d store draw with
  | none =>
    simp only [step, hw, hstep]
    have hzero := Worker.owing_eq_zero_of_step hcancelled hstep
    exact ⟨w, hw, hcancelled, by omega⟩
  | some result =>
    obtain ⟨w', store'⟩ := result
    simp only [step, hw, hstep]
    have hlt := Worker.owing_lt_of_step hcancelled hstep
    obtain ⟨-, -, htold⟩ := Worker.badge_eq_iff.1 (Worker.badge_of_step hstep).1
    exact ⟨w', List.getElem?_set_self (List.getElem?_eq_some_iff.1 hw).1, htold.trans hcancelled, by omega⟩

theorem Stopping.deliver (h : c.Stopping number steps) (path : String) (bytes : Bytes) (d : Disk) :
    (c.deliver path bytes d).Stopping number steps := by
  rw [Crew.deliver]
  split
  · exact h
  · obtain ⟨w, hw, hcancelled, howing⟩ := h
    refine ⟨_, (List.getElem?_map ..).trans (congrArg _ hw), ?_⟩
    have honward := w.onward_deliver bytes
    obtain ⟨-, -, htold⟩ := Worker.badge_eq_iff.1 honward.badge
    dsimp only
    split
    · split
      · exact ⟨htold.trans hcancelled, Nat.le_trans (honward.owing hcancelled) howing⟩
      · exact ⟨hcancelled, howing⟩
    · exact ⟨hcancelled, howing⟩

end Crew

namespace Traffic

/-- Whether a move is a step of a worker. -/
def Move.isStepOf (number : Nat) : Move → Bool
  | .work other _ => decide (other = number)
  | _ => false

variable {s : Traffic} {number n : Nat}

/-- No move leads a worker back that has been told to stop, and its own steps bring it closer to its end. -/
theorem Orderly.stopping_after (h : s.Orderly) (hstopping : s.crew.Stopping number n) (move : Move) :
    (s.after move).crew.Stopping number (n - if move.isStepOf number then 1 else 0) := by
  cases move with
  | add name source => exact hstopping
  | remove name => exact hstopping
  | resume caller => exact hstopping
  | change store disk => exact hstopping
  | arrive path bytes => exact hstopping.deliver path bytes s.disk
  | serve caller trouble =>
    rw [Traffic.after]
    split
    · rename_i who _
      cases who with
      | adding name source => exact hstopping.add name source trouble s.disk
      | removing name =>
        have hremoved := hstopping.remove h.staffed name trouble s.disk
        rw [← Caller.serve_removing] at hremoved
        exact hremoved
      | waiting name awaited => exact hstopping
      | answered answer => exact hstopping
    · exact hstopping
  | work other draw =>
    by_cases hother : other = number
    · subst hother
      rw [Move.isStepOf, if_pos (decide_eq_true rfl)]
      exact hstopping.step_self s.disk s.store draw
    · rw [Move.isStepOf, if_neg (by simp [hother])]
      exact hstopping.step_of_ne hother s.disk s.store draw

/-- A worker that has been told to stop has fewer steps left for each step of its own in a run. -/
theorem Orderly.stopping_run (h : s.Orderly) (hstopping : s.crew.Stopping number n) (moves : List Move) :
    (s.run moves).crew.Stopping number (n - moves.countP (Move.isStepOf number)) := by
  induction moves generalizing s n with
  | nil => exact hstopping
  | cons move rest ih =>
    rw [List.countP_cons, Nat.add_comm, ← Nat.sub_sub]
    exact ih (h.after move) (h.stopping_after hstopping move)

/-- **A worker that has been told to stop has come to an end after two steps of its own**, whatever else happens. -/
theorem Orderly.isBusy_run (h : s.Orderly) {w : Worker} (hw : s.crew.workers[number]? = some w)
    (hcancelled : w.cancelled = true) (moves : List Move) (htwo : 2 ≤ moves.countP (Move.isStepOf number)) :
    (s.run moves).crew.isBusy number = false := by
  have hstopping := h.stopping_run (Crew.stopping_of_cancelled hw hcancelled) moves
  rw [Nat.sub_eq_zero_of_le htwo] at hstopping
  exact hstopping.isBusy_eq_false

/-- **Who still works for a log.**

A crew is started, and then clients add and remove logs, their calls are served one at a time, and workers take their
steps, all in any order.  A worker of a log that has not come to an end then fills the log, or it has been told to stop
and the caller that removed the log waits for it.  So there are two at a time only while a removal of the log has not
been answered. -/
theorem unfinished_accounted (statePath : String) (maxSize : Nat) (roster : Roster) (store : Store) (disk : Disk)
    (moves : List Move) (name : String) :
    let s := (start statePath maxSize roster store disk).run moves
    (s.crew.unfinished name).length ≤ 1 + (s.awaited name).length ∧
      ∀ number ∈ s.crew.unfinished name, ∃ w, s.crew.workers[number]? = some w ∧
        if w.cancelled then number ∈ s.awaited name else s.crew.holders.find? name = some number := by
  intro s
  have h : s.Orderly := (orderly_start statePath maxSize roster store disk).run moves
  refine ⟨h.length_unfinished_le name, fun number hmem => ?_⟩
  obtain ⟨w, hw, rfl, hbusy⟩ := Crew.mem_unfinished_iff.1 hmem
  refine ⟨w, hw, ?_⟩
  split
  · next hcancelled => exact mem_awaited_iff.2 (h.accounted.stopping number w hw hbusy hcancelled)
  · next hcancelled =>
    exact h.accounted.running number w hw hbusy (Bool.eq_false_iff.2 hcancelled)

/-- A log is removed while its worker reads a pipe, and before the worker has come to an end another client adds the log
again: two workers read for it, and a caller waits for the one that has been told to stop. -/
theorem unfinished_removed_and_added :
    let disk : Disk := Disk.blank.put ["home"] .folder |>.put ["p"] .pipe
    let roster : Roster := SortedMap.empty.insert "a" ⟨"p"⟩
    let draw : Draw := ⟨.ofNanos 0, .error "none"⟩
    let s := (start "home/logd.json" 8 roster { settings := {}, table? := none } disk).run
      [.work 0 draw, .remove "a", .add "a" "p", .serve 0 none, .serve 1 none, .work 1 draw]
    s.crew.unfinished "a" = [0, 1] ∧ s.awaited "a" = [0] ∧
      s.crew.workers.map (·.progress) = [.reading none ⟨[], false⟩, .reading none ⟨[], false⟩] := by
  decide +kernel

end Traffic

end Logbook
