import Logbook.Crew
import Logbook.Proofs.SortedMap
import Logbook.Proofs.Store

/-!
# Who fills which log

Whatever a worker does, it fills the log and reads the source that it was started with, and only a crew tells it to
stop.  So the workers of a crew are those of its roster as long as the two are changed together.

## Main definitions

* `Worker.badge` — what a worker is started with and whether it has been told to stop.
* `Crew.Staffed` — each log of a roster has a worker of its own, and no other log has one.
* `Crew.Alike` — two crews that differ in how far their workers have come.

## Main results

* `Crew.alike_step`, `Crew.alike_settle`, `Crew.alike_settleAll`, `Crew.alike_deliver` — what workers do leaves crews
  alike.
* `Crew.staffed_start`, `Crew.workers_start` — a crew that is started is staffed, with new workers.
* `Crew.Staffed.hire`, `Crew.Staffed.release` — it is after a log was added or removed.
* `Crew.add_cases`, `Crew.remove_cases` — **what an addition and a removal can come to.**
-/

namespace Logbook

/-! ### Workers -/

namespace Worker

/-- What a worker is started with, and whether it has been told to stop. -/
def badge (w : Worker) : String × String × Bool := (w.log, w.source, w.cancelled)

theorem remains_append (w : Worker) (line : Line) (s : Stream) (store : Store) (draw : Draw) :
    store.Remains (w.append line s store draw).2 := by
  have hadd := store.remains_add w.log draw.now line.bytes draw
  rw [append]
  split
  all_goals
    rename_i hresult
    rw [hresult] at hadd
    exact hadd

variable {w w' : Worker} {d : Disk} {store store' : Store} {draw : Draw}

/-- A step changes no badge, and the store remains what it was. -/
theorem badge_of_step (h : w.step d store draw = some (w', store')) :
    w'.badge = w.badge ∧ store.Remains store' := by
  rw [step] at h
  split at h
  · obtain ⟨rfl, rfl⟩ := Prod.mk.inj (Option.some.inj h)
    exact ⟨rfl, .refl _⟩
  · split at h
    · obtain ⟨rfl, rfl⟩ := Prod.mk.inj (Option.some.inj h)
      exact ⟨rfl, .refl _⟩
    · split at h
      · obtain ⟨rfl, rfl⟩ := Prod.mk.inj (Option.some.inj h)
        exact ⟨rfl, .refl _⟩
      · cases h
  · obtain ⟨rfl, rfl⟩ := Prod.mk.inj (Option.some.inj h)
    exact ⟨rfl, w.remains_append _ _ _ _⟩
  · cases h

theorem badge_settle (w : Worker) (d : Disk) (store : Store) (supply : Supply) :
    (w.settle d store supply).1.badge = w.badge ∧ store.Remains (w.settle d store supply).2.1 := by
  fun_induction settle w d store supply with
  | case1 w store supply w' store' h ih =>
    obtain ⟨hbadge, hremains⟩ := badge_of_step h
    exact ⟨ih.1.trans hbadge, hremains.trans ih.2⟩
  | case2 => exact ⟨rfl, .refl _⟩

theorem badges_settleAll (d : Disk) (store : Store) (supply : Supply) (workers : List Worker) :
    (settleAll d store supply workers).1.map badge = workers.map badge ∧
      store.Remains (settleAll d store supply workers).2.1 := by
  induction workers generalizing store supply with
  | nil => exact ⟨rfl, .refl _⟩
  | cons w rest ih =>
    obtain ⟨hbadge, hremains⟩ := badge_settle w d store supply
    obtain ⟨hbadges, hrest⟩ := ih (w.settle d store supply).2.1 (w.settle d store supply).2.2
    exact ⟨congrArg₂ List.cons hbadge hbadges, hremains.trans hrest⟩

end Worker

/-! ### Crews -/

namespace Crew

variable {c c' : Crew} {r : Roster}

/-- Each log of a roster has a worker of its own, which reads its source and has not been told to stop, and no other
log has a worker. -/
structure Staffed (c : Crew) (r : Roster) : Prop where
  /-- The logs that have a worker are those of the roster. -/
  logs : ∀ name, name ∈ c.holders.keys ↔ name ∈ r.keys
  /-- The worker of a log. -/
  workers : ∀ name number, c.holders.find? name = some number → ∃ feed w, r.find? name = some feed ∧
    c.workers[number]? = some w ∧ w.badge = (name, feed.source, false)

/-- Two crews that differ in no more than in how far their workers have come. -/
structure Alike (c c' : Crew) : Prop where
  /-- The state file is the same. -/
  statePath : c'.statePath = c.statePath
  /-- The roster is the same. -/
  roster : c'.roster = c.roster
  /-- The same workers fill the same logs. -/
  holders : c'.holders = c.holders
  /-- The workers have the same badges. -/
  badges : c'.workers.map Worker.badge = c.workers.map Worker.badge

theorem Alike.refl (c : Crew) : Alike c c := ⟨rfl, rfl, rfl, rfl⟩

/-- A crew stays staffed while its workers go on. -/
theorem Staffed.of_alike (h : c.Staffed r) (halike : Alike c c') : c'.Staffed r where
  logs := by
    rw [halike.holders]
    exact h.logs
  workers := by
    intro name number hnumber
    rw [halike.holders] at hnumber
    obtain ⟨feed, w, hfeed, hw, hbadge⟩ := h.workers name number hnumber
    have hmap := congrArg (·[number]?) halike.badges
    simp only [List.getElem?_map, hw, Option.map_some] at hmap
    obtain ⟨w', hw', heq⟩ := Option.map_eq_some_iff.1 hmap
    exact ⟨feed, w', hfeed, hw', heq.trans hbadge⟩

/-! ### Steps of the workers -/

theorem alike_set {number : Nat} {w w' : Worker} (hw : c.workers[number]? = some w) (hbadge : w'.badge = w.badge) :
    Alike c { c with workers := c.workers.set number w' } := by
  refine ⟨rfl, rfl, rfl, ?_⟩
  obtain ⟨hlt, rfl⟩ := List.getElem?_eq_some_iff.1 hw
  show (c.workers.set number w').map Worker.badge = _
  rw [List.map_set, hbadge, ← List.getElem_map Worker.badge (h := by simpa using hlt), List.set_getElem_self]

theorem alike_step (c : Crew) (number : Nat) (d : Disk) (store : Store) (draw : Draw) :
    Alike c (c.step number d store draw).1 ∧ store.Remains (c.step number d store draw).2 := by
  rw [step]
  split
  · rename_i w hw
    split
    · rename_i w' store' hstep
      obtain ⟨hbadge, hremains⟩ := Worker.badge_of_step hstep
      exact ⟨alike_set hw hbadge, hremains⟩
    · exact ⟨Alike.refl c, .refl _⟩
  · exact ⟨Alike.refl c, .refl _⟩

theorem alike_settle (c : Crew) (number : Nat) (d : Disk) (store : Store) (supply : Supply) :
    Alike c (c.settle number d store supply).1 ∧ store.Remains (c.settle number d store supply).2.1 := by
  rw [settle]
  split
  · rename_i w hw
    obtain ⟨hbadge, hremains⟩ := w.badge_settle d store supply
    exact ⟨alike_set hw hbadge, hremains⟩
  · exact ⟨Alike.refl c, .refl _⟩

theorem alike_settleAll (c : Crew) (d : Disk) (store : Store) (supply : Supply) :
    Alike c (c.settleAll d store supply).1 ∧ store.Remains (c.settleAll d store supply).2.1 := by
  obtain ⟨hbadges, hremains⟩ := Worker.badges_settleAll d store supply c.workers
  exact ⟨⟨rfl, rfl, rfl, hbadges⟩, hremains⟩

theorem alike_deliver (c : Crew) (path : String) (bytes : Bytes) (d : Disk) : Alike c (c.deliver path bytes d) := by
  rw [deliver]
  split
  · exact Alike.refl c
  · refine ⟨rfl, rfl, rfl, ?_⟩
    rw [List.map_map]
    refine List.map_congr_left fun w _ => ?_
    rw [Function.comp_apply]
    split
    · split <;> rfl
    · rfl

/-! ### Changes of the roster -/

/-- A worker that is started fills a log that has been added. -/
theorem Staffed.hire (h : c.Staffed r) (name source : String) :
    (c.hire name source).Staffed (r.insert name ⟨source⟩) where
  logs log := by
    rw [Crew.hire, SortedMap.mem_keys_insert, SortedMap.mem_keys_insert, h.logs]
  workers log number hnumber := by
    rw [Crew.hire] at hnumber ⊢
    -- the new worker has the first free number, which no other log holds
    by_cases hlog : log = name
    · subst hlog
      rw [SortedMap.find?_insert_self] at hnumber
      obtain rfl := Option.some.inj hnumber
      refine ⟨⟨source⟩, .new log source c.maxSize, SortedMap.find?_insert_self _ _ _, ?_, rfl⟩
      exact List.getElem?_concat_length
    · rw [SortedMap.find?_insert_of_ne hlog] at hnumber ⊢
      obtain ⟨feed, w, hfeed, hw, hbadge⟩ := h.workers log number hnumber
      refine ⟨feed, w, hfeed, ?_, hbadge⟩
      obtain ⟨hlt, -⟩ := List.getElem?_eq_some_iff.1 hw
      rw [List.getElem?_append_left hlt, hw]

/-- It does so too where the roster in memory has been changed, which concerns no worker. -/
theorem Staffed.enlist (h : c.Staffed r) (roster : Roster) (name source : String) :
    ({ c with roster }.hire name source).Staffed (r.insert name ⟨source⟩) :=
  have hstaffed : { c with roster }.Staffed r := ⟨h.logs, h.workers⟩
  hstaffed.hire name source

theorem Staffed.hireAll (h : c.Staffed r) (logs : List (String × Feed)) :
    (c.hireAll logs).Staffed (logs.foldl (fun r log => r.insert log.1 log.2) r) := by
  induction logs generalizing c r with
  | nil => exact h
  | cons log rest ih => exact ih (h.hire log.1 log.2.source)

/-- A crew is staffed when it is started. -/
theorem staffed_start (statePath : String) (maxSize : Nat) (r : Roster) :
    (start statePath maxSize r).Staffed r := by
  have hempty : ({ statePath, maxSize, roster := r } : Crew).Staffed .empty := by
    refine ⟨fun name => ?_, fun name number hnumber => ?_⟩
    · rw [SortedMap.mem_keys_iff, SortedMap.mem_keys_iff, SortedMap.find?_empty, SortedMap.find?_empty]
      exact Iff.rfl
    · rw [SortedMap.find?_empty] at hnumber
      cases hnumber
  -- hiring for each entry builds the roster again
  have hall := hempty.hireAll r.entries
  have hentries : r.entries.foldl (fun r log => r.insert log.1 log.2) .empty = r := r.ofEntries_entries
  rw [hentries] at hall
  exact hall

theorem hireAll_roster (c : Crew) (logs : List (String × Feed)) :
    (c.hireAll logs).roster = c.roster ∧ (c.hireAll logs).statePath = c.statePath := by
  induction logs generalizing c with
  | nil => exact ⟨rfl, rfl⟩
  | cons log rest ih => exact ih (c.hire log.1 log.2.source)

theorem workers_hireAll (c : Crew) (logs : List (String × Feed)) :
    (c.hireAll logs).workers = c.workers ++ logs.map fun log => .new log.1 log.2.source c.maxSize := by
  induction logs generalizing c with
  | nil => exact (List.append_nil _).symm
  | cons log rest ih =>
    refine (ih (c.hire log.1 log.2.source)).trans ?_
    rw [hire, List.map_cons, List.append_assoc, List.singleton_append]

/-- A crew that is started has a new worker for each log. -/
theorem workers_start (statePath : String) (maxSize : Nat) (r : Roster) :
    (start statePath maxSize r).workers = r.entries.map fun log => .new log.1 log.2.source maxSize :=
  workers_hireAll { statePath, maxSize, roster := r } r.entries

theorem roster_start (statePath : String) (maxSize : Nat) (r : Roster) :
    (start statePath maxSize r).roster = r ∧ (start statePath maxSize r).statePath = statePath :=
  hireAll_roster { statePath, maxSize, roster := r } r.entries

/-- A worker that is told to stop may have filled a log that has been removed. -/
theorem Staffed.release (h : c.Staffed r) {name : String} {number : Nat} (hnumber : c.holders.find? name = some number)
    (roster : Roster) :
    ({ c with roster, holders := c.holders.erase name }.dismiss number).Staffed (r.erase name) where
  logs log := by
    rw [dismiss, SortedMap.mem_keys_erase, SortedMap.mem_keys_erase, h.logs]
  workers log other hother := by
    rw [dismiss] at hother ⊢
    have hlog : log ≠ name := by
      rintro rfl
      rw [SortedMap.find?_erase_self] at hother
      cases hother
    rw [SortedMap.find?_erase_of_ne hlog] at hother ⊢
    obtain ⟨feed, w, hfeed, hw, hbadge⟩ := h.workers log other hother
    obtain ⟨_, w', -, hw', hbadge'⟩ := h.workers name number hnumber
    -- the worker that is told to stop has another log on its badge
    have hne : number ≠ other := by
      rintro rfl
      obtain rfl := Option.some.inj (hw.symm.trans hw')
      exact hlog (congrArg Prod.fst (hbadge.symm.trans hbadge'))
    refine ⟨feed, w, hfeed, ?_, hbadge⟩
    rw [List.getElem?_modify_ne _ _ hne, hw]

/-! ### Additions and removals -/

theorem objection_eq_none_iff {name source : String} :
    c.objection name source = none ↔ LogName.Valid name ∧ source ≠ "" ∧ c.roster.find? name = none := by
  rw [objection, SortedMap.contains]
  -- the objections in the order in which they are made
  by_cases hvalid : LogName.Valid name
  · by_cases hsource : source = ""
    · simp [hvalid, hsource]
    · cases hfind : c.roster.find? name <;> simp [hvalid, hsource]
  · simp [hvalid]

/-- An addition that is objected to changes nothing, nor does one whose roster cannot be saved but for the disk. -/
theorem add_cases (c : Crew) (name source : String) (trouble : Option Disk.Trouble) (d : Disk) :
    (∃ error, c.objection name source = some error ∧ c.add name source trouble d = (.error error, c, d)) ∨
      c.objection name source = none ∧
        ((∃ error d', StateFile.save c.statePath (c.roster.insert name ⟨source⟩) trouble d = (.error error, d') ∧
            c.add name source trouble d = (.error error, c, d')) ∨
          ∃ d', StateFile.save c.statePath (c.roster.insert name ⟨source⟩) trouble d = (.ok (), d') ∧
            c.add name source trouble d =
              (.ok (), { c with roster := c.roster.insert name ⟨source⟩ }.hire name source, d')) := by
  rw [add]
  cases hobjection : c.objection name source with
  | some error => exact Or.inl ⟨error, rfl, rfl⟩
  | none =>
    refine Or.inr ⟨rfl, ?_⟩
    rcases hsave : StateFile.save c.statePath (c.roster.insert name ⟨source⟩) trouble d with ⟨result, d'⟩
    cases result with
    | error error => exact Or.inl ⟨error, d', rfl, by simp only [hsave]⟩
    | ok => exact Or.inr ⟨d', rfl, by simp only [hsave]⟩

/-- A removal changes nothing where the log is not there, nor where the roster cannot be saved but for the disk.  Else
its worker is told to stop. -/
theorem remove_cases (h : c.Staffed c.roster) (name : String) (trouble : Option Disk.Trouble) (d : Disk) :
    (c.roster.find? name = none ∧ c.remove name trouble d = (.ok none, c, d)) ∨
      (∃ error d', StateFile.save c.statePath (c.roster.erase name) trouble d = (.error error, d') ∧
        c.remove name trouble d = (.error error, c, d')) ∨
      ∃ number d', c.holders.find? name = some number ∧
        StateFile.save c.statePath (c.roster.erase name) trouble d = (.ok (), d') ∧
        c.remove name trouble d = (.ok (some number),
          { c with roster := c.roster.erase name, holders := c.holders.erase name }.dismiss number, d') := by
  rw [remove]
  cases hfind : c.roster.find? name with
  | none => exact Or.inl ⟨rfl, rfl⟩
  | some feed =>
    refine Or.inr ?_
    rcases hsave : StateFile.save c.statePath (c.roster.erase name) trouble d with ⟨result, d'⟩
    cases result with
    | error error => exact Or.inl ⟨error, d', rfl, by simp only [hsave]⟩
    | ok =>
      -- a registered log has a worker
      have hkeys := (h.logs name).2 (SortedMap.mem_keys_iff.2 (by rw [hfind]; rfl))
      obtain ⟨number, hnumber⟩ := Option.isSome_iff_exists.1 (SortedMap.mem_keys_iff.1 hkeys)
      exact Or.inr ⟨number, d', hnumber, rfl, by simp only [hsave, hnumber]⟩

end Crew

end Logbook
