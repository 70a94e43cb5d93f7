import Logbook.Proofs.Disk
import Logbook.Proofs.Generator
import Logbook.Proofs.Table
import Logbook.Store

/-!
# What an open store does

Each operation of a store that is open, said on the lists of events in its table.

## Main definitions

* `Store.eventsOf` — the events of a log that are stored.
* `Store.Remains` — what changes leave alone: the settings, and whether the store is open.

## Main results

* `Store.read_eq`, `Store.lastEvent_eq`, `Store.count_eq` — reads.
* `Store.evict_eq` — an eviction is a removal, also where nothing is to be removed.
* `Store.add_cases` — an append fails without a trace, or adds the row of the new event.
* `Store.inRange_of_add` — the milliseconds never go back.
* `Store.open_cases`, `Store.node?_close` — what opening and closing do to the disk.
-/

namespace Logbook

namespace Query

@[simp] theorem select_plain (limit : Nat) (direction : Direction) (events : List Event) :
    select { limit, direction } events = events := by
  rw [select, List.filter_eq_self]
  intro e _
  rfl

theorem answer_plain (limit : Nat) (direction : Direction) (events : List Event) :
    answer { limit, direction } events = Page.cut direction limit events := by
  rw [answer, select_plain]

theorem answer_of_limit_zero {q : Query} (h : q.limit = 0) (events : List Event) :
    q.answer events = [] := by
  rw [answer, h]
  cases q.direction with
  | forward => rw [Page.cut, List.take_zero]
  | backward => rw [Page.cut, Nat.sub_zero, List.drop_length]

end Query

namespace Store

/-- The events of a log that are stored, in ascending order. -/
def eventsOf (s : Store) (log : String) : List Event :=
  match s.table? with
  | some t => t.eventsOf log
  | none => []

section Open

variable {s : Store} {t : Table} {log : String}

theorem eventsOf_eq (ht : s.table? = some t) : s.eventsOf log = t.eventsOf log := by
  rw [eventsOf, ht]

theorem table_eq (ht : s.table? = some t) : s.table = .ok t := by
  rw [table, ht]

theorem begin_eq (ht : s.table? = some t) : s.begin = .ok ⟨t⟩ := by
  rw [begin, table_eq ht]
  rfl

theorem commit_self (ht : s.table? = some t) : s.commit ⟨t⟩ = s := by
  rw [commit, ← ht]

/-! ### Reads -/

/-- A read finds what the query is to find. -/
theorem read_eq (ht : s.table? = some t) (hsound : t.Sound) (hlog : LogName.Valid log) (q : Query) :
    s.read log q = .ok (q.answer (t.eventsOf log)) := by
  unfold read
  by_cases hlimit : q.limit = 0
  · rw [if_pos hlimit, Query.answer_of_limit_zero hlimit]
  · rw [if_neg hlimit, table_eq ht]
    exact Table.read_eq hsound hlog q

theorem lastEvent_eq (ht : s.table? = some t) (hsound : t.Sound) (hlog : LogName.Valid log) :
    s.lastEvent log = .ok (t.eventsOf log).getLast? := by
  have hlast : (Page.cut .backward 1 (t.eventsOf log)).getLast? = (t.eventsOf log).getLast? := by
    rw [Page.cut, List.getLast?_drop]
    cases t.eventsOf log with
    | nil => rfl
    | cons e l => rw [if_neg (by simp)]
  rw [lastEvent, table_eq ht]
  change Table.lastEvent? t log = _
  rw [Table.lastEvent?, Table.read_eq hsound hlog, Query.answer_plain]
  exact congrArg Except.ok hlast

theorem count_eq (ht : s.table? = some t) (hsound : t.Sound) :
    s.count log = .ok (t.eventsOf log).length := by
  rw [count, table_eq ht, ← Table.count_eq hsound]
  rfl

/-! ### Removals -/

theorem trim_eq (ht : s.table? = some t) (log : String) (keep : Nat) :
    s.trim log keep = (.ok (t.trim log keep).2, s.commit ⟨(t.trim log keep).1⟩) := by
  rw [trim, begin_eq ht]
  rfl

theorem overfull_iff (r : Retention) (t : Table) (log : String) :
    overfull r t log = true ↔ ¬ t.count log ≤ r.keep := by
  rw [overfull, Retention.excess, bne_iff_ne, ne_eq, Nat.sub_eq_zero_iff_le]

/-- An eviction is a removal, also where nothing is to be removed. -/
theorem evict_eq (ht : s.table? = some t) (log : String) :
    s.evict log = s.trim log s.settings.retention.keep := by
  rw [evict, table_eq ht]
  dsimp only
  by_cases hfull : overfull s.settings.retention t log = true
  · rw [if_pos hfull]
  · have hcount : t.count log ≤ s.settings.retention.keep := Decidable.not_not.1 (mt (overfull_iff _ t log).2 hfull)
    rw [if_neg hfull, trim_eq ht, Table.trim_of_count_le hcount, commit_self ht]

/-! ### Appends -/

theorem valueOf_eq (hlog : LogName.Valid log) (timestamp : Instant) (message : Bytes) :
    valueOf log timestamp message = Entry.value timestamp message := by
  rw [valueOf, LogName.check, if_pos hlog]
  rfl

theorem mint_of_error {draw : Draw} {error : EventError} {g : Generator}
    (h : s.generator.next draw.now.millis draw.entropy = (.error error, g)) :
    s.mint draw = (.error (.event error), s) := by
  rw [mint, h, Generator.eq_of_next_error h]
  rfl

theorem mint_of_ok {draw : Draw} {id : EventId} {g : Generator}
    (h : s.generator.next draw.now.millis draw.entropy = (.ok id, g)) :
    s.mint draw = (.ok id, { s with generator := g }) := by
  rw [mint, h]
  rfl

/-- An append fails without a trace, or mints an identifier and adds the row of the new event. -/
theorem add_cases (ht : s.table? = some t) (hlog : LogName.Valid log) (timestamp : Instant)
    (message : Bytes) (draw : Draw) :
    (timestamp.nanos? = none ∧
      s.add log timestamp message draw = (.error (.invalidTimestamp timestamp.shown), s)) ∨
    ∃ n, timestamp.nanos? = some n ∧
      ((∃ error, s.generator.next draw.now.millis draw.entropy = (.error error, s.generator) ∧
        s.add log timestamp message draw = (.error (.event error), s)) ∨
      ∃ id g, s.generator.next draw.now.millis draw.entropy = (.ok id, g) ∧
        s.add log timestamp message draw =
          (.ok id, { s with
            generator := g
            table? := some (t.insert (Entry.key log id) (Entry.payload n message)) })) := by
  unfold add
  rw [valueOf_eq hlog, begin_eq ht, Entry.value]
  cases hn : timestamp.nanos? with
  | none => exact Or.inl ⟨rfl, rfl⟩
  | some n =>
    refine Or.inr ⟨n, rfl, ?_⟩
    cases hnext : s.generator.next draw.now.millis draw.entropy with
    | mk result g =>
      cases result with
      | error error =>
        obtain rfl := Generator.eq_of_next_error hnext
        refine Or.inl ⟨error, rfl, ?_⟩
        dsimp only
        rw [mint_of_error hnext]
      | ok id =>
        refine Or.inr ⟨id, g, rfl, ?_⟩
        dsimp only
        rw [mint_of_ok hnext]
        rfl

end Open

/-- Nothing is appended to a store that has been closed. -/
theorem add_closed {s : Store} {log : String} {timestamp : Instant} (ht : s.table? = none) (hlog : LogName.Valid log)
    (htime : timestamp.nanos? ≠ none) (message : Bytes) (draw : Draw) :
    s.add log timestamp message draw = (.error .closed, s) := by
  obtain ⟨n, hn⟩ := Option.ne_none_iff_exists'.1 htime
  rw [add, valueOf_eq hlog, Entry.value, hn, begin, table, ht]
  rfl

/-- An event with a name and a time that can be stored is added, unless the store has been closed or there is no
entropy. -/
theorem error_of_add {s : Store} {log : String} {timestamp : Instant} {message : Bytes} {draw : Draw}
    (hlog : LogName.Valid log) (htime : timestamp.nanos? ≠ none) {error : StoreError}
    (h : (s.add log timestamp message draw).1 = .error error) :
    error = .closed ∨ ∃ reason, error = .event (.entropy reason) := by
  cases ht : s.table? with
  | none =>
    rw [add_closed ht hlog htime] at h
    cases h
    exact Or.inl rfl
  | some t =>
    rcases add_cases ht hlog timestamp message draw with ⟨hnone, -⟩ | ⟨n, -, ⟨fault, hnext, hadd⟩ | ⟨id, g, -, hadd⟩⟩
    · exact absurd hnone htime
    · obtain ⟨reason, rfl⟩ := Generator.error_of_next hnext
      rw [hadd] at h
      cases h
      exact Or.inr ⟨reason, rfl⟩
    · rw [hadd] at h
      cases h

/-! ### The milliseconds of the generator -/

section InRange

variable {s : Store} {log : String}

theorem inRange_of_add {timestamp : Instant} {message : Bytes} {draw : Draw}
    (h : (s.add log timestamp message draw).2.generator.InRange) : s.generator.InRange := by
  unfold add at h
  split at h
  · exact h
  · exact h
  · split at h
    · next hmint =>
      have hnext := congrArg (fun p => p.2.generator) hmint
      exact Generator.inRange_of_next (hnext ▸ h)
    · next hmint =>
      have hnext := congrArg (fun p => p.2.generator) hmint
      exact Generator.inRange_of_next (hnext ▸ h)

theorem generator_trim (s : Store) (log : String) (keep : Nat) :
    (s.trim log keep).2.generator = s.generator := by
  unfold trim
  split <;> rfl

theorem generator_evict (s : Store) (log : String) :
    (s.evict log).2.generator = s.generator := by
  unfold evict
  split
  · rfl
  · split
    · exact generator_trim _ _ _
    · rfl

end InRange

/-! ### Opening and closing -/

section Opening

open Disk

variable {d : Disk}

/-- A store takes its table off where no folder stands, and no database that is open. -/
theorem acquire_cases (path : String) (d : Disk) :
    (∃ error, acquire path d = .error error) ∨
      ∃ t, d.locate path = .ok (Path.goal path) ∧ d.node? (Path.goal path) ≠ some .folder ∧
        d.node? (Path.goal path) ≠ some (.database none) ∧
          acquire path d = .ok (t, d.put (Path.goal path) (.database none)) := by
  rw [acquire]
  cases hlocate : d.locate path with
  | error error => exact Or.inl ⟨_, rfl⟩
  | ok location =>
    obtain rfl := locate_eq_goal hlocate
    simp only []
    split
    · exact Or.inl ⟨_, rfl⟩
    · rw [takeTable]
      split
      · rename_i t hnode
        exact Or.inr ⟨t, trivial, by rw [hnode]; exact nofun, by rw [hnode]; exact nofun, rfl⟩
      · exact Or.inl ⟨_, rfl⟩
      · rename_i hnode
        exact Or.inr ⟨_, trivial, by rw [hnode]; exact nofun, by rw [hnode]; exact nofun, rfl⟩
      · rename_i hnode
        exact Or.inr ⟨_, trivial, by rw [hnode]; exact nofun, by rw [hnode]; exact nofun, rfl⟩
      · exact Or.inl ⟨_, rfl⟩

/-- Opening a store makes folders on the way to its database and takes the table off where it leads. -/
theorem open_cases (settings : StoreSettings) (d : Disk) :
    ∃ made, Gains (Path.way settings.path) d made ∧
      ((∃ error, Store.open settings d = (.error error, made)) ∨
        ∃ t, made.locate settings.path = .ok (Path.goal settings.path) ∧
          made.node? (Path.goal settings.path) ≠ some .folder ∧
          made.node? (Path.goal settings.path) ≠ some (.database none) ∧ Store.open settings d =
            (.ok { settings, table? := some t }, made.put (Path.goal settings.path) (.database none))) := by
  have hgains := (gains_makeFolders d (Path.parent settings.path)).mono
    (fun l hl => List.dropLast_subset _ (Path.way_parent_subset settings.path hl))
  refine ⟨_, hgains, ?_⟩
  rw [Store.open, perform]
  rcases d.makeFolders (Path.parent settings.path) with ⟨result, made⟩
  cases result with
  | error error => exact Or.inl ⟨_, rfl⟩
  | ok =>
    rcases acquire_cases settings.path made with ⟨error, herror⟩ | ⟨t, hlocate, hno, hfree, hok⟩
    · exact Or.inl ⟨error, by simp only [herror]⟩
    · exact Or.inr ⟨t, hlocate, hno, hfree, by simp only [hok]⟩

/-- Closing a store puts its table back where its path leads. -/
theorem node?_close (s : Store) {location : List String} (hne : Path.goal s.settings.path ≠ location) :
    (s.close d).2.node? location = d.node? location := by
  rw [close]
  split
  · rw [Disk.place]
    split
    · rename_i hlocate
      obtain rfl := locate_eq_goal hlocate
      exact node?_put_of_ne hne.symm
    · rfl
  · rfl

end Opening

/-! ### What changes leave alone -/

/-- The second store is the first after changes of its table and of what mints identifiers. -/
structure Remains (s s' : Store) : Prop where
  /-- It is kept as before. -/
  settings : s'.settings = s.settings
  /-- It has not been closed, nor opened. -/
  isOpen : s'.isOpen = s.isOpen

section Remains

variable {s s' s'' : Store}

theorem Remains.refl (s : Store) : s.Remains s := ⟨rfl, rfl⟩

theorem Remains.trans (h : s.Remains s') (h' : s'.Remains s'') : s.Remains s'' :=
  ⟨h'.settings.trans h.settings, h'.isOpen.trans h.isOpen⟩

/-- A transaction is opened on a store that is open, so it may be committed. -/
theorem remains_commit {draft : Draft} (h : s.begin = .ok draft) (changed : Draft) : s.Remains (s.commit changed) := by
  refine ⟨rfl, ?_⟩
  cases ht : s.table? with
  | none =>
    rw [begin, table, ht] at h
    cases h
  | some t => rw [isOpen, isOpen, ht, commit, Option.isSome_some, Option.isSome_some]

theorem remains_add (s : Store) (log : String) (timestamp : Instant) (message : Bytes) (draw : Draw) :
    s.Remains (s.add log timestamp message draw).2 := by
  unfold add
  split
  · exact .refl s
  · exact .refl s
  · rename_i draft _ hbegin
    have hmint : s.Remains (s.mint draw).2 := ⟨rfl, rfl⟩
    split
    · rename_i hresult
      rwa [hresult] at hmint
    · rename_i minted hresult
      rw [hresult] at hmint
      have hminted : minted.begin = .ok draft := by
        obtain rfl := (congrArg Prod.snd hresult).symm
        exact hbegin
      exact hmint.trans (remains_commit hminted _)

theorem remains_trim (s : Store) (log : String) (keep : Nat) : s.Remains (s.trim log keep).2 := by
  unfold trim
  split
  · exact .refl s
  · exact remains_commit ‹_› _

theorem remains_evict (s : Store) (log : String) : s.Remains (s.evict log).2 := by
  unfold evict
  split
  · exact .refl s
  · split
    · exact s.remains_trim _ _
    · exact .refl s

theorem remains_evictEach (s : Store) (logs : List String) : s.Remains (s.evictEach logs).2 := by
  induction logs generalizing s with
  | nil => exact .refl s
  | cons log rest ih =>
    have hevict := s.remains_evict log
    rw [evictEach]
    split
    all_goals
      rename_i hone
      rw [hone] at hevict
    · exact hevict
    · exact hevict.trans (ih _)

theorem remains_evictAll (s : Store) : s.Remains s.evictAll.2 := by
  rw [evictAll]
  split
  · exact .refl s
  · exact s.remains_evictEach _

theorem remains_clearEach (s : Store) (logs : List String) : s.Remains (s.clearEach logs).2 := by
  induction logs generalizing s with
  | nil => exact .refl s
  | cons log rest ih =>
    have hclear : s.Remains (s.clear log).2 := s.remains_trim log 0
    rw [clearEach]
    split
    all_goals
      rename_i hone
      rw [hone] at hclear
    · exact hclear
    · exact hclear.trans (ih _)

end Remains

end Store

end Logbook
