import Logbook.Proofs.Store
import Logbook.Store.Handle

/-!
# One table for separate lists

A store that was empty when it was opened behaves as if it kept a separate list of events for each log, although
all events stand in one table.  What a handle answers depends on the list of its own log only, and it changes no
other list.

## Main definitions

* `Ledger` — a separate list of events for each log.
* `Ledger.attend` — what a handle does, with nothing but the list of its log in sight.
* `Represents` — a store holds the lists of a ledger.

## Main results

* `represents_serve` — a request keeps a store and a ledger together, and both answer the same.
* `serveAll_eq_ledger` — **a store behaves as a ledger.**
-/

namespace Logbook

/-- A separate list of events for each log. -/
structure Ledger where
  /-- How many events are kept. -/
  retention : Retention
  /-- The source of identifiers. -/
  generator : Generator
  /-- The events of each log, oldest first. -/
  events : String → List Event

namespace Ledger

/-- What a call does to the events of the log.  Where it fails, there are no new events. -/
def attend (retention : Retention) (log : String) (call : HandleCall) (draw : Draw)
    (generator : Generator) (events : List Event) :
    Except StoreError (HandleAnswer × List Event) × Generator :=
  match call with
  | .add timestamp message => match timestamp.nanos? with
    | none => (.error (.invalidTimestamp timestamp.shown), generator)
    | some n => match generator.next draw.now.millis draw.entropy with
      | (.error error, generator) => (.error (.event error), generator)
      | (.ok id, generator) =>
        (.ok (.added id, events ++ [{ id, log, timestamp := .ofNanos n, message }]), generator)
  | .last => (.ok (.last events.getLast?, events), generator)
  | .count => (.ok (.counted events.length, events), generator)
  | .evict =>
    let surplus := events.length - retention.keep
    (.ok (.removed surplus, events.drop surplus), generator)
  | .clear => (.ok (.removed events.length, []), generator)
  | .read direction limit => (.ok (.events (Page.cut direction limit events), events), generator)

/-- Replaces the events of a log. -/
def put (l : Ledger) (log : String) (events : List Event) : Ledger :=
  { l with events := fun log' => if log' = log then events else l.events log' }

/-- Carries out a request. -/
def serve (l : Ledger) (r : HandleRequest) : Except StoreError HandleAnswer × Ledger :=
  match attend l.retention r.log r.call r.draw l.generator (l.events r.log) with
  | (.error error, generator) => (.error error, { l with generator })
  | (.ok (answer, events), generator) => (.ok answer, { l with generator }.put r.log events)

/-- Carries out requests one after another. -/
def serveAll (l : Ledger) : List HandleRequest → List (Except StoreError HandleAnswer) × Ledger
  | [] => ([], l)
  | r :: rest =>
    let (answer, l) := l.serve r
    let (answers, l) := l.serveAll rest
    (answer :: answers, l)

/-- The ledger without events that mints and evicts as a store does. -/
def blank (s : Store) : Ledger where
  retention := s.settings.retention
  generator := s.generator
  events _ := []

@[simp] theorem put_self (l : Ledger) (log : String) (events : List Event) :
    (l.put log events).events log = events := if_pos rfl

theorem put_of_ne (l : Ledger) {log log' : String} (h : log' ≠ log) (events : List Event) :
    (l.put log events).events log' = l.events log' := if_neg h

/-- A call fails only for want of a time that can be stored or of an identifier. -/
theorem attend_error {retention : Retention} {log : String} {call : HandleCall} {draw : Draw}
    {g : Generator} {events : List Event} {error : StoreError}
    (h : (attend retention log call draw g events).1 = .error error) :
    (∃ shown, error = .invalidTimestamp shown) ∨ ∃ e, error = .event e := by
  cases call with
  | add timestamp message =>
    unfold attend at h
    cases hn : timestamp.nanos? with
    | none =>
      simp only [hn] at h
      exact Or.inl ⟨_, (Except.error.inj h).symm⟩
    | some n =>
      cases hnext : g.next draw.now.millis draw.entropy with
      | mk result g' =>
        simp only [hn, hnext] at h
        cases result with
        | error e => exact Or.inr ⟨e, (Except.error.inj h).symm⟩
        | ok id => cases h
  | last => cases h
  | count => cases h
  | evict => cases h
  | clear => cases h
  | read direction limit => cases h

theorem serve_error {l : Ledger} {r : HandleRequest} {error : StoreError}
    (h : (l.serve r).1 = .error error) :
    (∃ shown, error = .invalidTimestamp shown) ∨ ∃ e, error = .event e := by
  unfold serve at h
  cases hattend : attend l.retention r.log r.call r.draw l.generator (l.events r.log) with
  | mk result g =>
    rw [hattend] at h
    cases result with
    | error error' =>
      obtain rfl := Except.error.inj h
      exact attend_error (congrArg Prod.fst hattend)
    | ok answer => cases h

theorem serveAll_error {error : StoreError} : ∀ (requests : List HandleRequest) (l : Ledger),
    .error error ∈ (l.serveAll requests).1 →
      (∃ shown, error = .invalidTimestamp shown) ∨ ∃ e, error = .event e := by
  intro requests
  induction requests with
  | nil => intro l h; cases h
  | cons r rest ih =>
    intro l h
    rcases List.mem_cons.1 h with h | h
    · exact serve_error h.symm
    · exact ih _ h

end Ledger

/-! ### The milliseconds of the generator -/

namespace Store

theorem inRange_of_serve {s : Store} {r : HandleRequest}
    (h : (s.serve r).2.generator.InRange) : s.generator.InRange := by
  unfold serve at h
  cases hcall : r.call with
  | add timestamp message =>
    rw [hcall] at h
    exact inRange_of_add h
  | last => rw [hcall] at h; exact h
  | count => rw [hcall] at h; exact h
  | evict =>
    rw [hcall] at h
    have hgenerator := generator_evict s r.log
    exact hgenerator ▸ h
  | clear =>
    rw [hcall] at h
    have hgenerator := generator_trim s r.log 0
    exact hgenerator ▸ h
  | read direction limit => rw [hcall] at h; exact h

theorem inRange_of_serveAll : ∀ (requests : List HandleRequest) {s : Store},
    (s.serveAll requests).2.generator.InRange → s.generator.InRange := by
  intro requests
  induction requests with
  | nil => intro s h; exact h
  | cons r rest ih =>
    intro s h
    exact inRange_of_serve (ih h)

end Store

/-! ### Stores and ledgers -/

/-- A store holds the lists of a ledger. -/
structure Represents (s : Store) (l : Ledger) (t : Table) : Prop where
  /-- Both keep as many events. -/
  retention : s.settings.retention = l.retention
  /-- Both mint the same identifiers. -/
  generator : s.generator = l.generator
  /-- The store is open. -/
  table : s.table? = some t
  /-- Every row stands for an event. -/
  sound : t.Sound
  /-- The events of each log are those of its list. -/
  events : ∀ log, LogName.Valid log → t.eventsOf log = l.events log
  /-- No event has an identifier above the one minted last. -/
  minted : ∀ log, LogName.Valid log → ∀ e ∈ l.events log, ∃ i ∈ l.generator.lastId?, e.id ≤ i

namespace Represents

variable {s : Store} {l : Ledger} {t : Table} {r : HandleRequest}

theorem blank (h : s.table? = some .empty) : Represents s (.blank s) .empty where
  retention := rfl
  generator := rfl
  table := h
  sound := Table.sound_empty
  events log _ := Table.eventsOf_empty log
  minted _ _ _ he := nomatch he

/-- Other events in one log, none of them new. -/
theorem trim (h : Represents s l t) {log : String} (hlog : LogName.Valid log) (keep : Nat) :
    Represents (s.commit ⟨(t.trim log keep).1⟩)
      (l.put log ((l.events log).drop ((l.events log).length - keep))) (t.trim log keep).1 where
  retention := h.retention
  generator := h.generator
  table := rfl
  sound := h.sound.trim log keep
  events := by
    intro log' hlog'
    by_cases heq : log' = log
    · subst heq
      rw [Ledger.put_self, Table.eventsOf_trim h.sound, h.events log' hlog']
    · rw [Ledger.put_of_ne _ heq, Table.eventsOf_trim_of_ne hlog hlog' (Ne.symm heq),
        h.events log' hlog']
  minted := by
    intro log' hlog' e he
    by_cases heq : log' = log
    · subst heq
      rw [Ledger.put_self] at he
      exact h.minted log' hlog' e (List.mem_of_mem_drop he)
    · rw [Ledger.put_of_ne _ heq] at he
      exact h.minted log' hlog' e he

/-- A list that is put back where it was. -/
theorem keep (h : Represents s l t) {log : String} :
    Represents s (l.put log (l.events log)) t := by
  have hput : l.put log (l.events log) = l := by
    unfold Ledger.put
    congr 1
    funext log'
    split
    · next heq => rw [heq]
    · rfl
  rw [hput]
  exact h

/-- A new event at the end of one log. -/
theorem insert (h : Represents s l t) {k v : Bytes} {e : Event} (he : Entry.IsEntry (k, v) e)
    {g : Generator} {now : Nat} {entropy : Entropy}
    (hnext : l.generator.next now entropy = (.ok e.id, g)) (hg : g.InRange) :
    Represents { s with generator := g, table? := some (t.insert k v) }
      ({ l with generator := g }.put e.log (l.events e.log ++ [e])) (t.insert k v) := by
  have hlt := Generator.lt_of_next hnext hg
  have hlast := Generator.lastId?_of_next hnext
  -- all events that are there have smaller identifiers
  have hbelow : ∀ log, LogName.Valid log → ∀ e' ∈ l.events log, e'.id < e.id := by
    intro log hlog e' he'
    obtain ⟨i, hi, hle⟩ := h.minted log hlog e' he'
    exact Nat.lt_of_le_of_lt hle (hlt i hi)
  refine ⟨h.retention, rfl, rfl, h.sound.insert he, ?_, ?_⟩
  · intro log hlog
    by_cases heq : log = e.log
    · rw [heq, Ledger.put_self, ← h.events e.log he.valid]
      refine Table.eventsOf_insert h.sound he ?_
      rw [h.events e.log he.valid]
      exact hbelow e.log he.valid
    · rw [Ledger.put_of_ne _ heq, ← h.events log hlog]
      exact Table.eventsOf_insert_of_ne he hlog heq
  · intro log hlog e' he'
    refine ⟨e.id, hlast, ?_⟩
    by_cases heq : log = e.log
    · rw [heq, Ledger.put_self, List.mem_append, List.mem_singleton] at he'
      rcases he' with he' | rfl
      · exact Nat.le_of_lt (hbelow e.log he.valid e' he')
      · exact Nat.le_refl _
    · rw [Ledger.put_of_ne _ heq] at he'
      exact Nat.le_of_lt (hbelow log hlog e' he')

/-- **A request keeps a store and a ledger together, and both answer the same.** -/
theorem serve (h : Represents s l t) (hlog : LogName.Valid r.log)
    (hrange : (s.serve r).2.generator.InRange) :
    (s.serve r).1 = (l.serve r).1 ∧ ∃ t', Represents (s.serve r).2 (l.serve r).2 t' := by
  have hevents := h.events r.log hlog
  unfold Ledger.serve
  unfold Store.serve at hrange ⊢
  cases hcall : r.call with
  | add timestamp message =>
    rcases Store.add_cases h.table hlog timestamp message r.draw with
      ⟨hn, hadd⟩ | ⟨n, hn, ⟨error, hnext, hadd⟩ | ⟨id, g, hnext, hadd⟩⟩
    · -- the time cannot be stored
      simp only [hadd, Ledger.attend, hn]
      exact ⟨rfl, t, h⟩
    · -- there is no identifier to be had
      rw [h.generator] at hnext
      simp only [hadd, Ledger.attend, hn, hnext]
      exact ⟨rfl, t, h⟩
    · rw [hcall] at hrange
      rw [h.generator] at hnext
      simp only [hadd] at hrange
      simp only [hadd, Ledger.attend, hn, hnext]
      exact ⟨rfl, _, h.insert (Entry.isEntry_key hlog id hn message) hnext hrange⟩
  | last =>
    simp only [Ledger.attend, Store.lastEvent_eq h.table h.sound hlog, hevents]
    exact ⟨rfl, t, h.keep⟩
  | count =>
    simp only [Ledger.attend, Store.count_eq h.table h.sound, hevents]
    exact ⟨rfl, t, h.keep⟩
  | evict =>
    simp only [Ledger.attend, Store.evict_eq h.table, Store.trim_eq h.table,
      Table.trim_snd, Table.count_eq h.sound, hevents, h.retention]
    exact ⟨rfl, _, h.trim hlog _⟩
  | clear =>
    simp only [Ledger.attend, Store.clear, Store.trim_eq h.table, Table.trim_snd, Table.count_eq h.sound, hevents]
    have htrim := h.trim hlog 0
    rw [Nat.sub_zero, List.drop_length] at htrim
    exact ⟨rfl, _, htrim⟩
  | read direction limit =>
    simp only [Ledger.attend, Store.read_eq h.table h.sound hlog, Query.answer_plain, hevents]
    exact ⟨rfl, t, h.keep⟩

/-- **A run keeps a store and a ledger together, and both answer the same.** -/
theorem serveAll : ∀ (requests : List HandleRequest) {s : Store} {l : Ledger} {t : Table},
    Represents s l t → (∀ r ∈ requests, LogName.Valid r.log) →
    (s.serveAll requests).2.generator.InRange →
      (s.serveAll requests).1 = (l.serveAll requests).1 ∧
        ∃ t', Represents (s.serveAll requests).2 (l.serveAll requests).2 t' := by
  intro requests
  induction requests with
  | nil => exact fun h _ _ => ⟨rfl, _, h⟩
  | cons r rest ih =>
    intro s l t h hvalid hrange
    have hfirst := Store.inRange_of_serveAll rest hrange
    obtain ⟨hanswer, t', h'⟩ := h.serve (hvalid r List.mem_cons_self) hfirst
    obtain ⟨hanswers, t'', h''⟩ :=
      ih h' (fun r' hr' => hvalid r' (List.mem_cons_of_mem _ hr')) hrange
    exact ⟨List.cons_eq_cons.2 ⟨hanswer, hanswers⟩, t'', h''⟩

end Represents

/-! ### The main result -/

/-- **A store that was empty behaves as a separate list of events for each log.**  Every request is answered as
from the list of its own log, which is the only list that it may change, and a request that fails changes none.
In the end the table holds the list of each log.  No request fails but for want of a time that can be
stored or of an identifier. -/
theorem serveAll_eq_ledger {s : Store} (hempty : s.table? = some .empty)
    {requests : List HandleRequest} (hvalid : ∀ r ∈ requests, LogName.Valid r.log)
    (hrange : (s.serveAll requests).2.generator.InRange) :
    (s.serveAll requests).1 = ((Ledger.blank s).serveAll requests).1 ∧
    (∃ t, (s.serveAll requests).2.table? = some t ∧ t.Sound ∧
      ∀ log, LogName.Valid log →
        t.eventsOf log = ((Ledger.blank s).serveAll requests).2.events log) ∧
    ∀ error, .error error ∈ (s.serveAll requests).1 →
      (∃ shown, error = .invalidTimestamp shown) ∨ ∃ e, error = .event e := by
  obtain ⟨hanswers, t, ht⟩ := (Represents.blank hempty).serveAll requests hvalid hrange
  refine ⟨hanswers, ⟨t, ht.table, ht.sound, ht.events⟩, ?_⟩
  intro error herror
  rw [hanswers] at herror
  exact Ledger.serveAll_error requests _ herror

/-- Two names of which one begins with the other, and a log that keeps one event. -/
theorem serveAll_eq_ledger_prefix_names :
    let s : Store := { settings := { retention := ⟨1⟩ }, table? := some .empty }
    let draw : Draw := ⟨.ofNanos 1709294400000000000, .ok ⟨7, by decide⟩⟩
    let requests : List HandleRequest :=
      [⟨"a", .add (.ofNanos 5) [104], draw⟩, ⟨"a\x01", .add (.ofNanos 3) [105], draw⟩,
        ⟨"a", .add (.ofNanos 4) [], draw⟩, ⟨"a", .evict, draw⟩,
        ⟨"a\x01", .read .backward 10, draw⟩]
    (s.serveAll requests).1 = ((Ledger.blank s).serveAll requests).1 ∧
      (s.serveAll requests).2.generator.InRange := by
  intro s draw requests
  have hvalid : ∀ r ∈ requests, LogName.Valid r.log := by decide
  have hrange : (s.serveAll requests).2.generator.InRange := by decide
  exact ⟨(serveAll_eq_ledger rfl hvalid hrange).1, hrange⟩

end Logbook
