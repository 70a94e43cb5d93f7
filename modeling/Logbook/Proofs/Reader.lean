import Logbook.Proofs.History
import Logbook.Proofs.Request
import Logbook.Proofs.Walk

/-!
# A client that reads on and on

However the store changes while pages are gathered, what a client receives are pages of a walk: each is that of the
logs as they were when they were read, and is read from where the last one has led.

## Main definitions

* `Reader.Move` — all that can be done for a client.
* `Reader.Reads`, `Observed.Reads` — the invariant, about the client and about all that has been done for it.

## Main results

* `Observed.reads_run` — whatever happens meanwhile, a client receives the pages of a walk.
* `Observed.run_looks_eq_getEvents` — a call that nothing comes between is the collector's.
-/

namespace Logbook

theorem Table.Distinct.apart {logs : List String} {tables : List Table}
    (h : Table.Distinct logs tables) (hvalid : ∀ log ∈ logs, LogName.Valid log)
    (hnodup : logs.Nodup) {looks : List Look} (hlogs : looks.map (·.log) = logs)
    (hsound : ∀ look ∈ looks, look.table.Sound) (htables : ∀ look ∈ looks, look.table ∈ tables) :
    Page.Apart (looks.map Look.view) := by
  have hlog : ∀ look ∈ looks, look.log ∈ logs := by
    intro look hlook
    rw [← hlogs]
    exact List.mem_map_of_mem hlook
  constructor
  · intro view hview
    obtain ⟨look, hlook, rfl⟩ := List.mem_map.1 hview
    exact Table.pairwise_eventsOf (hsound look hlook) (hvalid _ (hlog look hlook))
  · have hpairwise : looks.Pairwise fun look look' => look.log ≠ look'.log := by
      rw [← hlogs, List.Nodup, List.pairwise_map] at hnodup
      exact hnodup
    rw [List.pairwise_map]
    refine hpairwise.imp_of_mem fun {look look'} hlook hlook' hne e he e' he' => ?_
    exact h _ (hlog look hlook) _ (hlog look' hlook') hne _ (htables look hlook) _
      (htables look' hlook') e he e' he'

/-- What is asked of each log. -/
def Gathering.query (g : Gathering) : Query :=
  Page.queryOf g.search.cursor g.search.limit g.search.filter

/-- What has been gathered for a page is what there is to be found in the logs that have been read. -/
structure Gathering.Right (logs : List String) (g : Gathering) : Prop where
  /-- The logs are read one after the other. -/
  logs : g.looks.map (·.log) ++ g.pending = logs
  /-- Every row stood for an event. -/
  sound : ∀ look ∈ g.looks, look.table.Sound
  /-- What has been found. -/
  found : g.found = (g.looks.map Look.view).flatMap g.query.answer

namespace Reader

/-- All that can be done for a client where no read fails. -/
inductive Move (t : Table) (r : Reader) : Reader → Prop
  /-- The client has stopped. -/
  | rest (hdone : r.isDone = true) (hidle : r.gathering = none) : Move t r r
  /-- A page is begun. -/
  | start {search : Collector.Search} (hdone : r.isDone = false) (hidle : r.gathering = none)
    (hcheck : Collector.checkRequest r.settings r.request = .ok search) :
    Move t r { r with gathering := some { search, pending := r.crew.pageLogs search.logs } }
  /-- A log is read. -/
  | read {g : Gathering} {log : String} {rest : List String} (hgathering : r.gathering = some g)
    (hpending : g.pending = log :: rest) : Move t r { r with gathering := some { g with
      pending := rest
      looks := g.looks ++ [⟨log, t⟩]
      found := g.found ++ g.query.answer (t.eventsOf log) } }
  /-- A page is handed over. -/
  | hand {g : Gathering} (hgathering : r.gathering = some g) (hpending : g.pending = []) :
    Move t r (r.receive (reading g))

section Move

variable {search : Collector.Search} {logs : List String} {cursor : Option Cursor} {t : Table}
  {r r' : Reader}

/-- What is known of a client that has gone on as far as `cursor`. -/
structure Reads (search : Collector.Search) (logs : List String) (cursor : Option Cursor)
    (r : Reader) : Prop where
  /-- The logs of a page. -/
  crew : r.crew.pageLogs search.logs = logs
  /-- The client goes on from where the last page has led. -/
  request : Collector.checkRequest r.settings r.request = .ok { search with cursor }
  /-- What has been received are the pages of a walk. -/
  walk : Walk search logs r.readings cursor
  /-- What is being gathered is the next page of the walk. -/
  gathering : ∀ g ∈ r.gathering, g.search = { search with cursor } ∧ g.Right logs

/-- A log is read in the table as it stands. -/
theorem readLog_eq {store : Store} (ht : store.table = .ok t) {g : Gathering} {log : String}
    {events : List Event} (hread : t.read log g.query = .ok events) (r : Reader) (rest : List String) :
    r.readLog g log rest store = { r with gathering := some { g with
      pending := rest
      looks := g.looks ++ [⟨log, t⟩]
      found := g.found ++ events } } := by
  rw [Gathering.query] at hread
  rw [readLog, ht]
  dsimp only
  rw [hread]

/-- No read fails. -/
theorem Reads.move_step (h : r.Reads search logs cursor) (hvalid : ∀ log ∈ logs, LogName.Valid log)
    {store : Store} (ht : store.table? = some t) (hsound : t.Sound) : Move t r (r.step store) := by
  unfold step
  cases hgathering : r.gathering with
  | none =>
    dsimp only
    cases hdone : r.isDone with
    | true => exact .rest hdone hgathering
    | false =>
      rw [if_neg Bool.false_ne_true, h.request]
      exact .start hdone hgathering h.request
  | some g =>
    dsimp only
    cases hpending : g.pending with
    | nil => exact .hand hgathering hpending
    | cons log rest =>
      obtain ⟨-, hright⟩ := h.gathering g hgathering
      have hlog : LogName.Valid log := by
        refine hvalid log ?_
        rw [← hright.logs, hpending]
        exact List.mem_append_right _ List.mem_cons_self
      dsimp only
      rw [readLog_eq (Store.table_eq ht) (Table.read_eq hsound hlog _)]
      exact .read hgathering hpending

/-- Whatever is done for a client, it receives the pages of a walk. -/
theorem Reads.move (h : r.Reads search logs cursor) (hsound : t.Sound) (hmove : Move t r r') :
    ∃ cursor', r'.Reads search logs cursor' := by
  cases hmove with
  | rest => exact ⟨cursor, h⟩
  | start hdone hidle hcheck =>
    obtain rfl := Except.ok.inj (h.request.symm.trans hcheck)
    refine ⟨cursor, h.crew, h.request, h.walk, fun g hg => ?_⟩
    obtain rfl := Option.some.inj hg
    exact ⟨rfl, h.crew, nofun, rfl⟩
  | @read g log rest hgathering hpending =>
    obtain ⟨hsearch, hright⟩ := h.gathering g hgathering
    refine ⟨cursor, h.crew, h.request, h.walk, fun g' hg' => ?_⟩
    obtain rfl := Option.some.inj hg'
    refine ⟨hsearch, ?_, fun look hlook => ?_, ?_⟩
    · rw [← hright.logs, hpending, List.map_append, List.append_assoc]
      rfl
    · rcases List.mem_append.1 hlook with hlook | hlook
      · exact hright.sound look hlook
      · rw [List.mem_singleton.1 hlook]
        exact hsound
    · rw [List.map_append, List.flatMap_append, hright.found]
      exact congrArg _ (List.append_nil _).symm
  | @hand g hgathering hpending =>
    obtain ⟨hsearch, hright⟩ := h.gathering g hgathering
    have hcursor : g.search.cursor = cursor := by rw [hsearch]
    have hreading : (reading g).Right search logs := by
      refine ⟨?_, hright.sound, ?_⟩
      · rw [← hright.logs, hpending, List.append_nil]
        rfl
      · have hquery : (reading g).query search = g.query := by
          rw [Reading.query, Gathering.query, hsearch, reading, hsearch]
        rw [hquery, reading, hright.found, hsearch]
        rfl
    refine ⟨some (reading g).page.next, h.crew, Collector.checkRequest_text h.request _, ?_, nofun⟩
    -- the page has been read from where the walk has led so far
    have hwalk := h.walk
    rw [← hcursor] at hwalk
    exact .page hwalk hreading

/-! ### Going on and stopping -/

/-- A client that does not go on when a page is empty has stopped when one is. -/
structure Going (r : Reader) : Prop where
  /-- A page is gathered only for a client that has not stopped. -/
  gathering : r.gathering.isSome → r.isDone = false
  /-- Only the last page is empty, unless the client goes on. -/
  earlier : r.patient = false → ∀ reading ∈ r.readings.dropLast, reading.page.items ≠ []

theorem isDone_eq_true_iff : r.isDone = true ↔ r.patient = false ∧
    ∃ reading, r.readings.getLast? = some reading ∧ reading.page.items = [] := by
  rw [isDone, Bool.and_eq_true, Bool.not_eq_true', Option.any_eq_true]
  simp only [List.isEmpty_iff]

/-- As long as the client has not stopped, no page has been empty. -/
theorem Going.items_ne_nil (h : r.Going) (himpatient : r.patient = false) (hdone : r.isDone = false) :
    ∀ reading ∈ r.readings, reading.page.items ≠ [] := by
  intro reading hreading hnil
  rcases List.eq_nil_or_concat r.readings with hreadings | ⟨init, last, hreadings⟩
  · rw [hreadings] at hreading
    cases hreading
  · rw [List.concat_eq_append] at hreadings
    have hearlier := h.earlier himpatient
    rw [hreadings, List.dropLast_concat] at hearlier
    rw [hreadings] at hreading
    rcases List.mem_append.1 hreading with hreading | hreading
    · exact hearlier reading hreading hnil
    · rw [List.mem_singleton.1 hreading] at hnil
      have hdone' : r.isDone = true := by
        refine isDone_eq_true_iff.2 ⟨himpatient, last, ?_, hnil⟩
        rw [hreadings, List.getLast?_concat]
      rw [hdone'] at hdone
      cases hdone

theorem Going.move (h : r.Going) (hmove : Move t r r') : r'.Going := by
  cases hmove with
  | rest => exact h
  | start hdone => exact ⟨fun _ => hdone, h.earlier⟩
  | read hgathering =>
    have hdone : r.isDone = false := h.gathering (by rw [hgathering]; rfl)
    exact ⟨fun _ => hdone, h.earlier⟩
  | @hand g hgathering =>
    have hdone : r.isDone = false := h.gathering (by rw [hgathering]; rfl)
    refine ⟨nofun, fun himpatient => ?_⟩
    rw [receive, List.dropLast_concat]
    exact h.items_ne_nil himpatient hdone

theorem patient_step (r : Reader) (store : Store) : (r.step store).patient = r.patient := by
  unfold step
  split
  · split
    · rfl
    · split <;> rfl
  · split
    · rfl
    · unfold readLog
      split
      · rfl
      · split <;> rfl

/-! ### What has been done -/

/-- The looks that have been taken at the store. -/
def looks (r : Reader) : List Look :=
  r.readings.flatMap (·.looks) ++ r.gathering.toList.flatMap (·.looks)

theorem mem_looks {reading : Reading} (hreading : reading ∈ r.readings) {look : Look}
    (hlook : look ∈ reading.looks) : look ∈ r.looks :=
  List.mem_append_left _ (List.mem_flatMap.2 ⟨reading, hreading, hlook⟩)

/-- Each look is taken at the table as it stands. -/
theorem looks_move {seen : List Table} (hlooks : (r.looks.map (·.table)).Sublist seen)
    (hmove : Move t r r') : (r'.looks.map (·.table)).Sublist (seen ++ [t]) := by
  have hlonger := hlooks.trans (List.sublist_append_left seen [t])
  cases hmove with
  | rest => exact hlonger
  | start hdone hidle =>
    rw [looks, hidle] at hlonger
    exact hlonger
  | @read g log rest hgathering =>
    rw [looks, hgathering] at hlooks
    have hmore := hlooks.append (List.Sublist.refl [t])
    rw [looks]
    simpa using hmore
  | @hand g hgathering =>
    rw [looks, hgathering] at hlonger
    rw [looks, receive]
    simpa [reading] using hlonger

/-- How much has been done for a client whose pages are made of so many logs. -/
def effort (logs : Nat) (r : Reader) : Nat :=
  r.readings.length * (logs + 2) + r.gathering.elim 0 fun g => g.looks.length + 1

/-- Each time something is done, until the client has stopped. -/
theorem Reads.effort_move (h : r.Reads search logs cursor) (hgoing : r.Going) {n : Nat}
    (heffort : r.isDone = true ∨ r.effort logs.length = n) (hmove : Move t r r') :
    r'.isDone = true ∨ r'.effort logs.length = n + 1 := by
  have hworking {g : Gathering} (hgathering : r.gathering = some g) : r.effort logs.length = n := by
    have hdone : r.isDone = false := hgoing.gathering (by rw [hgathering]; rfl)
    rw [hdone] at heffort
    exact heffort.resolve_left Bool.false_ne_true
  cases hmove with
  | rest hdone => exact Or.inl hdone
  | start hdone hidle =>
    rw [hdone] at heffort
    have heffort := heffort.resolve_left Bool.false_ne_true
    rw [effort, hidle] at heffort
    right
    rw [effort, ← heffort]
    rfl
  | @read g log rest hgathering =>
    have heffort := hworking hgathering
    rw [effort, hgathering, Option.elim_some] at heffort
    right
    rw [effort, ← heffort, Option.elim_some, List.length_append, List.length_singleton]
    dsimp only
    omega
  | @hand g hgathering hpending =>
    have heffort := hworking hgathering
    have hlogs := congrArg List.length (h.gathering g hgathering).2.logs
    rw [hpending, List.append_nil, List.length_map] at hlogs
    rw [effort, hgathering, Option.elim_some] at heffort
    right
    rw [effort, ← heffort, receive, Option.elim_none, List.length_append, List.length_singleton,
      Nat.add_mul]
    omega

end Move

end Reader

namespace Observed

/-- What is known when the tables `seen` have been seen, one at each of some moments of which `n` were looks. -/
structure Reads (search : Collector.Search) (logs : List String) (seen : List Table) (n : Nat)
    (cursor : Option Cursor) (w : Observed Reader) : Prop where
  /-- The store is in order. -/
  healthy : w.shared.Healthy
  /-- The client has gone on as far as `cursor`. -/
  reads : w.observer.Reads search logs cursor
  /-- The client stops in time. -/
  going : w.observer.Going
  /-- Each look was taken at the table as it stood, one after the other. -/
  looks : (w.observer.looks.map (·.table)).Sublist seen
  /-- No look is in vain, until the client has stopped. -/
  effort : w.observer.isDone = true ∨ w.observer.effort logs.length = n

section Reads

variable {search : Collector.Search} {logs : List String} {seen : List Table} {n : Nat}
  {cursor : Option Cursor} {w : Observed Reader}

/-- What is known when a client begins to read. -/
theorem reads_of_idle {r : Reader} {s : SharedStore} (hhealthy : s.Healthy)
    (hcheck : Collector.checkRequest r.settings r.request = .ok search)
    (hidle : r.gathering = none) (hnone : r.readings = []) :
    (⟨s, r⟩ : Observed Reader).Reads search (r.crew.pageLogs search.logs) [] 0 search.cursor where
  healthy := hhealthy
  reads := by
    refine ⟨rfl, hcheck, ?_, fun g hg => ?_⟩
    · rw [hnone]
      exact .start
    · rw [hidle] at hg
      cases hg
  going := by
    refine ⟨fun hsome => ?_, fun _ reading hreading => ?_⟩
    · rw [hidle] at hsome
      cases hsome
    · rw [hnone] at hreading
      cases hreading
  looks := by
    rw [Reader.looks, hidle, hnone]
    exact .slnil
  effort := by
    right
    rw [Reader.effort, hidle, hnone, List.length_nil, Nat.zero_mul]
    rfl

theorem Reads.look (h : w.Reads search logs seen n cursor) (hvalid : ∀ log ∈ logs, LogName.Valid log)
    {t : Table} (ht : w.shared.store.table? = some t) :
    ∃ cursor', (w.act (.look ())).Reads search logs (seen ++ [t]) (n + 1) cursor' := by
  have hsound : t.Sound := by
    obtain ⟨t', ht', hsound⟩ := h.healthy.table
    obtain rfl : t = t' := Option.some.inj (ht.symm.trans ht')
    exact hsound
  have hmove := h.reads.move_step hvalid ht hsound
  obtain ⟨cursor', hreads⟩ := h.reads.move hsound hmove
  exact ⟨cursor', h.healthy, hreads, h.going.move hmove, Reader.looks_move h.looks hmove,
    h.reads.effort_move h.going h.effort hmove⟩

theorem Reads.step (h : w.Reads search logs seen n cursor) (client : Nat) (draw : Draw) (t : Table) :
    (w.act (.step client draw)).Reads search logs (seen ++ [t]) n cursor where
  healthy := SharedStore.healthy_step h.healthy client draw
  reads := h.reads
  going := h.going
  looks := h.looks.trans (List.sublist_append_left _ _)
  effort := h.effort

/-- **Whatever happens meanwhile, a client receives the pages of a walk.** -/
theorem reads_run (hvalid : ∀ log ∈ logs, LogName.Valid log) : ∀ (moments : List (Moment Unit))
    {seen : List Table} {n : Nat} {cursor : Option Cursor} {w : Observed Reader},
      w.Reads search logs seen n cursor → ∃ cursor', (w.run moments).Reads search logs
        (seen ++ w.tables moments) (n + (Moment.aims moments).length) cursor' := by
  intro moments
  induction moments with
  | nil =>
    intro seen n cursor w h
    exact ⟨cursor, h.healthy, h.reads, h.going, h.looks.trans (List.sublist_append_left _ _),
      h.effort⟩
  | cons moment rest ih =>
    intro seen n cursor w h
    obtain ⟨t, ht, -⟩ := h.healthy.table
    cases moment with
    | step client draw =>
      obtain ⟨cursor', h'⟩ := ih (h.step client draw t)
      rw [List.append_assoc] at h'
      rw [tables_cons ht]
      exact ⟨cursor', h'⟩
    | look aim =>
      obtain ⟨cursor', h'⟩ := h.look hvalid ht
      obtain ⟨cursor'', h''⟩ := ih h'
      rw [List.append_assoc, Nat.add_right_comm] at h''
      rw [tables_cons ht]
      exact ⟨cursor'', h''⟩

/-- The same of a client that has just begun to read, once its request has passed the checks. -/
theorem reads_run_of_idle {s : SharedStore} (hhealthy : s.Healthy) {r : Reader}
    (hcheck : Collector.checkRequest r.settings r.request = .ok search)
    (hroster : r.request.logs = [] → ∀ name ∈ r.crew.roster.keys, LogName.Valid name)
    (hidle : r.gathering = none) (hnone : r.readings = []) (moments : List (Moment Unit)) :
    (∀ log ∈ r.crew.pageLogs r.request.logs, LogName.Valid log) ∧ 0 < search.limit ∧
      ∃ cursor, ((⟨s, r⟩ : Observed Reader).run moments).Reads search
        (r.crew.pageLogs r.request.logs) ((⟨s, r⟩ : Observed Reader).tables moments)
        (Moment.aims moments).length cursor := by
  obtain ⟨hlimit, -, hnames, hlogs, -⟩ := Collector.checkRequest_eq_ok_iff.1 hcheck
  have hvalid : ∀ log ∈ r.crew.pageLogs r.request.logs, LogName.Valid log :=
    fun log hlog => Crew.valid_of_mem_pageLogs hnames hroster hlog
  have hstart := reads_of_idle hhealthy hcheck hidle hnone
  rw [hlogs] at hstart
  have hrun := reads_run hvalid moments hstart
  rw [List.nil_append, Nat.zero_add] at hrun
  exact ⟨hvalid, Collector.limit_pos hlimit, hrun⟩

theorem patient_run : ∀ (moments : List (Moment Unit)) (w : Observed Reader),
    (w.run moments).observer.patient = w.observer.patient := by
  intro moments
  induction moments with
  | nil => intro w; rfl
  | cons moment rest ih =>
    intro w
    rw [run_cons, ih]
    cases moment with
    | step client draw => rfl
    | look aim => exact Reader.patient_step _ _

theorem Reads.table_mem (h : w.Reads search logs seen n cursor) :
    ∀ look ∈ w.observer.looks, look.table ∈ seen :=
  fun _ hlook => h.looks.mem (List.mem_map_of_mem hlook)

/-- No identifier was seen in two logs. -/
theorem Reads.apart (h : w.Reads search logs seen n cursor)
    (hvalid : ∀ log ∈ logs, LogName.Valid log) (hnodup : logs.Nodup)
    (hdistinct : Table.Distinct logs seen) : ∀ r ∈ w.observer.readings, Page.Apart r.views := by
  intro r hr
  have hright := h.reads.walk.right r hr
  refine hdistinct.apart hvalid hnodup hright.logs hright.sound fun look hlook => ?_
  exact h.table_mem look (Reader.mem_looks hr hlook)

/-- A page takes two looks more than there are logs. -/
theorem Reads.length_readings (h : w.Reads search logs seen n cursor) (hdone : w.observer.isDone = false) :
    w.observer.readings.length = n / (logs.length + 2) := by
  have heffort := h.effort
  rw [hdone] at heffort
  have heffort := heffort.resolve_left Bool.false_ne_true
  rw [Reader.effort] at heffort
  have hpart : (w.observer.gathering.elim 0 fun g => g.looks.length + 1) < logs.length + 2 := by
    cases hgathering : w.observer.gathering with
    | none => exact Nat.succ_pos _
    | some g =>
      have hlogs := congrArg List.length (h.reads.gathering g hgathering).2.logs
      rw [List.length_append, List.length_map] at hlogs
      rw [Option.elim_some]
      omega
  have hpos : 0 < logs.length + 2 := Nat.succ_pos _
  rw [← heffort, Nat.mul_comm, Nat.mul_add_div hpos, Nat.div_eq_of_lt hpart, Nat.add_zero]

theorem Reads.cursor?_eq (h : w.Reads search logs seen n cursor) : w.observer.cursor? = cursor := by
  obtain ⟨-, hcursor, -⟩ := Collector.checkRequest_eq_ok_iff.1 h.reads.request
  rw [Reader.cursor?, hcursor]

end Reads

/-! ### A call that nothing comes between -/

/-- The logs are read one after the other. -/
theorem run_looks_pending {s : SharedStore} {t : Table} (ht : s.store.table = .ok t) {r : Reader} :
    ∀ {pending : List String} {g : Gathering} {found : List Event}, g.pending = pending →
      Page.find (fun _ => t) g.query pending = .ok found →
        ((⟨s, { r with gathering := some g }⟩ : Observed Reader).run
            (List.replicate pending.length (.look ()))) =
          ⟨s, { r with gathering := some { g with
            pending := []
            looks := g.looks ++ pending.map fun log => ⟨log, t⟩
            found := g.found ++ found } }⟩ := by
  intro pending
  induction pending with
  | nil =>
    intro g found hpending hfind
    cases hfind
    rw [List.length_nil, List.map_nil, List.append_nil, List.append_nil, ← hpending]
    rfl
  | cons log rest ih =>
    intro g found hpending hfind
    rw [Page.find] at hfind
    cases hread : t.read log g.query with
    | error error =>
      rw [hread] at hfind
      cases hfind
    | ok events =>
      cases hmore : Page.find (fun _ => t) g.query rest with
      | error error =>
        rw [hread, hmore] at hfind
        cases hfind
      | ok more =>
        rw [hread, hmore] at hfind
        obtain rfl : events ++ more = found := Except.ok.inj hfind
        have hstep : ({ r with gathering := some g } : Reader).step s.store =
            { r with gathering := some { g with
              pending := rest
              looks := g.looks ++ [⟨log, t⟩]
              found := g.found ++ events } } := by
          unfold Reader.step
          dsimp only
          rw [hpending]
          exact Reader.readLog_eq ht hread _ _
        have hrest := @ih { g with
          pending := rest
          looks := g.looks ++ [⟨log, t⟩]
          found := g.found ++ events } more rfl hmore
        rw [List.length_cons, List.replicate_succ, run_cons, act, Reader.look_eq, hstep, hrest,
          List.map_cons, List.append_assoc, List.append_assoc]
        rfl

/-- **A call that nothing comes between is answered as the collector answers it.** -/
theorem run_looks_eq_getEvents {c : Collector} {crew : Crew} {s : SharedStore} {r : Reader}
    (hphase : c.phase = .running crew s.store) (hsettings : r.settings = c.settings)
    (hcrew : r.crew = crew) (hidle : r.gathering = none) (hdone : r.isDone = false) {page : Page}
    (hpage : c.getEvents r.request = .ok page) :
    ∃ reading : Reading, reading.page = page ∧
      (⟨s, r⟩ : Observed Reader).run
          (List.replicate ((crew.pageLogs r.request.logs).length + 2) (.look ())) =
        ⟨s, r.receive reading⟩ := by
  obtain ⟨search, t, found, hcheck, htable, hfind, rfl⟩ :=
    Collector.exists_find_of_getEvents hphase hpage
  rw [← hsettings] at hcheck
  obtain ⟨-, -, -, hlogs, -⟩ := Collector.checkRequest_eq_ok_iff.1 hcheck
  -- first the request is checked, then the logs are read, and at last the page is handed over
  have hstart : r.step s.store =
      { r with gathering := some { search, pending := r.crew.pageLogs search.logs } } := by
    unfold Reader.step
    rw [hidle]
    dsimp only
    rw [hdone, if_neg Bool.false_ne_true, hcheck]
  have hgather := run_looks_pending htable (r := r)
    (g := { search, pending := r.crew.pageLogs search.logs }) rfl (by rw [hcrew]; exact hfind)
  refine ⟨⟨search.cursor, (r.crew.pageLogs search.logs).map fun log => ⟨log, t⟩, _⟩, rfl, ?_⟩
  rw [← hlogs, List.replicate_succ, List.replicate_succ', run_cons, act, Reader.look_eq, hstart,
    run_append, ← hcrew, hgather]
  rfl

end Observed

end Logbook
