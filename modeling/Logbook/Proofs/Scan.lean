import Logbook.Proofs.Reader

/-!
# Scanning to the end

A client that reads page after page until one is empty has received all that stayed in the logs, once and in order,
whatever came and went meanwhile.

## Main results

* `Observed.scans_completely` — **a scan shows what stays stored.**
-/

namespace Logbook

namespace Observed

section Scan

variable {search : Collector.Search} {logs : List String} {seen : List Table} {n : Nat}
  {cursor : Option Cursor} {w : Observed Reader}

/-- As long as a client has not stopped, all its pages lead on. -/
theorem Reads.onward (h : w.Reads search logs seen n cursor)
    (hapart : ∀ r ∈ w.observer.readings, Page.Apart r.views) (himpatient : w.observer.patient = false) :
    Walk.Onward w.observer.readings.dropLast where
  apart r hr := hapart r ((List.dropLast_sublist _).mem hr)
  steady r hr := Or.inr (h.going.earlier himpatient r hr)

/-- An event that was seen in each page is received before the client stops. -/
theorem Reads.mem_met (h : w.Reads search logs seen n cursor)
    (hapart : ∀ r ∈ w.observer.readings, Page.Apart r.views) (himpatient : w.observer.patient = false)
    (hlimit : 0 < search.limit) (hdone : w.observer.isDone = true) {log : String} (hlog : log ∈ logs)
    {e : Event} (haccepts : search.accepts e = true)
    (hside : ∀ c ∈ search.cursor, (Page.directionOf search.cursor).Before c.id e.id)
    (hstays : ∀ look ∈ w.observer.looks, look.log = log → e ∈ look.view) :
    e ∈ Walk.met (Page.directionOf search.cursor) w.observer.readings := by
  obtain ⟨-, last, hlast, hnil⟩ := Reader.isDone_eq_true_iff.1 hdone
  obtain ⟨init, hinit⟩ := List.getLast?_eq_some_iff.1 hlast
  have hwalk := h.reads.walk
  have honward := h.onward hapart himpatient
  have hseen : ∀ r ∈ w.observer.readings, ∃ look ∈ r.looks, e ∈ look.view := by
    intro r hr
    rw [← (hwalk.right r hr).logs] at hlog
    obtain ⟨look, hlook, hlooklog⟩ := List.mem_map.1 hlog
    exact ⟨look, hlook, hstays look (Reader.mem_looks hr hlook) hlooklog⟩
  rw [hinit] at hwalk hapart honward hseen ⊢
  rw [List.dropLast_concat] at honward
  exact hwalk.mem_met_of_seen honward (hapart last List.mem_concat_self) hlimit hnil haccepts hside
    hseen _

/-- An event that is received was asked for, and it was there when its log was read. -/
theorem Reads.of_mem_met (h : w.Reads search logs seen n cursor)
    (hapart : ∀ r ∈ w.observer.readings, Page.Apart r.views)
    (hvalid : ∀ log ∈ logs, LogName.Valid log) {d : Direction} {e : Event}
    (he : e ∈ Walk.met d w.observer.readings) :
    e.log ∈ logs ∧ search.accepts e = true ∧
      ∃ look ∈ w.observer.looks, look.log = e.log ∧ e ∈ look.view := by
  obtain ⟨r, hr, he⟩ := Walk.mem_met.1 he
  have hright := h.reads.walk.right r hr
  obtain ⟨look, hlook, hview, -, haccepts⟩ := hright.exists_look (hapart r hr) he
  have hlog : look.log ∈ logs := by
    rw [← hright.logs]
    exact List.mem_map_of_mem hlook
  have helog : e.log = look.log :=
    Table.log_of_mem_eventsOf (hright.sound look hlook) (hvalid _ hlog) hview
  rw [helog]
  exact ⟨hlog, haccepts, look, Reader.mem_looks hr hlook, rfl, hview⟩

/-- Where nothing changes, a client stops after at most so many pages as there are events. -/
theorem Reads.isDone_of_unchanged (h : w.Reads search logs seen n cursor)
    (hapart : ∀ r ∈ w.observer.readings, Page.Apart r.views) (himpatient : w.observer.patient = false)
    {t : Table} (hseen : ∀ t' ∈ seen, t' = t) (hn : (t.size + 2) * (logs.length + 2) ≤ n) :
    w.observer.isDone = true := by
  cases hdone : w.observer.isDone with
  | true => rfl
  | false =>
    -- otherwise each page has shown an event, and none of them is shown twice
    have hlength := h.length_readings hdone
    have hmet := Walk.length_le_met (Page.directionOf search.cursor)
      (h.going.items_ne_nil himpatient hdone)
    have hordered := h.reads.walk.pairwise_met (h.onward hapart himpatient) hapart
    have hnodup : (Walk.met (Page.directionOf search.cursor) w.observer.readings).Nodup := by
      refine hordered.imp fun {a b} hbefore heq => ?_
      rw [heq] at hbefore
      exact Direction.Before.irrefl _ _ hbefore
    have hsubset : Walk.met (Page.directionOf search.cursor) w.observer.readings ⊆ t.events := by
      intro e he
      obtain ⟨r, hr, he⟩ := Walk.mem_met.1 he
      obtain ⟨look, hlook, hview, -⟩ := (h.reads.walk.right r hr).exists_look (hapart r hr) he
      rw [Look.view, hseen _ (h.table_mem look (Reader.mem_looks hr hlook))] at hview
      exact t.eventsOf_subset_events _ hview
    have hle := hnodup.length_le_of_subset hsubset
    have hsize := t.length_events_le
    have hmany : t.size + 2 ≤ n / (logs.length + 2) := (Nat.le_div_iff_mul_le (Nat.succ_pos _)).2 hn
    omega

/-- Where nothing changes, all pages together show what one page with room for everything does. -/
theorem Reads.met_of_unchanged (h : w.Reads search logs seen n cursor)
    (hvalid : ∀ log ∈ logs, LogName.Valid log) (hnodup : logs.Nodup)
    (hdistinct : Table.Distinct logs seen) (himpatient : w.observer.patient = false)
    (hlimit : 0 < search.limit) {t : Table} (ht : t ∈ seen) (hsound : t.Sound)
    (hseen : ∀ t' ∈ seen, t' = t) (hdone : w.observer.isDone = true) {limit : Nat}
    (hsize : t.size ≤ limit) :
    ∃ page, Page.read (fun _ => t) logs search.cursor limit search.filter = .ok page ∧
      Walk.met (Page.directionOf search.cursor) w.observer.readings =
        Page.scanned (Page.directionOf search.cursor) page.items := by
  have hapart := h.apart hvalid hnodup hdistinct
  have honward := h.onward hapart himpatient
  have hviews : Page.Apart (logs.map t.eventsOf) :=
    Table.apart_eventsOf hsound hvalid hnodup fun log hlog log' hlog' hne =>
      hdistinct log hlog log' hlog' hne t ht t ht
  obtain ⟨page, hread, hshows⟩ :=
    Page.exists_read hsound hvalid hviews search.cursor limit search.filter
  refine ⟨page, hread, ?_⟩
  have hordered := h.reads.walk.pairwise_met honward hapart
  have hitems : Page.scanned (Page.directionOf search.cursor)
      (Walk.met (Page.directionOf search.cursor) w.observer.readings) = page.items := by
    -- both are in order, so it is enough that they hold the same events
    refine eq_of_ascending ?_ hshows.ascending fun e => ?_
    · rw [← Page.pairwise_scanned (d := Page.directionOf search.cursor), Page.scanned_scanned]
      exact hordered
    · rw [Page.mem_scanned, hshows.mem_iff hsize]
      constructor
      · intro he
        have hside := h.reads.walk.ahead_of_start honward hapart he
        obtain ⟨hlog, haccepts, look, hlook, hlooklog, hview⟩ := h.of_mem_met hapart hvalid he
        rw [Look.view, hseen _ (h.table_mem look hlook), hlooklog] at hview
        exact ⟨e.log, hlog, Page.mem_select.2 ⟨hview, hside, haccepts⟩⟩
      · rintro ⟨log, hlog, he⟩
        obtain ⟨hview, hside, haccepts⟩ := Page.mem_select.1 he
        refine h.mem_met hapart himpatient hlimit hdone hlog haccepts hside fun look hlook hlooklog => ?_
        rw [Look.view, hseen _ (h.table_mem look hlook), hlooklog]
        exact hview
  rw [← hitems, Page.scanned_scanned]

end Scan

/-! ### The main result -/

/-- **A scan shows what stays stored, once and in order.**

The clients of a store that has just been opened take the steps `before`; then a client begins to read page after page,
until one is empty, and steps and looks come in any order.  No identifier is in two of the logs.  What is received
is in the order of the direction, comes from the logs, is accepted by the filter and lies behind the start.  When the
client has stopped, it has received every such event that was there whenever its log was read.  No call fails: a page
takes two looks more than there are logs.  Where nothing changes, the client stops, and all pages together show
what one page with room for everything does. -/
theorem scans_completely {s : SharedStore} {start : Table} (hfresh : s.Fresh start)
    (hstart : start.Sound) (before : List (Nat × Draw)) (r : Reader) {search : Collector.Search}
    (hcheck : Collector.checkRequest r.settings r.request = .ok search)
    (hroster : r.request.logs = [] → ∀ name ∈ r.crew.roster.keys, LogName.Valid name)
    (himpatient : r.patient = false) (hidle : r.gathering = none) (hnone : r.readings = [])
    (moments : List (Moment Unit))
    (hdistinct : Table.Distinct (r.crew.pageLogs r.request.logs)
      ((⟨s.run before, r⟩ : Observed Reader).tables moments)) :
    let w : Observed Reader := ⟨s.run before, r⟩
    let now := w.run moments
    let logs := r.crew.pageLogs r.request.logs
    let direction := Page.directionOf search.cursor
    let received := Walk.met direction now.observer.readings
    received.Pairwise (fun a b => direction.Before a.id b.id) ∧
    (∀ e ∈ received, e.log ∈ logs ∧ search.accepts e = true ∧
      (∀ c ∈ search.cursor, direction.Before c.id e.id) ∧
        ∃ look ∈ now.observer.looks, look.log = e.log ∧ e ∈ look.table.eventsOf e.log) ∧
    (now.observer.looks.map (·.table)).Sublist (w.tables moments) ∧
    (∀ reading ∈ now.observer.readings, reading.looks.map (·.log) = logs) ∧
    (now.observer.isDone = true → ∀ log ∈ logs, ∀ e, search.accepts e = true →
      (∀ c ∈ search.cursor, direction.Before c.id e.id) →
        (∀ look ∈ now.observer.looks, look.log = log → e ∈ look.table.eventsOf log) →
          e ∈ received) ∧
    (now.observer.isDone = false →
      now.observer.readings.length = (Moment.aims moments).length / (logs.length + 2)) ∧
    ∀ t, (∀ t' ∈ w.tables moments, t' = t) →
      (t.size + 2) * (logs.length + 2) ≤ (Moment.aims moments).length →
        now.observer.isDone = true ∧ ∀ limit, t.size ≤ limit →
          ∃ page, Page.read (fun _ => t) logs search.cursor limit search.filter = .ok page ∧
            received = Page.scanned direction page.items := by
  intro w now logs direction received
  have hnodup : logs.Nodup := Crew.nodup_pageLogs _ _
  have hhealthy := SharedStore.healthy_run before (hfresh.healthy hstart)
  obtain ⟨hvalid, hlimit, cursor, hreads⟩ : (∀ log ∈ logs, LogName.Valid log) ∧ 0 < search.limit ∧
      ∃ cursor, now.Reads search logs (w.tables moments) (Moment.aims moments).length cursor :=
    reads_run_of_idle hhealthy hcheck hroster hidle hnone moments
  have himpatient : now.observer.patient = false := (patient_run moments w).trans himpatient
  have hapart := hreads.apart hvalid hnodup hdistinct
  have honward := hreads.onward hapart himpatient
  refine ⟨hreads.reads.walk.pairwise_met honward hapart, fun e he => ?_, hreads.looks, ?_, ?_, ?_, ?_⟩
  · obtain ⟨hlog, haccepts, look, hlook, hlooklog, hview⟩ := hreads.of_mem_met hapart hvalid he
    refine ⟨hlog, haccepts, hreads.reads.walk.ahead_of_start honward hapart he, look, hlook, hlooklog,
      ?_⟩
    rw [Look.view, hlooklog] at hview
    exact hview
  · exact fun reading hreading => (hreads.reads.walk.right reading hreading).logs
  · intro hdone log hlog e haccepts hside hstays
    refine hreads.mem_met hapart himpatient hlimit hdone hlog haccepts hside fun look hlook hlooklog => ?_
    rw [Look.view, hlooklog]
    exact hstays look hlook hlooklog
  · exact hreads.length_readings
  · intro t hseen hn
    have hdone := hreads.isDone_of_unchanged hapart himpatient hseen hn
    obtain ⟨t', ht', hsound⟩ := hhealthy.table
    have hmem : t' ∈ w.tables moments := mem_tables_start ht' moments
    obtain rfl := hseen t' hmem
    exact ⟨hdone, fun limit hsize => hreads.met_of_unchanged hvalid hnodup hdistinct himpatient hlimit
      hmem hsound hseen hdone hsize⟩

/-- A log is scanned event by event, while an event comes into another log and is removed again. -/
theorem scans_staying_events :
    let draw : Draw := ⟨.ofNanos 1709294400000000000, .ok ⟨7, by decide⟩⟩
    let s : SharedStore :=
      { store := { settings := {}, table? := some .empty }
        clients := [.ready (.add "a" (.ofNanos 5) [104]), .ready (.add "a" (.ofNanos 6) [105]),
          .ready (.add "b" (.ofNanos 7) [106]), .ready (.trim "b" 0)] }
    let before : List (Nat × Draw) := List.replicate 5 (0, draw) ++ List.replicate 5 (1, draw)
    let r : Reader :=
      { settings := .inHome "home"
        crew := { statePath := "home/logd.json", maxSize := 8, roster := .empty }
        request := { logs := ["a", "b"], limit := some 1 }
        patient := false }
    let moments : List (Moment Unit) :=
      List.replicate 6 (.look ()) ++ List.replicate 5 (.step 2 draw) ++ List.replicate 2 (.look ()) ++
        List.replicate 4 (.step 3 draw) ++ List.replicate 4 (.look ())
    let w : Observed Reader := ⟨s.run before, r⟩
    let now := w.run moments
    now.observer.isDone = true ∧ w.shared.store.eventsOf "a" ≠ [] ∧
      ∀ e ∈ w.shared.store.eventsOf "a", e ∈ Walk.met .backward now.observer.readings := by
  intro draw s before r moments w now
  have hfresh : s.Fresh .empty := by
    refine ⟨rfl, rfl, rfl, fun stage hstage => ?_⟩
    have herrand : ∀ stage ∈ s.clients, ∃ errand, stage = .ready errand := by
      simp [s]
    exact herrand stage hstage
  have hcheck : Collector.checkRequest r.settings r.request =
      .ok { cursor := none, limit := 1, logs := ["a", "b"], filter := none } := rfl
  have hdistinct : Table.Distinct (r.crew.pageLogs r.request.logs) (w.tables moments) :=
    distinct_tables_of_empty hfresh (by decide +kernel) before r moments (by decide +kernel)
  have hmain := scans_completely hfresh Table.sound_empty before r hcheck nofun rfl rfl rfl moments
    hdistinct
  have hdone : now.observer.isDone = true := by decide +kernel
  refine ⟨hdone, by decide +kernel, fun e he => ?_⟩
  have hstays : ∀ e ∈ w.shared.store.eventsOf "a", ∀ look ∈ now.observer.looks, look.log = "a" →
      e ∈ look.table.eventsOf "a" := by decide +kernel
  exact hmain.2.2.2.2.1 hdone "a" (by decide +kernel) e rfl nofun (hstays e he)

end Observed

end Logbook
