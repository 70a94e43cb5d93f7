import Logbook.Proofs.Reader

/-!
# What a merged page passes by

The logs of a page are read one after the other.  An event that comes into a log after it has been read for a page is
overtaken if a log that is read later shows a newer one: the client goes on from behind both.  Nothing else
is passed by.

## Main definitions

* `Reading.Overtakes` — a page passes an event by.

## Main results

* `Observed.receives_unless_overtaken` — **a client receives all events but those that are overtaken.**
-/

namespace Logbook

/-- A page overtakes an event: the log is read while the event is not there, and a log that is read later, when
the event is there, shows a newer one on the page. -/
def Reading.Overtakes (r : Reading) (e : Event) : Prop :=
  ∃ earlier look later, r.looks = earlier ++ look :: later ∧ look.log = e.log ∧
    e ∉ look.table.eventsOf e.log ∧ ∃ look' ∈ later, e ∈ look'.table.eventsOf e.log ∧
      ∃ f ∈ r.page.items, f ∈ look'.table.eventsOf look'.log ∧ e.id < f.id

namespace Observed

section Reads

variable {search : Collector.Search} {logs : List String} {seen : List Table} {n : Nat}
  {cursor : Option Cursor} {w : Observed Reader}

/-- What is seen in a look is there in all later ones. -/
theorem Reads.kept_looks (h : w.Reads search logs seen n cursor) (hkept : Table.Kept logs seen) :
    (∀ r ∈ w.observer.readings, r.looks.Pairwise fun look look' =>
      ∀ log ∈ logs, ∀ e ∈ look.table.eventsOf log, e ∈ look'.table.eventsOf log) ∧
    w.observer.readings.Pairwise fun r r' => ∀ look ∈ r.looks, ∀ look' ∈ r'.looks,
      ∀ log ∈ logs, ∀ e ∈ look.table.eventsOf log, e ∈ look'.table.eventsOf log := by
  have hlooks := hkept.sublist h.looks
  rw [List.pairwise_map, Reader.looks, List.pairwise_append] at hlooks
  exact List.pairwise_flatMap.1 hlooks.1

/-- A log is read once for a page. -/
theorem Reads.look_eq (h : w.Reads search logs seen n cursor) (hnodup : logs.Nodup) {r : Reading}
    (hr : r ∈ w.observer.readings) {look look' : Look} (hlook : look ∈ r.looks)
    (hlook' : look' ∈ r.looks) (hlog : look.log = look'.log) : look = look' := by
  rw [← (h.reads.walk.right r hr).logs, List.Nodup, List.pairwise_map] at hnodup
  rcases rel_or_eq_or_rel hnodup hlook hlook' with hne | heq | hne
  · exact absurd hlog hne
  · exact heq
  · exact absurd hlog.symm hne

theorem Reads.log_mem (h : w.Reads search logs seen n cursor) {r : Reading}
    (hr : r ∈ w.observer.readings) {look : Look} (hlook : look ∈ r.looks) : look.log ∈ logs := by
  rw [← (h.reads.walk.right r hr).logs]
  exact List.mem_map_of_mem hlook

/-- An event that is overtaken is not received, neither before nor after. -/
theorem Reads.not_overtakes_of_mem (h : w.Reads search logs seen n cursor)
    (hvalid : ∀ log ∈ logs, LogName.Valid log) (hnodup : logs.Nodup) (hkept : Table.Kept logs seen)
    (honward : Walk.Onward w.observer.readings) (hforward : Page.directionOf search.cursor = .forward)
    {r r' : Reading} (hr : r ∈ w.observer.readings) (hr' : r' ∈ w.observer.readings) {e : Event}
    (he : e ∈ r'.page.items) : ¬ r.Overtakes e := by
  rintro ⟨earlier, look, later, hlooks, hlog, hnot, -, -, -, f, hf, -, hlt⟩
  have hwalk := h.reads.walk
  have hlook : look ∈ r.looks := by
    rw [hlooks]
    exact List.mem_append_right _ List.mem_cons_self
  obtain ⟨look', hlook', hview, hadmits, -⟩ :=
    (hwalk.right r' hr').exists_look (honward.apart r' hr') he
  have hmem' := h.log_mem hr' hlook'
  have helog : e.log = look'.log :=
    Table.log_of_mem_eventsOf ((hwalk.right r' hr').sound look' hlook') (hvalid _ hmem') hview
  obtain ⟨-, hkept⟩ := h.kept_looks hkept
  rcases rel_or_eq_or_rel ((hwalk.pairwise_next honward).and hkept) hr hr' with
    ⟨⟨c, hcursor, hnext⟩, -⟩ | rfl | ⟨-, hkept⟩
  · -- a later page starts behind `f`, hence behind `e`
    have hahead := hadmits c hcursor
    have hbehind := (hwalk.right r hr).not_before_next (honward.apart r hr) hf
    rw [hwalk.direction_mem honward _ hr'] at hahead
    rw [hwalk.direction_mem honward _ hr] at hbehind
    rw [hforward] at hahead hbehind hnext
    exact hbehind ((hahead.of_not_before hnext).trans hlt)
  · have heq : look' = look := h.look_eq hnodup hr hlook' hlook (helog.symm.trans hlog.symm)
    rw [heq] at hview
    rw [← hlog] at hnot
    exact hnot hview
  · rw [helog] at hnot
    exact hnot (hkept look' hlook' look hlook look'.log hmem' e hview)

/-- An event that has been passed and is not received is overtaken. -/
theorem Reads.overtakes_of_notMem (h : w.Reads search logs seen n cursor)
    (hvalid : ∀ log ∈ logs, LogName.Valid log) (hdistinct : Table.Distinct logs seen)
    (hkept : Table.Kept logs seen) (honward : Walk.Onward w.observer.readings)
    (hforward : Page.directionOf search.cursor = .forward)
    (hlimit : 0 < search.limit) {t : Table} {init : List Table} (hseen : seen = init ++ [t])
    (hsound : t.Sound) {e : Event} (hlog : e.log ∈ logs) (he : e ∈ t.eventsOf e.log)
    (haccepts : search.accepts e = true)
    (hnewer : ∀ t' ∈ seen, ∀ log ∈ logs, ∀ f ∈ t'.eventsOf log, e.id < f.id → e ∈ t'.eventsOf e.log)
    {r : Reading} (hr : r ∈ w.observer.readings) (hspans : r.Spans e.id) (hnot : e ∉ r.page.items) :
    r.Overtakes e := by
  have hright := h.reads.walk.right r hr
  have hapart := honward.apart r hr
  have hdirection := (h.reads.walk.direction_mem honward r hr).trans hforward
  obtain ⟨look, hlook, hlooklog⟩ : ∃ look ∈ r.looks, look.log = e.log := by
    rw [← hright.logs] at hlog
    exact List.mem_map.1 hlog
  have hview : e ∉ look.table.eventsOf e.log := by
    intro hview
    rw [← hlooklog] at hview
    exact hnot ((hright.mem_items_iff hapart hlimit hspans).2 ⟨⟨look, hlook, hview⟩, haccepts⟩)
  have hne : r.page.items ≠ [] := by
    intro hnil
    rcases honward.steady r hr with hsome | hne
    · obtain ⟨c, hcursor⟩ := Option.isSome_iff_exists.1 hsome
      have hbeyond := hspans.2
      rw [hright.next_of_nil hnil, hcursor] at hbeyond
      exact hbeyond (hspans.1 c hcursor)
    · exact hne hnil
  -- the page leads on from an event `f`, which is not `e`
  obtain ⟨f, hf, hnext, -⟩ := hright.exists_next hapart hne
  obtain ⟨look', hlook', hfview, -⟩ := hright.exists_look hapart hf
  have hlog' := h.log_mem hr hlook'
  have hseen' : look'.table ∈ seen := h.table_mem look' (Reader.mem_looks hr hlook')
  have ht : t ∈ seen := by
    rw [hseen]
    exact List.mem_concat_self
  have hids : e.id ≠ f.id := by
    by_cases hsame : look'.log = e.log
    · -- both are in the log in the end
      have hft : f ∈ t.eventsOf e.log := by
        rw [Look.view, hsame] at hfview
        rw [hseen, List.mem_append] at hseen'
        rw [hseen, Table.Kept, List.pairwise_append] at hkept
        rcases hseen' with hinit | hlast
        · exact hkept.2.2 _ hinit t List.mem_cons_self e.log hlog f hfview
        · rw [List.mem_singleton.1 hlast] at hfview
          exact hfview
      rcases rel_or_eq_or_rel (Table.pairwise_eventsOf hsound (hvalid _ hlog)) he hft with hlt | rfl | hlt
      · exact fun heq => Nat.ne_of_lt hlt (congrArg EventId.value heq)
      · exact absurd hf hnot
      · exact fun heq => Nat.ne_of_gt hlt (congrArg EventId.value heq)
    · exact hdistinct _ hlog _ hlog' (Ne.symm hsame) t ht _ hseen' e he f hfview
  have hlt : e.id < f.id := by
    have hle := hspans.2
    rw [hnext, hdirection] at hle
    exact Nat.lt_of_le_of_ne (Nat.le_of_not_lt hle) fun heq => hids (EventId.ext heq)
  have hin : e ∈ look'.table.eventsOf e.log := hnewer _ hseen' _ hlog' f hfview hlt
  -- the log of `f` is read later than that of `e`
  obtain ⟨earlier, later, hlooks⟩ := List.append_of_mem hlook
  refine ⟨earlier, look, later, hlooks, hlooklog, hview, look', ?_, hin, f, hf, hfview, hlt⟩
  have hwithin := (h.kept_looks hkept).1 r hr
  rw [hlooks] at hlook' hwithin
  rcases List.mem_append.1 hlook' with hearlier | hlook'
  · have hstays := (List.pairwise_append.1 hwithin).2.2 look' hearlier look List.mem_cons_self
    exact absurd (hstays _ hlog e hin) hview
  · rcases List.mem_cons.1 hlook' with rfl | hlater
    · exact absurd hin hview
    · exact hlater

end Reads

/-! ### The main result -/

/-- **A client that follows several logs receives all their events but those that are overtaken.**

The clients of a store that has just been opened take the steps `before`; then a client begins to read page after page
forward from `origin`, whether or not a page is empty, and steps and looks come in any order.  No call fails: a page
takes two looks more than there are logs.  Events are received in the order of their identifiers, so none is
received twice.  Where nothing is removed, each event of the logs between the origin and the place where the client
stands is received, unless a page overtakes it; one that is overtaken is never received.  New events are meant
that are above all that an earlier store has left in the logs, and all those that were there when the client began. -/
theorem receives_unless_overtaken {s : SharedStore} {start : Table} (hfresh : s.Fresh start)
    (hstart : start.Sound) (before : List (Nat × Draw)) (r : Reader) {search : Collector.Search}
    (hcheck : Collector.checkRequest r.settings r.request = .ok search) {origin : EventId}
    (horigin : search.cursor = some (.forward origin))
    (hroster : r.request.logs = [] → ∀ name ∈ r.crew.roster.keys, LogName.Valid name)
    (hpatient : r.patient = true) (hidle : r.gathering = none) (hnone : r.readings = [])
    (moments : List (Moment Unit))
    (hrange : ((⟨s.run before, r⟩ : Observed Reader).run moments).shared.store.generator.InRange)
    (hdistinct : Table.Distinct (r.crew.pageLogs r.request.logs)
      ((⟨s.run before, r⟩ : Observed Reader).tables moments)) :
    let w : Observed Reader := ⟨s.run before, r⟩
    let now := w.run moments
    let logs := r.crew.pageLogs r.request.logs
    let received := now.observer.readings.flatMap (·.page.items)
    now.observer.readings.length = (Moment.aims moments).length / (logs.length + 2) ∧
    (∀ reading ∈ now.observer.readings, reading.looks.map (·.log) = logs) ∧
    (now.observer.looks.map (·.table)).Sublist (w.tables moments) ∧
    received.Pairwise (fun a b => a.id < b.id) ∧
    ∃ position, now.observer.cursor? = some (.forward position) ∧
      (Table.Kept logs (w.tables moments) →
        ∀ log ∈ logs, ∀ e ∈ now.shared.store.eventsOf log, search.accepts e = true →
          origin < e.id → e.id ≤ position →
            (e ∈ w.shared.store.eventsOf log ∨
              ∀ log' ∈ logs, ∀ f ∈ start.eventsOf log', f.id < e.id) →
                (e ∈ received ↔ ¬ ∃ reading ∈ now.observer.readings, reading.Overtakes e)) := by
  intro w now logs received
  have hnodup : logs.Nodup := Crew.nodup_pageLogs _ _
  have hhealthy := SharedStore.healthy_run before (hfresh.healthy hstart)
  obtain ⟨hvalid, hlimit, cursor, hreads⟩ : (∀ log ∈ logs, LogName.Valid log) ∧ 0 < search.limit ∧
      ∃ cursor, now.Reads search logs (w.tables moments) (Moment.aims moments).length cursor :=
    reads_run_of_idle hhealthy hcheck hroster hidle hnone moments
  have horderly := SharedStore.orderly_run before hfresh.orderly (inRange_of_run moments hrange)
  have hwalk := hreads.reads.walk
  have hsome : search.cursor.isSome := by
    rw [horigin]
    rfl
  have hforward : Page.directionOf search.cursor = .forward := by
    rw [horigin]
    rfl
  have honward : Walk.Onward now.observer.readings :=
    ⟨hreads.apart hvalid hnodup hdistinct, fun r hr => Or.inl (hwalk.isSome_cursor_of_mem hsome r hr)⟩
  obtain ⟨c, hcursor⟩ := Option.isSome_iff_exists.1 (hwalk.isSome_cursor hsome)
  have hc : c = .forward c.id := by
    have hdirection := (hwalk.direction_eq honward).trans hforward
    rw [hcursor] at hdirection
    exact congrArg (Cursor.mk c.id) hdirection
  have hreceived : received = Walk.met (Page.directionOf search.cursor) now.observer.readings := by
    rw [hforward]
    rfl
  refine ⟨?_, fun reading hreading => (hwalk.right reading hreading).logs, hreads.looks, ?_, c.id, ?_,
    fun hkept log hlog e he haccepts habove hbehind hnew => ?_⟩
  · -- the client never stops
    refine hreads.length_readings (Bool.eq_false_iff.2 fun hdone => ?_)
    have himpatient := (Reader.isDone_eq_true_iff.1 hdone).1
    rw [patient_run moments w, show w.observer.patient = true from hpatient] at himpatient
    cases himpatient
  · have hordered := hwalk.pairwise_met honward.of_dropLast honward.apart
    rw [← hreceived, hforward] at hordered
    exact hordered
  · rw [hreads.cursor?_eq, hcursor, ← hc]
  · obtain ⟨t, ht, hsound⟩ := hreads.healthy.table
    obtain ⟨init, hinit⟩ := exists_tables_concat moments ht
    have hnow := he
    rw [Store.eventsOf_eq ht] at he
    obtain rfl : e.log = log := Table.log_of_mem_eventsOf hsound (hvalid log hlog) he
    rw [hreceived, Walk.mem_met]
    constructor
    · rintro ⟨r', hr', hmem⟩ ⟨r, hr, hovertakes⟩
      exact hreads.not_overtakes_of_mem hvalid hnodup hkept honward hforward hr hr' hmem hovertakes
    · intro hnone
      have hnewer : ∀ t' ∈ w.tables moments, ∀ log ∈ logs, ∀ f ∈ t'.eventsOf log, e.id < f.id →
          e ∈ t'.eventsOf e.log := by
        intro t' ht' log' hlog' f hf hlt
        exact mem_of_newer_of_stored hstart (hvalid _ hlog') hlog (hvalid _ hlog) horderly hrange hkept
          hnow (hnew.imp_right fun hbelow => hbelow log' hlog') ht' hf hlt
      have habove : ∀ c ∈ search.cursor, (Page.directionOf search.cursor).Before c.id e.id := by
        intro c hc
        rw [horigin] at hc
        obtain rfl := Option.some.inj hc
        rw [hforward]
        exact habove
      -- the event lies across a page, since it is not ahead
      rcases hwalk.spans_or_ahead honward habove with ⟨r, hr, hspans⟩ | hahead
      · refine ⟨r, hr, ?_⟩
        by_cases hmem : e ∈ r.page.items
        · exact hmem
        · have hovertakes := hreads.overtakes_of_notMem hvalid hdistinct hkept honward hforward hlimit
            hinit hsound hlog he haccepts hnewer hr hspans hmem
          exact absurd ⟨r, hr, hovertakes⟩ hnone
      · have hlt := hahead c hcursor
        rw [hforward] at hlt
        exact absurd hlt (Nat.not_lt_of_le hbehind)

/-- Between the looks at two logs, an event comes into the first and then one into the second: the page shows the
second and overtakes the first. -/
theorem overtakes_event_between_looks :
    let draw : Draw := ⟨.ofNanos 1709294400000000000, .ok ⟨7, by decide⟩⟩
    let s : SharedStore :=
      { store := { settings := {}, table? := some .empty }
        clients := [.ready (.add "a" (.ofNanos 5) [104]), .ready (.add "b" (.ofNanos 6) [105])] }
    let r : Reader :=
      { settings := .inHome "home"
        crew := { statePath := "home/logd.json", maxSize := 8, roster := .empty }
        request := { logs := ["a", "b"], cursor := some Cursor.start.text }
        patient := true }
    let moments : List (Moment Unit) :=
      List.replicate 2 (.look ()) ++ List.replicate 5 (.step 0 draw) ++ List.replicate 5 (.step 1 draw) ++
        List.replicate 6 (.look ())
    let now := (⟨s, r⟩ : Observed Reader).run moments
    now.shared.store.eventsOf "a" ≠ [] ∧ now.shared.store.eventsOf "b" ≠ [] ∧
    (∀ e ∈ now.shared.store.eventsOf "a", ∃ reading ∈ now.observer.readings, reading.Overtakes e) ∧
    ∀ e ∈ now.shared.store.eventsOf "b", ¬ ∃ reading ∈ now.observer.readings, reading.Overtakes e := by
  intro draw s r moments now
  have hfresh : s.Fresh .empty := by
    refine ⟨rfl, rfl, rfl, fun stage hstage => ?_⟩
    have herrand : ∀ stage ∈ s.clients, ∃ errand, stage = .ready errand := by
      simp [s]
    exact herrand stage hstage
  have hplain : Collector.checkRequest r.settings { logs := ["a", "b"] } =
      .ok { cursor := none, limit := 500, logs := ["a", "b"], filter := none } := rfl
  have hcheck := Collector.checkRequest_text hplain .start
  have hrange : ((⟨s.run [], r⟩ : Observed Reader).run moments).shared.store.generator.InRange := by
    decide +kernel
  have hdistinct : Table.Distinct (r.crew.pageLogs r.request.logs)
      ((⟨s.run [], r⟩ : Observed Reader).tables moments) :=
    distinct_tables_of_empty hfresh (by decide +kernel) [] r moments hrange
  have hmain := receives_unless_overtaken hfresh Table.sound_empty [] r hcheck rfl nofun rfl rfl rfl
    moments hrange hdistinct
  obtain ⟨-, -, -, -, position, hposition, hiff⟩ := hmain
  have hcursor : now.observer.cursor? = some (.forward position) := hposition
  have hkept : Table.Kept (r.crew.pageLogs r.request.logs) ((⟨s, r⟩ : Observed Reader).tables moments) := by
    decide +kernel
  have hplace : ∀ log ∈ ["a", "b"], ∀ e ∈ now.shared.store.eventsOf log, EventId.least < e.id ∧
      (now.observer.cursor?.all fun c => decide (e.id ≤ c.id)) = true := by decide +kernel
  have hreceived (log : String) (hlog : log ∈ ["a", "b"]) (e : Event)
      (he : e ∈ now.shared.store.eventsOf log) :
      e ∈ now.observer.readings.flatMap (·.page.items) ↔
        ¬ ∃ reading ∈ now.observer.readings, reading.Overtakes e := by
    obtain ⟨habove, hbehind⟩ := hplace log hlog e he
    rw [hcursor, Option.all_some, decide_eq_true_iff] at hbehind
    refine hiff hkept log ?_ e he rfl habove hbehind (Or.inr fun log' _ f hf => ?_)
    · exact (Crew.mem_pageLogs (List.cons_ne_nil _ _)).2 hlog
    · rw [Table.eventsOf_empty] at hf
      cases hf
  refine ⟨by decide +kernel, by decide +kernel, fun e he => ?_, fun e he => ?_⟩
  · have hnot : ∀ e ∈ now.shared.store.eventsOf "a", e ∉ now.observer.readings.flatMap (·.page.items) := by
      decide +kernel
    exact Classical.not_not.1 (mt (hreceived "a" (by decide) e he).2 (hnot e he))
  · have hin : ∀ e ∈ now.shared.store.eventsOf "b", e ∈ now.observer.readings.flatMap (·.page.items) := by
      decide +kernel
    exact (hreceived "b" (by decide) e he).1 (hin e he)

/-- **An event may be passed by.**  In the first run it comes into a log that has been read for a page, before another
comes into the log that is read next; in the second an earlier store has left a greater identifier. -/
theorem passes_by_stored_event :
    let draw : Draw := ⟨.ofNanos 1709294400000000000, .ok ⟨7, by decide⟩⟩
    let r : Reader :=
      { settings := .inHome "home"
        crew := { statePath := "home/logd.json", maxSize := 8, roster := .empty }
        request := { logs := ["a", "b"], cursor := some Cursor.start.text }
        patient := true }
    let steps (client : Nat) : List (Moment Unit) := List.replicate 5 (.step client draw)
    let looks (n : Nat) : List (Moment Unit) := List.replicate n (.look ())
    let first : Observed Reader :=
      ⟨{ store := { settings := {}, table? := some .empty }
         clients := [.ready (.add "a" (.ofNanos 5) [104]), .ready (.add "b" (.ofNanos 6) [105])] }, r⟩
    let second : Observed Reader :=
      ⟨{ store := { settings := {}, table? := some (.ofEntries [(Entry.key "a" .greatest, Entry.payload 5 [])]) }
         clients := [.ready (.add "a" (.ofNanos 5) [104])] }, r⟩
    let passesBy (w : Observed Reader) (moments : List (Moment Unit)) : Prop :=
      Table.Distinct ["a", "b"] (w.tables moments) ∧ Table.Kept ["a", "b"] (w.tables moments) ∧
        ∃ e ∈ (w.run moments).shared.store.eventsOf "a", EventId.least < e.id ∧
          (∃ c ∈ (w.run moments).observer.cursor?.toList, e.id ≤ c.id) ∧
            ∀ reading ∈ (w.run moments).observer.readings, e ∉ reading.page.items
    passesBy first (looks 2 ++ steps 0 ++ steps 1 ++ looks 6) ∧
      passesBy second (looks 4 ++ steps 0 ++ looks 4) := by
  intro draw r steps looks first second passesBy
  refine ⟨⟨?_, ?_, ?_⟩, ?_, ?_, ?_⟩
  · decide +kernel
  · decide +kernel
  · decide +kernel
  · decide +kernel
  · decide +kernel
  · decide +kernel

end Observed

end Logbook
