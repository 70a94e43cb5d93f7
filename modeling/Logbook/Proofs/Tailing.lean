import Logbook.Proofs.Observing
import Logbook.Proofs.Page
import Logbook.Store.Tailing

/-!
# Following a log

Since events are committed in the order of their identifiers, a client that goes on from behind the last event that
it has received does not pass one by.

## Main definitions

* `Observed.Follows` — the invariant.
* `Observed.pending` — the events that are still to be received before another.

## Main results

* `Observed.Follows.step`, `Observed.Follows.look`, `Observed.Follows.run` — the invariant is kept.
* `Observed.Follows.received_of_reads` — nothing that stays stored is waited for in vain.
* `Observed.receives_in_commit_order` — **whoever follows a log receives its events as they are committed.**
-/

namespace Logbook

/-! ### One read -/

namespace Tail

variable {w : Tail} {events : List Event}

/-- A read takes what it is to find. -/
theorem poll_eq {store : Store} {t : Table} (ht : store.table? = some t) (hsound : t.Sound)
    (hlog : LogName.Valid w.log) (limit : Nat) :
    w.poll store limit = w.take ((w.query limit).answer (t.eventsOf w.log)) := by
  rw [poll, Store.read_eq ht hsound hlog]

/-- The client stands where it stood or at an event that it has just received. -/
theorem position_take {i : EventId} (hi : i ∈ (w.take events).position) :
    i ∈ w.position ∨ ∃ e ∈ events, e.id = i := by
  unfold take at hi
  cases hlast : events.getLast? with
  | none =>
    rw [hlast] at hi
    exact Or.inl hi
  | some e =>
    rw [hlast] at hi
    exact Or.inr ⟨e, List.mem_of_getLast? hlast, Option.some.inj hi⟩

/-- Nothing that has just been received lies ahead. -/
theorem le_position_take (h : events.Pairwise fun a b => a.id < b.id) {e : Event}
    (he : e ∈ events) : ∃ i ∈ (w.take events).position, e.id ≤ i := by
  cases hlast : events.getLast? with
  | none =>
    rw [List.getLast?_eq_none_iff] at hlast
    rw [hlast] at he
    cases he
  | some last =>
    refine ⟨last.id, ?_, ?_⟩
    · unfold take
      rw [hlast]
      rfl
    · obtain ⟨init, rfl⟩ := List.getLast?_eq_some_iff.1 hlast
      rw [List.pairwise_append] at h
      rcases List.mem_append.1 he with he | he
      · exact Nat.le_of_lt (h.2.2 e he last List.mem_cons_self)
      · rw [List.mem_singleton.1 he]
        exact Nat.le_refl _

theorem mem_answer {limit : Nat} {e : Event} (he : e ∈ (w.query limit).answer events) :
    e ∈ events ∧ ∀ i ∈ w.position, i < e.id := by
  have hselect := (Page.cut_sublist _ _ _).mem he
  rw [Query.select, List.mem_filter, Bool.and_eq_true, Query.admits_iff] at hselect
  exact ⟨hselect.1, hselect.2.1⟩

theorem pairwise_answer (h : events.Pairwise fun a b => a.id < b.id) (limit : Nat) :
    ((w.query limit).answer events).Pairwise fun a b => a.id < b.id :=
  h.sublist ((Page.cut_sublist _ _ _).trans List.filter_sublist)

theorem mem_select {limit : Nat} {e : Event} (he : e ∈ events) (hahead : ∀ i ∈ w.position, i < e.id) :
    e ∈ (w.query limit).select events := by
  rw [Query.select, List.mem_filter, Bool.and_eq_true, Query.admits_iff]
  exact ⟨he, hahead, rfl⟩

/-- What a read leaves out lies ahead of all that it finds. -/
theorem lt_of_notMem_answer (h : events.Pairwise fun a b => a.id < b.id) {limit : Nat} {e : Event}
    (he : e ∈ events) (hahead : ∀ i ∈ w.position, i < e.id)
    (hanswer : e ∉ (w.query limit).answer events) :
    ∀ f ∈ (w.query limit).answer events, f.id < e.id :=
  Page.before_of_notMem_cut (h.sublist List.filter_sublist) (mem_select he hahead) hanswer

end Tail

namespace Observed

/-- What holds of a client that has started behind `origin`, when the store has been opened with the table `start`
and the events `past` and then, since the client has started, `new` have been committed. -/
structure Follows (start : Table) (origin : Option EventId) (past new : List Event)
    (w : Observed Tail) : Prop where
  /-- Events are committed in the order of their identifiers. -/
  orderly : w.shared.Orderly start (past ++ new)
  /-- The log has a name. -/
  valid : LogName.Valid w.observer.log
  /-- Events are received in the order of their identifiers. -/
  ascending : w.observer.received.Pairwise fun a b => a.id < b.id
  /-- All that has been received lies behind the client. -/
  behind : ∀ e ∈ w.observer.received, ∃ i ∈ w.observer.position, e.id ≤ i
  /-- The client stands where it has started or at an event that it has received. -/
  position : ∀ i ∈ w.observer.position, i ∈ origin ∨ ∃ e ∈ w.observer.received, e.id = i
  /-- All that has been received was there from the start or has been committed. -/
  known : ∀ e ∈ w.observer.received, e ∈ start.eventsOf w.observer.log ∨ e ∈ past ++ new
  /-- A new event that is there and has not been received lies ahead, unless it is below the place where the
  client has started or below an event that was there from the start. -/
  ahead : ∀ e ∈ new, (∀ i ∈ origin, i < e.id) → (∀ f ∈ start.eventsOf w.observer.log, f.id < e.id) →
    e ∈ w.shared.store.eventsOf w.observer.log → e ∉ w.observer.received →
      ∀ i ∈ w.observer.position, i < e.id

section Follows

variable {start : Table} {origin : Option EventId} {past new : List Event} {w : Observed Tail}

/-- A step of another client leaves all new events received or ahead. -/
theorem Follows.step (h : w.Follows start origin past new) (hstart : start.Sound) (client : Nat)
    (draw : Draw) (hrange : (w.shared.step client draw).store.generator.InRange) :
    (w.act (.step client draw)).Follows start origin past (new ++ w.shared.commits client) where
  orderly := by
    rw [← List.append_assoc]
    exact SharedStore.orderly_step h.orderly client draw hrange
  valid := h.valid
  ascending := h.ascending
  behind := h.behind
  position := h.position
  known := by
    intro e he
    refine (h.known e he).imp_right fun he => ?_
    rw [← List.append_assoc]
    exact List.mem_append_left _ he
  ahead := by
    intro e he horigin hbelow hstored hreceived
    obtain ⟨t, ht, -⟩ := h.orderly.rows
    have hcommitted : e ∈ w.shared.commits client → ∀ i ∈ w.observer.position, i < e.id := by
      intro hcommits i hi
      rcases h.position i hi with hi | ⟨f, hf, rfl⟩
      · exact horigin i hi
      · rcases h.known f hf with hf | hf
        · exact hbelow f hf
        · exact (h.orderly.newest_commits hcommits).2 f hf
    rcases List.mem_append.1 he with he | he
    · rcases SharedStore.mem_eventsOf_step h.orderly.guarded ht (h.orderly.sound hstart ht) h.valid
        hstored with hstored | hcommits
      · exact h.ahead e he horigin hbelow hstored hreceived
      · exact hcommitted hcommits
    · exact hcommitted he

/-- A read takes what it is to find among the events that are stored. -/
theorem Follows.act_look (h : w.Follows start origin past new) (hstart : start.Sound)
    (limit : Nat) : w.act (.look limit) = { w with
      observer := w.observer.take ((w.observer.query limit).answer (w.shared.store.eventsOf w.observer.log)) } := by
  obtain ⟨t, ht, -⟩ := h.orderly.rows
  rw [act, Tail.look_eq, Tail.poll_eq ht (h.orderly.sound hstart ht) h.valid, Store.eventsOf_eq ht]

theorem Follows.pairwise_eventsOf (h : w.Follows start origin past new) (hstart : start.Sound) :
    (w.shared.store.eventsOf w.observer.log).Pairwise fun a b => a.id < b.id := by
  obtain ⟨t, ht, -⟩ := h.orderly.rows
  rw [Store.eventsOf_eq ht]
  exact Table.pairwise_eventsOf (h.orderly.sound hstart ht) h.valid

/-- A read leaves all new events received or ahead. -/
theorem Follows.look (h : w.Follows start origin past new) (hstart : start.Sound) (limit : Nat) :
    (w.act (.look limit)).Follows start origin past new := by
  have hpairwise := h.pairwise_eventsOf hstart
  have hanswer := Tail.pairwise_answer (w := w.observer) hpairwise limit
  rw [h.act_look hstart]
  refine ⟨h.orderly, h.valid, ?_, ?_, ?_, ?_, ?_⟩
  · show (w.observer.received ++ _).Pairwise _
    rw [List.pairwise_append]
    refine ⟨h.ascending, hanswer, fun e he f hf => ?_⟩
    obtain ⟨i, hi, hle⟩ := h.behind e he
    exact Nat.lt_of_le_of_lt hle ((Tail.mem_answer hf).2 i hi)
  · intro e he
    rcases List.mem_append.1 he with he | he
    · -- the client has not gone back
      obtain ⟨i, hi, hle⟩ := h.behind e he
      cases hnil : (w.observer.query limit).answer (w.shared.store.eventsOf w.observer.log) with
      | nil => exact ⟨i, hi, hle⟩
      | cons f rest =>
        have hf : f ∈ (w.observer.query limit).answer (w.shared.store.eventsOf w.observer.log) := by
          rw [hnil]
          exact List.mem_cons_self
        obtain ⟨j, hj, hfj⟩ := Tail.le_position_take (w := w.observer) hanswer hf
        rw [hnil] at hj
        refine ⟨j, hj, Nat.le_trans hle (Nat.le_trans ?_ hfj)⟩
        exact Nat.le_of_lt ((Tail.mem_answer hf).2 i hi)
    · exact Tail.le_position_take hanswer he
  · intro i hi
    rcases Tail.position_take hi with hi | ⟨e, he, rfl⟩
    · refine (h.position i hi).imp_right ?_
      rintro ⟨e, he, rfl⟩
      exact ⟨e, List.mem_append_left _ he, rfl⟩
    · exact Or.inr ⟨e, List.mem_append_right _ he, rfl⟩
  · intro e he
    rcases List.mem_append.1 he with he | he
    · exact h.known e he
    · exact h.orderly.mem_eventsOf hstart h.valid (Tail.mem_answer he).1
  · -- the client has not gone beyond what the read has left out
    intro e he horigin hbelow hstored hreceived i hi
    obtain ⟨hbefore, hnow⟩ : e ∉ w.observer.received ∧
        e ∉ (w.observer.query limit).answer (w.shared.store.eventsOf w.observer.log) := by
      rw [← not_or, ← List.mem_append]
      exact hreceived
    have hahead := h.ahead e he horigin hbelow hstored hbefore
    rcases Tail.position_take hi with hi | ⟨f, hf, rfl⟩
    · exact hahead i hi
    · exact Tail.lt_of_notMem_answer hpairwise hstored hahead hnow f hf

/-! ### Runs -/

/-- **A run leaves all new events received or ahead.** -/
theorem Follows.run (hstart : start.Sound) : ∀ (moments : List (Moment Nat)) {new : List Event}
    {w : Observed Tail}, w.Follows start origin past new →
      (w.run moments).shared.store.generator.InRange →
        (w.run moments).Follows start origin past (new ++ w.appended moments) := by
  intro moments
  induction moments with
  | nil =>
    intro new w h _
    rw [appended_nil, List.append_nil]
    exact h
  | cons moment rest ih =>
    intro new w h hrange
    cases moment with
    | step client draw =>
      rw [appended_step, ← List.append_assoc]
      exact ih (h.step hstart client draw (inRange_of_run rest hrange)) hrange
    | look limit =>
      rw [appended_look]
      exact ih (h.look hstart limit) hrange

/-! ### Nothing is waited for in vain -/

/-- The events up to `e` that are still to be received. -/
def pending (w : Observed Tail) (e : Event) : List Event :=
  (w.shared.store.eventsOf w.observer.log).filter fun f =>
    decide ((∀ i ∈ w.observer.position, i < f.id) ∧ f.id ≤ e.id)

theorem mem_pending {e f : Event} : f ∈ w.pending e ↔
    f ∈ w.shared.store.eventsOf w.observer.log ∧ (∀ i ∈ w.observer.position, i < f.id) ∧ f.id ≤ e.id := by
  rw [pending, List.mem_filter, decide_eq_true_iff]

theorem Follows.nodup_pending (h : w.Follows start origin past new) (hstart : start.Sound)
    (e : Event) : (w.pending e).Nodup := by
  obtain ⟨t, ht, -⟩ := h.orderly.rows
  rw [pending, Store.eventsOf_eq ht]
  refine nodup_of_ascending (List.Pairwise.sublist List.filter_sublist ?_)
  exact Table.pairwise_eventsOf (h.orderly.sound hstart ht) h.valid

theorem log_act (w : Observed Tail) (moment : Moment Nat) : (w.act moment).observer.log = w.observer.log := by
  cases moment with
  | step client draw => rfl
  | look limit =>
    show (w.observer.poll _ _).log = _
    unfold Tail.poll
    split
    · rfl
    · rfl

theorem log_run : ∀ (moments : List (Moment Nat)) (w : Observed Tail),
    (w.run moments).observer.log = w.observer.log := by
  intro moments
  induction moments with
  | nil => intro w; rfl
  | cons moment rest ih =>
    intro w
    rw [run_cons, ih, log_act]

/-- An event that has been committed is stored after a step only if it was before. -/
theorem Follows.stored_of_step (h : w.Follows start origin past new) (hstart : start.Sound)
    {client : Nat} {draw : Draw} {log : String} (hlog : LogName.Valid log) {e f : Event}
    (he : e ∈ past ++ new) (hf : f.id ≤ e.id)
    (hstored : f ∈ (w.shared.step client draw).store.eventsOf log) :
    f ∈ w.shared.store.eventsOf log := by
  obtain ⟨t, ht, -⟩ := h.orderly.rows
  rcases SharedStore.mem_eventsOf_step h.orderly.guarded ht (h.orderly.sound hstart ht) hlog hstored
    with hstored | hcommits
  · exact hstored
  · exact absurd ((h.orderly.newest_commits hcommits).2 e he) (Nat.not_lt_of_le hf)

theorem Follows.stored_of_run (hstart : start.Sound) {e : Event} : ∀ (moments : List (Moment Nat))
    {new : List Event} {w : Observed Tail}, w.Follows start origin past new → e ∈ past ++ new →
      (w.run moments).shared.store.generator.InRange →
        e ∈ (w.run moments).shared.store.eventsOf w.observer.log →
          e ∈ w.shared.store.eventsOf w.observer.log := by
  intro moments
  induction moments with
  | nil => intro new w _ _ _ hstored; exact hstored
  | cons moment rest ih =>
    intro new w h he hrange hstored
    cases moment with
    | step client draw =>
      have hstep := h.step hstart client draw (inRange_of_run rest hrange)
      have he' : e ∈ past ++ (new ++ w.shared.commits client) := by
        rw [← List.append_assoc]
        exact List.mem_append_left _ he
      exact h.stored_of_step hstart h.valid he (Nat.le_refl _) (ih hstep he' hrange hstored)
    | look limit =>
      have hlook := ih (h.look hstart limit) he hrange
      rw [log_act] at hlook
      exact hlook hstored

/-- A step of another client makes no more events pending. -/
theorem Follows.length_pending_step (h : w.Follows start origin past new) (hstart : start.Sound)
    {client : Nat} {draw : Draw} (hrange : (w.shared.step client draw).store.generator.InRange)
    {e : Event} (he : e ∈ past ++ new) :
    ((w.act (.step client draw)).pending e).length ≤ (w.pending e).length := by
  refine List.Nodup.length_le_of_subset ((h.step hstart client draw hrange).nodup_pending hstart e) ?_
  intro f hf
  obtain ⟨hstored, hahead, hle⟩ := mem_pending.1 hf
  exact mem_pending.2 ⟨h.stored_of_step hstart h.valid he hle hstored, hahead, hle⟩

/-- A read that does not yet reach an event makes fewer events pending. -/
theorem Follows.length_pending_look (h : w.Follows start origin past new) (hstart : start.Sound)
    {limit : Nat} (hlimit : 0 < limit) {e : Event}
    (hstored : e ∈ w.shared.store.eventsOf w.observer.log) (hahead : ∀ i ∈ w.observer.position, i < e.id)
    (hreceived : e ∉ (w.act (.look limit)).observer.received) :
    ((w.act (.look limit)).pending e).length < (w.pending e).length := by
  have hpairwise := h.pairwise_eventsOf hstart
  have hact := h.act_look hstart limit
  have hnow : e ∉ (w.observer.query limit).answer (w.shared.store.eventsOf w.observer.log) := by
    rw [hact] at hreceived
    exact fun he => hreceived (List.mem_append_right _ he)
  -- the read is full, so it finds an event before `e`
  have hlength :
      ((w.observer.query limit).answer (w.shared.store.eventsOf w.observer.log)).length = limit :=
    Page.length_of_notMem_cut (Tail.mem_select hstored hahead) hnow
  obtain ⟨f, hf⟩ := List.exists_mem_of_length_pos (hlength ▸ hlimit)
  have hfe := Tail.lt_of_notMem_answer hpairwise hstored hahead hnow f hf
  have hmem : f ∈ w.pending e :=
    mem_pending.2 ⟨(Tail.mem_answer hf).1, (Tail.mem_answer hf).2, Nat.le_of_lt hfe⟩
  have hnot : f ∉ (w.act (.look limit)).pending e := by
    intro hf'
    obtain ⟨i, hi, hle⟩ :=
      Tail.le_position_take (w := w.observer) (Tail.pairwise_answer hpairwise limit) hf
    have hlt := (mem_pending.1 hf').2.1
    rw [hact] at hlt
    exact Nat.not_lt_of_le hle (hlt i hi)
  have hnodup := (h.look hstart limit).nodup_pending hstart e
  refine List.Nodup.length_le_of_subset (List.nodup_cons.2 ⟨hnot, hnodup⟩) ?_
  intro g hg
  rcases List.mem_cons.1 hg with rfl | hg
  · exact hmem
  · -- what lies ahead after the read lay ahead before it
    obtain ⟨hstoredg, haheadg, hle⟩ := mem_pending.1 hg
    rw [hact] at hstoredg haheadg
    refine mem_pending.2 ⟨hstoredg, fun i hi => ?_, hle⟩
    obtain ⟨j, hj, hfj⟩ :=
      Tail.le_position_take (w := w.observer) (Tail.pairwise_answer hpairwise limit) hf
    exact Nat.lt_trans ((Tail.mem_answer hf).2 i hi) (Nat.lt_of_le_of_lt hfj (haheadg j hj))

theorem Follows.received_act (h : w.Follows start origin past new) (hstart : start.Sound)
    (moment : Moment Nat) : ∀ e ∈ w.observer.received, e ∈ (w.act moment).observer.received := by
  intro e he
  cases moment with
  | step client draw => exact he
  | look limit =>
    rw [h.act_look hstart]
    exact List.mem_append_left _ he

theorem Follows.received_run (hstart : start.Sound) {e : Event} : ∀ (moments : List (Moment Nat))
    {new : List Event} {w : Observed Tail}, w.Follows start origin past new →
      (w.run moments).shared.store.generator.InRange → e ∈ w.observer.received →
        e ∈ (w.run moments).observer.received := by
  intro moments
  induction moments with
  | nil => intro new w _ _ he; exact he
  | cons moment rest ih =>
    intro new w h hrange he
    have hrange' := inRange_of_run rest hrange
    exact ih (h.run hstart [moment] hrange') hrange (h.received_act hstart moment e he)

/-- With each read fewer events are pending, as long as the last of them is not received. -/
theorem Follows.length_pending_run (hstart : start.Sound) {e : Event}
    (horigin : ∀ i ∈ origin, i < e.id) {log : String} (hbelow : ∀ f ∈ start.eventsOf log, f.id < e.id) :
    ∀ (moments : List (Moment Nat)) {new : List Event} {w : Observed Tail},
      w.Follows start origin past new → w.observer.log = log → e ∈ new →
        (∀ n ∈ Moment.aims moments, 0 < n) →
          (w.run moments).shared.store.generator.InRange →
            e ∈ (w.run moments).shared.store.eventsOf log → e ∉ (w.run moments).observer.received →
              ((w.run moments).pending e).length + (Moment.aims moments).length ≤
                (w.pending e).length := by
  intro moments
  induction moments with
  | nil => intro new w _ _ _ _ _ _ _; exact Nat.le_refl _
  | cons moment rest ih =>
    intro new w h hlog he hlimits hrange hstored hreceived
    subst hlog
    have hrange' := inRange_of_run rest hrange
    have hact := h.run hstart [moment] hrange'
    have hreceived' : e ∉ (w.act moment).observer.received :=
      fun he' => hreceived (hact.received_run hstart rest hrange he')
    have hnew := List.mem_append_left (w.appended [moment]) he
    cases moment with
    | step client draw =>
      have hrest := ih hact (log_run _ _) hnew hlimits hrange hstored hreceived
      exact Nat.le_trans hrest (h.length_pending_step hstart hrange' (List.mem_append_right _ he))
    | look limit =>
      have hpositive : ∀ n ∈ Moment.aims rest, 0 < n :=
        fun n hn => hlimits n (List.mem_cons_of_mem _ hn)
      have hrest := ih hact (log_run _ _) hnew hpositive hrange hstored hreceived
      have hbefore := Follows.stored_of_run hstart (.look limit :: rest) h
        (List.mem_append_right _ he) hrange hstored
      have hahead := h.ahead e he horigin hbelow hbefore
        fun he' => hreceived' (h.received_act hstart _ e he')
      have hlook := h.length_pending_look hstart (hlimits limit List.mem_cons_self) hbefore hahead
        hreceived'
      exact Nat.le_trans (Nat.succ_le_succ hrest) hlook

/-- An event that stays stored is received when the log has been read as often as it holds events. -/
theorem Follows.received_of_reads (h : w.Follows start origin past new) (hstart : start.Sound)
    {e : Event} (he : e ∈ new) (horigin : ∀ i ∈ origin, i < e.id)
    (hbelow : ∀ f ∈ start.eventsOf w.observer.log, f.id < e.id) {later : List (Moment Nat)}
    (hlimits : ∀ n ∈ Moment.aims later, 0 < n)
    (hrange : (w.run later).shared.store.generator.InRange)
    (hoften : (w.shared.store.eventsOf w.observer.log).length ≤ (Moment.aims later).length)
    (hstored : e ∈ (w.run later).shared.store.eventsOf w.observer.log) :
    e ∈ (w.run later).observer.received := by
  by_cases hreceived : e ∈ (w.run later).observer.received
  · exact hreceived
  · have hlater := h.run hstart later hrange
    have hlog : (w.run later).observer.log = w.observer.log := log_run later w
    have hbound := Follows.length_pending_run hstart horigin hbelow later h rfl he hlimits hrange
      hstored hreceived
    have hfilter : (w.pending e).length ≤ (w.shared.store.eventsOf w.observer.log).length :=
      List.length_filter_le _ _
    rw [← hlog] at hstored hbelow
    have hahead := hlater.ahead e (List.mem_append_left _ he) horigin hbelow hstored hreceived
    have hpos := List.length_pos_of_mem (mem_pending.2 ⟨hstored, hahead, Nat.le_refl e.id.value⟩)
    omega

end Follows

/-! ### The main result -/

/-- **Events are committed in the order of their identifiers, and whoever follows a log receives them so.**

The clients of a store that has just been opened take the steps `before`; then a client begins to follow a log, and
steps and reads come in any order.  An event that is committed from now on has a greater identifier than all that
the store has minted and the table shows, and no insertion takes a key that the store has minted.  What is
received is in order, and it holds the new events as they have been committed.  A new event that is above the
place where the client has started, and above all that an earlier store has left in the log, is never passed
by: as long as it is stored, it is received or ahead, and received when the log has been read often enough. -/
theorem receives_in_commit_order {s : SharedStore} {start : Table} (hfresh : s.Fresh start)
    (hstart : start.Sound) (before : List (Nat × Draw)) (tail : Tail)
    (hlog : LogName.Valid tail.log) (hnone : tail.received = []) (moments later : List (Moment Nat))
    (hlimits : ∀ n ∈ Moment.aims later, 0 < n)
    (hrange : (((⟨s.run before, tail⟩ : Observed Tail).run moments).run
      later).shared.store.generator.InRange) :
    let w : Observed Tail := ⟨s.run before, tail⟩
    let now := w.run moments
    let new := w.appended moments
    (∀ e ∈ new, ∀ e' ∈ s.appended before, e'.id < e.id) ∧
    (∀ log, LogName.Valid log → ∀ e ∈ (s.run before).store.eventsOf log,
      e ∈ start.eventsOf log ∨ e ∈ s.appended before) ∧
    (∀ (client : Nat) (log : String) (value : Bytes) (id : EventId) (draft : Draft),
      (s.run before).clients[client]? = some (.minted log value id draft) →
        (∀ e ∈ s.appended before, Entry.key e.log e.id ≠ Entry.key log id) ∧
          ∀ r ∈ draft.table.entries, r.1 = Entry.key log id → r ∈ start.entries) ∧
    now.observer.received.Pairwise (fun a b => a.id < b.id) ∧
    now.observer.received.filter (fun e => decide (e ∈ new)) =
      new.filter (fun e => decide (e ∈ now.observer.received)) ∧
    ∀ e ∈ new, (∀ i ∈ tail.position, i < e.id) → (∀ f ∈ start.eventsOf tail.log, f.id < e.id) →
      (e ∈ now.shared.store.eventsOf tail.log →
        e ∈ now.observer.received ∨ ∀ i ∈ now.observer.position, i < e.id) ∧
      ((now.shared.store.eventsOf tail.log).length ≤ (Moment.aims later).length →
        e ∈ (now.run later).shared.store.eventsOf tail.log → e ∈ (now.run later).observer.received) := by
  intro w now new
  have hrange₁ : now.shared.store.generator.InRange := inRange_of_run later hrange
  have hrange₀ : w.shared.store.generator.InRange := inRange_of_run moments hrange₁
  have hbefore := SharedStore.orderly_run before hfresh.orderly hrange₀
  rw [List.nil_append] at hbefore
  have hw : w.Follows start tail.position (s.appended before) [] := by
    refine ⟨?_, hlog, ?_, ?_, fun i hi => Or.inl hi, ?_, nofun⟩
    · rw [List.append_nil]
      exact hbefore
    · rw [show w.observer.received = [] from hnone]
      exact .nil
    · rw [show w.observer.received = [] from hnone]
      exact nofun
    · rw [show w.observer.received = [] from hnone]
      exact nofun
  have hnow : now.Follows start tail.position (s.appended before) new := hw.run hstart moments hrange₁
  have hnowlog : now.observer.log = tail.log := log_run moments w
  refine ⟨?_, ?_, ?_, hnow.ascending, ?_, ?_⟩
  · intro e he e' he'
    exact (List.pairwise_append.1 hnow.orderly.ascending).2.2 e' he' e he
  · intro log hlog' e he
    exact hbefore.mem_eventsOf hstart hlog' he
  · exact fun client log value id draft hminted => hbefore.insert_fresh hminted
  · -- both lists ascend
    have hnew := (List.pairwise_append.1 hnow.orderly.ascending).2.1
    refine eq_of_ascending (hnow.ascending.sublist List.filter_sublist)
      (hnew.sublist List.filter_sublist) fun e => ?_
    rw [List.mem_filter, List.mem_filter, decide_eq_true_iff, decide_eq_true_iff]
    exact And.comm
  · intro e he hposition hbelow
    rw [← hnowlog] at hbelow ⊢
    refine ⟨fun hstored => ?_, fun hoften hstored => ?_⟩
    · by_cases hreceived : e ∈ now.observer.received
      · exact Or.inl hreceived
      · exact Or.inr (hnow.ahead e he hposition hbelow hstored hreceived)
    · exact hnow.received_of_reads hstart he hposition hbelow hlimits hrange hoften hstored

/-- An event that is added to an empty log is received by the next read. -/
theorem receives_added_event :
    let draw : Draw := ⟨.ofNanos 1709294400000000000, .ok ⟨7, by decide⟩⟩
    let s : SharedStore :=
      { store := { settings := {}, table? := some .empty }
        clients := [.ready (.add "a" (.ofNanos 5) [104])] }
    let w : Observed Tail := ⟨s, { log := "a", position := none }⟩
    let moments : List (Moment Nat) := List.replicate 5 (.step 0 draw)
    let now := w.run moments
    w.appended moments ≠ [] ∧
      ∀ e ∈ w.appended moments, e ∈ (now.run [.look 10]).observer.received := by
  intro draw s w moments now
  have hfresh : s.Fresh .empty := by
    refine ⟨rfl, rfl, rfl, fun stage hstage => ?_⟩
    exact ⟨_, List.mem_singleton.1 hstage⟩
  have hmain := receives_in_commit_order hfresh Table.sound_empty [] w.observer (by decide) rfl
    moments [.look 10] (by decide) (by decide)
  refine ⟨by decide, fun e he => ?_⟩
  have hstored : ∀ e ∈ w.appended moments,
      e ∈ (now.run [.look 10]).shared.store.eventsOf "a" := by decide
  exact (hmain.2.2.2.2.2 e he nofun (by simp [w])).2 (by decide) (hstored e he)

/-- **A new event may be passed by where an earlier store has left a greater identifier.**  The client has
received the old event and stands behind it; the new event comes before it and is never received. -/
theorem passes_by_below_old_event :
    let draw : Draw := ⟨.ofNanos 1709294400000000000, .ok ⟨7, by decide⟩⟩
    let start : Table := .ofEntries [(Entry.key "a" .greatest, Entry.payload 5 [])]
    let s : SharedStore :=
      { store := { settings := {}, table? := some start }
        clients := [.ready (.add "a" (.ofNanos 5) [104])] }
    let w : Observed Tail := ⟨s, { log := "a", position := none }⟩
    let moments : List (Moment Nat) :=
      .look 10 :: List.replicate 5 (.step 0 draw) ++ [.look 10]
    s.Fresh start ∧ start.Sound ∧ (w.run moments).shared.store.generator.InRange ∧
      ∃ e ∈ w.appended moments, e ∈ (w.run moments).shared.store.eventsOf "a" ∧
        e ∉ (w.run moments).observer.received ∧ ∃ i ∈ (w.run moments).observer.position, e.id < i := by
  intro draw start s w moments
  refine ⟨⟨rfl, rfl, rfl, fun stage hstage => ?_⟩, ?_, by decide, by decide⟩
  · exact ⟨_, List.mem_singleton.1 hstage⟩
  · have hentries : start.entries = [(Entry.key "a" .greatest, Entry.payload 5 [])] := by decide
    intro r hr
    rw [hentries, List.mem_singleton] at hr
    subst hr
    have hnanos : (Instant.ofNanos 5).nanos? = some 5 := by decide
    have hname : LogName.Valid "a" := by decide
    exact ⟨_, Entry.isEntry_key hname .greatest hnanos []⟩

end Observed

end Logbook
