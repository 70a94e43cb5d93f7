import Logbook.Proofs.Inbox

/-!
# Accounts of an inbox

A request is served once or not at all, its client is told which, and nobody waits for ever at an inbox that has
been closed.

## Main definitions

* `Inbox.Ends` — how the keeper comes to its end.
* `Inbox.Accounts` — what has become of the requests of a run.

## Main results

* `Inbox.Kept.refused_of_isClosed`, `Inbox.Kept.refused_of_waiting` — a closed inbox refuses everybody.
* `Inbox.Ends.after`, `Inbox.Ends.run` — the keeper leaves because of the first failure.
* `Inbox.run_accounts` — **the account of a run.**
-/

namespace Logbook

/-- The failure because of which the keeper leaves. -/
def Keeper.failure : Keeper → Option String
  | .closing failure | .left failure => failure
  | _ => none

/-- Whether the keeper has come to its end. -/
def Keeper.isGone : Keeper → Bool
  | .left _ | .dropped => true
  | _ => false

/-- Whether the keeper takes a turn. -/
def Inbox.Move.isTurn {σ α : Type} : Inbox.Move σ α → Bool
  | .turn => true
  | _ => false

namespace Inbox

variable {σ α : Type}

/-! ### A closed inbox -/

section Closed

variable {state : σ} {capacity : Nat} {sent : List (Request σ α)} {accepted served : List (Nat × Request σ α)}
variable {b : Inbox σ α}

theorem refusal_of_isClosed (hclosed : b.isClosed = true) : b.refusal = some .cancelled := if_pos hclosed

/-- A closed inbox stays closed. -/
theorem isClosed_after (hclosed : b.isClosed = true) (m : Move σ α) : (b.after m).isClosed = true := by
  cases m with
  | send r => rw [Inbox.after, send, refusal_of_isClosed hclosed]; exact hclosed
  | turn =>
    rw [Inbox.after, Inbox.turn]
    split
    case h_4 =>
      split
      · rfl
      · rw [isClosed_refuse, hclosed]
    case h_5 => exact hclosed
    case h_6 => exact hclosed
    all_goals
      rename_i hkeeper
      rw [isClosed, hkeeper] at hclosed
      cases hclosed
  | drop => rw [Inbox.after, drop, if_pos hclosed]; exact hclosed
  | _ => exact hclosed

/-- Of a closed inbox nothing is served. -/
theorem serves_of_isClosed (hclosed : b.isClosed = true) (m : Move σ α) : b.serves m = [] := by
  cases m with
  | turn =>
    rw [serves]
    split
    case h_1 hkeeper =>
      rw [isClosed, hkeeper] at hclosed
      cases hclosed
    case h_2 => rfl
  | _ => rfl

theorem collect_serves_of_isClosed (hclosed : b.isClosed = true) (ms : List (Move σ α)) :
    collect serves b ms = [] := by
  induction ms generalizing b with
  | nil => rfl
  | cons m ms ih => rw [collect, serves_of_isClosed hclosed, ih (isClosed_after hclosed m)]; rfl

/-- Whoever comes to a closed inbox is told so. -/
theorem Kept.refused_of_isClosed (h : Kept state capacity sent accepted served b) (hclosed : b.isClosed = true)
    (ms : List (Move σ α)) {n : Nat} (hn : b.outcomes.length ≤ n) (hlt : n < (b.run ms).outcomes.length) :
    (b.run ms).outcomes[n]? = some (.refused .cancelled) := by
  induction ms generalizing sent accepted served b with
  | nil => exact absurd hlt (Nat.not_lt.2 hn)
  | cons m ms ih =>
    by_cases hafter : (b.after m).outcomes.length ≤ n
    · exact ih (h.after m) (isClosed_after hclosed m) hafter hlt
    · have hlength := (h.after m).numbered
      cases m with
      | send r =>
        refine (h.after (.send r)).settled_run ms n _ (fun ho => nomatch ho) ?_
        rw [Inbox.after, send, refusal_of_isClosed hclosed] at hafter ⊢
        simp only [List.length_append, List.length_singleton] at hafter
        exact getElem?_concat_eq_some_iff.2 (Or.inr ⟨by omega, rfl⟩)
      | _ =>
        simp only [sends, List.append_nil] at hlength
        rw [hlength, ← h.numbered] at hafter
        exact absurd hn hafter

/-- Only the keeper's turns shorten the queue of a closed inbox. -/
theorem queue_after_of_isClosed (hclosed : b.isClosed = true) {m : Move σ α} (hm : m.isTurn = false) :
    (b.after m).queue = b.queue ∧ (b.after m).keeper = b.keeper := by
  cases m with
  | send r => rw [Inbox.after, send, refusal_of_isClosed hclosed]; exact ⟨rfl, rfl⟩
  | turn => cases hm
  | drop => rw [Inbox.after, drop, if_pos hclosed]; exact ⟨rfl, rfl⟩
  | _ => exact ⟨rfl, rfl⟩

/-- While it closes the inbox, the keeper refuses one request after another. -/
theorem after_turn_of_closing {failure : Option String} {s : Nat × Request σ α}
    {rest : List (Nat × Request σ α)} (hkeeper : b.keeper = .closing failure) (hqueue : b.queue = s :: rest) :
    b.after .turn = { b with queue := rest, outcomes := b.outcomes.set s.1 (.refused .cancelled) } := by
  cases b
  cases hkeeper
  cases hqueue
  rfl

/-- Whoever waits in a closed inbox waits for a keeper that is still at it. -/
theorem exists_closing (hclosed : b.isClosed = true) (hgone : b.keeper.isGone = true → b.queue = [])
    (hqueue : b.queue ≠ []) : ∃ failure, b.keeper = .closing failure := by
  cases hkeeper : b.keeper with
  | closing failure => exact ⟨failure, rfl⟩
  | serving next => rw [isClosed, hkeeper] at hclosed; cases hclosed
  | left failure => exact absurd (hgone (by rw [hkeeper]; rfl)) hqueue
  | dropped => exact absurd (hgone (by rw [hkeeper]; rfl)) hqueue

/-- Whoever waits when the inbox is closed is told so, once the keeper has taken as many turns as there are who
wait. -/
theorem Kept.refused_of_waiting (h : Kept state capacity sent accepted served b) (hclosed : b.isClosed = true)
    (hgone : b.keeper.isGone = true → b.queue = []) (ms : List (Move σ α))
    (hturns : b.queue.length ≤ ms.countP Move.isTurn) {n : Nat} (hn : n ∈ b.queue.map Prod.fst) :
    (b.run ms).outcomes[n]? = some (.refused .cancelled) := by
  induction ms generalizing sent accepted served b with
  | nil =>
    rw [List.eq_nil_of_length_eq_zero (Nat.le_zero.1 hturns)] at hn
    cases hn
  | cons m ms ih =>
    have hclosed' := isClosed_after hclosed m
    cases hm : m.isTurn with
    | false =>
      obtain ⟨hqueue, hkeeper⟩ := queue_after_of_isClosed hclosed hm
      rw [List.countP_cons_of_neg (by rw [hm]; exact Bool.false_ne_true), ← hqueue] at hturns
      rw [← hqueue] at hn
      exact ih (h.after m) hclosed' (fun hg => by rw [hkeeper] at hg; rw [hqueue, hgone hg]) hturns hn
    | true =>
      rw [List.countP_cons_of_pos hm] at hturns
      have hturn : m = .turn := by
        cases m with
        | turn => rfl
        | _ => cases hm
      subst hturn
      have hne : b.queue ≠ [] := fun hnil => by rw [hnil] at hn; cases hn
      obtain ⟨failure, hkeeper⟩ := exists_closing hclosed hgone hne
      obtain ⟨s, rest, hqueue⟩ := List.exists_cons_of_ne_nil hne
      have hafter := after_turn_of_closing hkeeper hqueue
      rw [hqueue, List.map_cons, List.mem_cons] at hn
      rw [hqueue, List.length_cons] at hturns
      by_cases hs : n = s.1
      · -- it is refused now, and that stays
        have hnumber : s.1 < b.outcomes.length :=
          h.lt_length_of_mem_queue (by rw [hqueue]; exact List.mem_cons_self)
        refine (h.after .turn).settled_run ms n _ (fun ho => nomatch ho) ?_
        rw [hafter, hs]
        exact List.getElem?_set_self hnumber
      · refine ih (h.after .turn) hclosed' ?_ ?_ ?_
        · rw [hafter, hkeeper]
          exact fun hg => nomatch hg
        · rw [hafter]
          exact Nat.le_of_succ_le_succ hturns
        · rw [hafter]
          exact hn.resolve_left hs

end Closed

/-! ### The end of the keeper -/

section End

variable {b : Inbox σ α}

theorem repeat_refuse (b : Inbox σ α) (n : Nat) :
    (n.repeat refuse b).keeper = b.keeper ∧ (n.repeat refuse b).failure = b.failure ∧
      (n.repeat refuse b).queue = b.queue.drop n := by
  induction n with
  | zero => exact ⟨rfl, rfl, rfl⟩
  | succ n ih =>
    obtain ⟨hkeeper, hfailure, hqueue⟩ := ih
    obtain ⟨hkeeper', hfailure', hqueue'⟩ := refuse_frame (n.repeat refuse b)
    refine ⟨hkeeper'.trans hkeeper, hfailure'.trans hfailure, hqueue'.trans ?_⟩
    rw [hqueue, List.tail_drop]

/-- Only a request that reports a failure changes anything but the books. -/
theorem serve_frame (b : Inbox σ α) (number : Nat) (r : Request σ α) :
    (b.serve number r).keeper = b.keeper ∧ (b.serve number r).failure = b.failure.or r.failure := by
  unfold serve Request.failure
  cases r.signal with
  | none => exact ⟨rfl, (Option.or_none ..).symm⟩
  | some signal =>
    cases signal with
    | cancel => exact ⟨rfl, (Option.or_none ..).symm⟩
    | fail reason => exact ⟨rfl, rfl⟩

/-- What holds of the keeper when the failures `reported` have been reported. -/
structure Ends (reported : List String) (b : Inbox σ α) : Prop where
  /-- The first failure is kept. -/
  first : b.failure = reported.head?
  /-- The keeper leaves because of that. -/
  failure : ∀ reason, b.keeper.failure = some reason → b.failure = some reason
  /-- It comes to its end when nobody waits. -/
  gone : b.keeper.isGone = true → b.queue = []

theorem ends_new (state : σ) (capacity : Nat) : Ends [] (new state capacity : Inbox σ α) where
  first := rfl
  failure := fun _ h => nomatch h
  gone := fun _ => rfl

variable {reported : List String}

theorem Ends.of_busy (hfirst : b.failure = reported.head?) (hfailure : b.keeper.failure = none)
    (hgone : b.keeper.isGone = false) : Ends reported b where
  first := hfirst
  failure := fun _ hr => by rw [hfailure] at hr; cases hr
  gone := fun hg => by rw [hgone] at hg; cases hg

theorem Ends.turn (h : Ends reported b) : Ends (reported ++ b.reports .turn) b.turn := by
  have hfirst := h.first
  rw [Inbox.turn, reports_turn, serves]
  cases hkeeper : b.keeper with
  | serving next =>
    cases next with
    | cancellation =>
      simp only [List.filterMap_nil, List.append_nil]
      split
      · exact .of_busy hfirst rfl rfl
      · exact .of_busy hfirst rfl rfl
    | failure =>
      simp only [List.filterMap_nil, List.append_nil]
      split
      case h_1 reason hreason =>
        refine ⟨hfirst, fun _ hr => hreason.trans hr, fun hg => ?_⟩
        cases hg
      case h_2 => exact .of_busy hfirst rfl rfl
    | request =>
      cases hqueue : b.queue with
      | nil =>
        simp only [List.take_nil, List.filterMap_nil, List.append_nil]
        split
        · exact .of_busy hfirst rfl rfl
        · exact .of_busy hfirst rfl rfl
      | cons s rest =>
        obtain ⟨hserving, hor⟩ := serve_frame { b with queue := rest, keeper := .serving .cancellation } s.1 s.2
        refine .of_busy ?_ (by rw [hserving]; rfl) (by rw [hserving]; rfl)
        rw [hor, hfirst, List.head?_append]
        cases hr : s.2.failure with
        | none => simp [hr]
        | some reason => simp [hr]
  | closing failure =>
    simp only [List.filterMap_nil, List.append_nil]
    split
    case isTrue hempty =>
      exact ⟨hfirst, fun _ hr => h.failure _ (by rw [hkeeper]; exact hr), fun _ => List.isEmpty_iff.1 hempty⟩
    case isFalse =>
      obtain ⟨hkeeper', hfailure', -⟩ := refuse_frame b
      refine ⟨hfailure'.trans hfirst, fun _ hr => ?_, fun hg => ?_⟩
      · rw [hkeeper'] at hr
        rw [hfailure']
        exact h.failure _ hr
      · rw [hkeeper', hkeeper] at hg
        cases hg
  | left failure =>
    simp only [List.filterMap_nil, List.append_nil]
    exact h
  | dropped =>
    simp only [List.filterMap_nil, List.append_nil]
    exact h

theorem Ends.after (h : Ends reported b) (m : Move σ α) : Ends (reported ++ b.reports m) (b.after m) := by
  cases m with
  | send r =>
    simp only [reports, serves, List.filterMap_nil, List.append_nil, Inbox.after, send]
    split
    case h_1 => exact ⟨h.first, h.failure, h.gone⟩
    case h_2 hrefusal =>
      refine ⟨h.first, h.failure, fun hg => ?_⟩
      have hclosed : b.isClosed = true := by
        rw [isClosed]
        cases hkeeper : b.keeper with
        | serving next => rw [hkeeper] at hg; cases hg
        | _ => rfl
      rw [refusal_of_isClosed hclosed] at hrefusal
      cases hrefusal
  | fail reason =>
    refine ⟨?_, fun r hr => ?_, h.gone⟩
    · rw [reports, List.head?_append, ← h.first]
      rfl
    · rw [Inbox.after, fail, h.failure r hr]
      rfl
  | turn => exact h.turn
  | drop =>
    simp only [reports, serves, List.filterMap_nil, List.append_nil, Inbox.after, drop]
    split
    · exact h
    · obtain ⟨hkeeper, hfailure, hqueue⟩ := repeat_refuse { b with keeper := .dropped } b.queue.length
      refine ⟨hfailure.trans h.first, fun r hr => ?_, fun _ => hqueue.trans (List.drop_length ..)⟩
      rw [hkeeper] at hr
      cases hr
  | _ =>
    simp only [reports, serves, List.filterMap_nil, List.append_nil]
    exact ⟨h.first, h.failure, h.gone⟩

theorem Ends.run (h : Ends reported b) (ms : List (Move σ α)) :
    Ends (reported ++ collect reports b ms) (b.run ms) := by
  induction ms generalizing reported b with
  | nil => simpa only [collect, List.append_nil, run_nil] using h
  | cons m ms ih => simpa only [collect, List.append_assoc, run_cons] using ih (h.after m)

end End

/-! ### The account -/

/-- What has become of the requests of a run, which starts with an empty inbox.  Requests go by the numbers under
which they have been left. -/
structure Accounts (state : σ) (capacity : Nat) (moves : List (Move σ α)) : Prop where
  /-- No more requests wait than the inbox has room for, which is for one at least. -/
  bounded : ((new state capacity).run moves).queue.length ≤ max capacity 1
  /-- Each request is accounted for. -/
  numbered : ((new state capacity).run moves).outcomes.length = ((new state capacity).collect sends moves).length
  /-- A request that finds room has been left. -/
  known : ∀ r ∈ (new state capacity).collect accepts moves,
    ((new state capacity).collect sends moves)[r.1]? = some r.2
  /-- Requests are served in the order in which they have found room. -/
  order : (new state capacity).collect serves moves <+: (new state capacity).collect accepts moves
  /-- No request is served twice. -/
  once : (((new state capacity).collect serves moves).map Prod.fst).Nodup
  /-- The requests that have been served, one after another, have made the state. -/
  result : ((new state capacity).run moves).state = applied state ((new state capacity).collect serves moves)
  /-- A client is told the answer to its request when it has been served, and then only. -/
  answered : ∀ (n : Nat) v, ((new state capacity).run moves).outcomes[n]? = some (.served v) ↔
    (n, v) ∈ answers state ((new state capacity).collect serves moves)
  /-- What a client has been told stays. -/
  settled : ∀ more, ((new state capacity).run moves).Settled ((new state capacity).run (moves ++ more))
  /-- A request that has been refused is not served, before or afterwards. -/
  refused : ∀ (n : Nat) error, ((new state capacity).run moves).outcomes[n]? = some (.refused error) →
    ∀ more, n ∉ ((new state capacity).collect serves (moves ++ more)).map Prod.fst
  /-- Once the inbox is closed, nothing is served and the state stays. -/
  closed : ((new state capacity).run moves).isClosed = true → ∀ more,
    (new state capacity).collect serves (moves ++ more) = (new state capacity).collect serves moves ∧
      ((new state capacity).run (moves ++ more)).state = ((new state capacity).run moves).state
  /-- Whoever comes later is told so. -/
  later : ((new state capacity).run moves).isClosed = true → ∀ more (n : Nat),
    ((new state capacity).run moves).outcomes.length ≤ n →
      n < ((new state capacity).run (moves ++ more)).outcomes.length →
        ((new state capacity).run (moves ++ more)).outcomes[n]? = some (.refused .cancelled)
  /-- Whoever waits is told so, once the keeper has taken as many turns as there are who wait. -/
  queued : ((new state capacity).run moves).isClosed = true → ∀ n : Nat,
    ((new state capacity).run moves).outcomes[n]? = some .waiting → ∀ more,
      ((new state capacity).run moves).queue.length ≤ more.countP Move.isTurn →
        ((new state capacity).run (moves ++ more)).outcomes[n]? = some (.refused .cancelled)
  /-- When the keeper has come to its end, nobody waits. -/
  gone : ((new state capacity).run moves).keeper.isGone = true →
    ∀ n : Nat, ((new state capacity).run moves).outcomes[n]? ≠ some .waiting
  /-- The failure because of which the keeper has left is the first that has been reported. -/
  failure : ∀ reason, ((new state capacity).run moves).keeper = .left (some reason) →
    ((new state capacity).collect reports moves).head? = some reason

/-- **The account of a run.** -/
theorem run_accounts (state : σ) (capacity : Nat) (moves : List (Move σ α)) :
    Accounts state capacity moves := by
  have hkept (ms : List (Move σ α)) : Kept state (max capacity 1) (collect sends (new state capacity) ms)
      (collect accepts (new state capacity) ms) (collect serves (new state capacity) ms)
      ((new state capacity).run ms) := (kept_new state capacity).run ms
  have hends : Ends (collect reports (new state capacity) moves) ((new state capacity).run moves) :=
    (ends_new state capacity).run moves
  have h := hkept moves
  exact {
    bounded := Nat.le_trans h.bounded (Nat.le_of_eq h.room)
    numbered := h.numbered
    known := h.known
    order := h.prefix_accepted
    once := h.nodup_served
    result := h.result
    answered := h.answered
    settled := fun more => by rw [run_append]; exact h.settled_run more
    refused := fun n error hn more hserved => by
      rw [← map_fst_answers state] at hserved
      obtain ⟨⟨n', v⟩, hv, rfl⟩ := List.mem_map.1 hserved
      have hlater := ((hkept (moves ++ more)).answered n' v).2 hv
      rw [run_append] at hlater
      have hstays := h.settled_run more n' (.refused error) (fun ho => nomatch ho) hn
      rw [hstays] at hlater
      cases hlater
    closed := fun hclosed more => by
      have hsame : collect serves (new state capacity) (moves ++ more)
          = collect serves (new state capacity) moves := by
        rw [collect_append, collect_serves_of_isClosed hclosed, List.append_nil]
      exact ⟨hsame, by rw [(hkept (moves ++ more)).result, hsame, h.result]⟩
    later := fun hclosed more n hn hlt => by
      rw [run_append] at hlt ⊢
      exact h.refused_of_isClosed hclosed more hn hlt
    queued := fun hclosed n hn more hturns => by
      rw [run_append]
      exact h.refused_of_waiting hclosed hends.gone more hturns ((h.waiting n).1 hn)
    gone := fun hgone n hn => by
      have hmem := (h.waiting n).1 hn
      rw [hends.gone hgone] at hmem
      cases hmem
    failure := fun reason hkeeper => by
      rw [← hends.first]
      exact hends.failure reason (by rw [hkeeper]; rfl) }

-- the first request is served, the second cancels the inbox, the third finds it full and the fourth comes too late
example :
    let push (x : Nat) : Request (List Nat) Nat := { act := fun s => (s.length, s ++ [x]) }
    let moves : List (Move (List Nat) Nat) :=
      [.send (push 1), .send { push 2 with signal := some .cancel }, .send (push 3), .turn, .turn, .turn,
        .send (push 4), .turn, .turn, .turn, .turn, .turn, .turn]
    let b := (new [] 2).run moves
    b.outcomes = [.served 0, .served 1, .refused .full, .refused .cancelled] ∧ b.state = [1, 2] ∧
      b.keeper = .left none := by decide

end Inbox

end Logbook
