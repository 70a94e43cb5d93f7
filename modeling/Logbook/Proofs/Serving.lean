import Logbook.Proofs.Account

/-!
# A keeper at work

A keeper that has not closed its inbox looks for three things in turn: whether it is cancelled, whether a failure has
been reported, and whether a request waits.  What others do meanwhile does not hold it up.  So it has looked for each of
them when it has taken three turns, and with each round it serves the request that has waited longest.  To be cancelled
and to hear of a failure cannot be undone, and whichever the keeper looks for first, it leaves then.

## Main definitions

* `Watch.next`, `Watch.turnsTo` — what the keeper looks for next, and how many turns it takes to have looked.
* `Inbox.Told` — whether the keeper is to leave.

## Main results

* `Inbox.closed_or_looks` — **within three turns a keeper looks for everything, unless it closes the inbox.**
* `Inbox.isClosed_of_told`, `Inbox.isGone_of_isClosed`, `Inbox.isGone_of_told` — **what makes a keeper leave.**
* `Inbox.turn_of_request` — a keeper serves the request that has waited longest.
* `Inbox.Kept.closed_or_served`, `Inbox.run_serves` — **whoever waits is served in turn, or the inbox is closed.**
-/

namespace Logbook

namespace Watch

/-- What the keeper looks for after something. -/
def next : Watch → Watch
  | .cancellation => .failure
  | .failure => .request
  | .request => .cancellation

/-- The place of something in the round. -/
def place : Watch → Nat
  | .cancellation => 0
  | .failure => 1
  | .request => 2

/-- How many turns a keeper takes until it has looked for a goal. -/
def turnsTo (goal watch : Watch) : Nat := (goal.place + 3 - watch.place) % 3 + 1

theorem turnsTo_pos (goal watch : Watch) : 0 < turnsTo goal watch := Nat.succ_pos _

theorem turnsTo_le (goal watch : Watch) : turnsTo goal watch ≤ 3 := Nat.succ_le_of_lt (Nat.mod_lt _ (by decide))

/-- With each turn that does not look for the goal, the keeper comes closer to it. -/
theorem turnsTo_next {goal watch : Watch} (h : watch ≠ goal) : turnsTo goal watch = turnsTo goal watch.next + 1 := by
  cases goal <;> cases watch <;> first | rfl | exact absurd rfl h

end Watch

namespace Inbox

variable {σ α : Type} {b : Inbox σ α} {watch : Watch}

/-! ### Looking in turn -/

theorem queue_serve (b : Inbox σ α) (number : Nat) (r : Request σ α) : (b.serve number r).queue = b.queue := by
  unfold serve
  cases r.signal with
  | none => rfl
  | some signal => cases signal <;> rfl

/-- A keeper at work closes the inbox, or looks for the next thing in its next turn. -/
theorem closed_or_next (hkeeper : b.keeper = .serving watch) :
    b.turn.isClosed = true ∨ b.turn.keeper = .serving watch.next := by
  rw [turn, hkeeper]
  cases watch with
  | cancellation =>
    dsimp only
    split
    · exact Or.inl rfl
    · exact Or.inr rfl
  | failure =>
    dsimp only
    split
    · exact Or.inl rfl
    · exact Or.inr rfl
  | request =>
    dsimp only
    split
    · exact Or.inr (serve_frame _ _ _).1
    · split
      · exact Or.inl rfl
      · exact Or.inr rfl

/-- An inbox whose keeper is dropped is closed. -/
theorem isClosed_drop (b : Inbox σ α) : b.drop.isClosed = true := by
  rw [drop]
  split
  · assumption
  · rw [isClosed, (repeat_refuse _ _).1]

/-- What others do does not hold the keeper up, unless it is dropped. -/
theorem closed_or_same {m : Move σ α} (hm : m.isTurn = false) :
    (b.after m).isClosed = true ∨ (b.after m).keeper = b.keeper := by
  cases m with
  | turn => cases hm
  | send r =>
    rw [Inbox.after, send]
    split
    · exact Or.inr rfl
    · exact Or.inr rfl
  | drop => exact Or.inl b.isClosed_drop
  | _ => exact Or.inr rfl

theorem isClosed_run (hclosed : b.isClosed = true) (ms : List (Move σ α)) : (b.run ms).isClosed = true := by
  induction ms generalizing b with
  | nil => exact hclosed
  | cons m ms ih => exact ih (isClosed_after hclosed m)

theorem eq_turn_of_isTurn {m : Move σ α} (hm : m.isTurn = true) : m = .turn := by
  cases m with
  | turn => rfl
  | _ => cases hm

/-- **Within three turns a keeper at work looks for everything, unless it closes the inbox.** -/
theorem closed_or_looks (goal : Watch) (hkeeper : b.keeper = .serving watch) (ms : List (Move σ α))
    (hturns : goal.turnsTo watch ≤ ms.countP Move.isTurn) :
    (b.run ms).isClosed = true ∨
      ∃ before later, ms = before ++ .turn :: later ∧ (b.run before).keeper = .serving goal := by
  induction ms generalizing b watch with
  | nil => exact absurd hturns (Nat.not_le.2 (goal.turnsTo_pos watch))
  | cons m ms ih =>
    -- a move that neither closes the inbox nor looks for the goal leaves the rest to be done
    have hgo (watch' : Watch) (hafter : (b.after m).keeper = .serving watch')
        (hrest : goal.turnsTo watch' ≤ ms.countP Move.isTurn) : (b.run (m :: ms)).isClosed = true ∨
          ∃ before later, m :: ms = before ++ .turn :: later ∧ (b.run before).keeper = .serving goal := by
      rcases ih hafter hrest with hclosed | ⟨before, later, rfl, hlooks⟩
      · exact Or.inl hclosed
      · exact Or.inr ⟨m :: before, later, rfl, hlooks⟩
    cases hm : m.isTurn with
    | false =>
      rw [List.countP_cons_of_neg (by rw [hm]; exact Bool.false_ne_true)] at hturns
      rcases closed_or_same hm with hclosed | hsame
      · exact Or.inl (isClosed_run hclosed ms)
      · exact hgo watch (hsame.trans hkeeper) hturns
    | true =>
      obtain rfl := eq_turn_of_isTurn hm
      by_cases hgoal : watch = goal
      · exact Or.inr ⟨[], ms, rfl, hgoal ▸ hkeeper⟩
      · rcases closed_or_next hkeeper with hclosed | hnext
        · exact Or.inl (isClosed_run hclosed ms)
        · rw [List.countP_cons_of_pos hm, Watch.turnsTo_next hgoal] at hturns
          exact hgo watch.next hnext (Nat.le_of_succ_le_succ hturns)

/-! ### What makes a keeper leave -/

/-- Whether the keeper is to leave as soon as it looks for something. -/
def Told (b : Inbox σ α) : Watch → Prop
  | .cancellation => b.cancelled = true
  | .failure => b.failure.isSome = true
  | .request => False

theorem told_serve {goal : Watch} (h : b.Told goal) (number : Nat) (r : Request σ α) :
    (b.serve number r).Told goal := by
  cases goal with
  | cancellation =>
    unfold serve
    cases r.signal with
    | none => exact h
    | some signal =>
      cases signal with
      | cancel => rfl
      | fail reason => exact h
  | failure =>
    show (b.serve number r).failure.isSome = true
    rw [(serve_frame b number r).2, Option.isSome_or, show b.failure.isSome = true from h, Bool.true_or]
  | request => exact h

theorem told_refuse {goal : Watch} (h : b.Told goal) : b.refuse.Told goal := by
  rw [refuse]
  split
  · cases goal <;> exact h
  · exact h

theorem told_repeat_refuse {goal : Watch} (h : b.Told goal) (n : Nat) : (n.repeat refuse b).Told goal := by
  induction n with
  | zero => exact h
  | succ n ih => exact told_refuse ih

theorem Told.congr {b' : Inbox σ α} {goal : Watch} (h : b.Told goal) (hcancelled : b'.cancelled = b.cancelled)
    (hfailure : b'.failure = b.failure) : b'.Told goal := by
  cases goal with
  | cancellation => exact hcancelled.trans h
  | failure => exact (congrArg Option.isSome hfailure).trans h
  | request => exact h

/-- What the keeper has been told cannot be taken back. -/
theorem told_after {goal : Watch} (h : b.Told goal) (m : Move σ α) : (b.after m).Told goal := by
  cases m with
  | send r =>
    rw [Inbox.after, send]
    split
    · exact h.congr rfl rfl
    · exact h.congr rfl rfl
  | fail reason =>
    cases goal with
    | failure =>
      show (b.failure.or (some reason)).isSome = true
      rw [Option.isSome_or, show b.failure.isSome = true from h, Bool.true_or]
    | _ => exact h
  | cancel =>
    cases goal with
    | cancellation => rfl
    | _ => exact h
  | clone => exact h.congr rfl rfl
  | release => exact h.congr rfl rfl
  | turn =>
    rw [Inbox.after, Inbox.turn]
    split
    case h_1 => split <;> exact h.congr rfl rfl
    case h_2 => split <;> exact h.congr rfl rfl
    case h_3 =>
      split
      · refine told_serve ?_ _ _
        exact h.congr rfl rfl
      · split <;> exact h.congr rfl rfl
    case h_4 =>
      split
      · exact h.congr rfl rfl
      · exact told_refuse h
    case h_5 => exact h
    case h_6 => exact h
  | drop =>
    rw [Inbox.after, drop]
    split
    · exact h
    · refine told_repeat_refuse ?_ _
      exact h.congr rfl rfl

theorem told_run {goal : Watch} (h : b.Told goal) (ms : List (Move σ α)) : (b.run ms).Told goal := by
  induction ms generalizing b with
  | nil => exact h
  | cons m ms ih => exact ih (told_after h m)

/-- A keeper that looks for what it has been told closes the inbox. -/
theorem isClosed_turn_of_told {goal : Watch} (h : b.Told goal) (hkeeper : b.keeper = .serving goal) :
    b.turn.isClosed = true := by
  rw [turn, hkeeper]
  cases goal with
  | cancellation =>
    exact (congrArg isClosed (if_pos h)).trans rfl
  | failure =>
    obtain ⟨reason, hreason⟩ := Option.isSome_iff_exists.1 h
    simp only [hreason]
    rfl
  | request => cases h

/-- **A keeper that has been told to leave has closed the inbox after three turns.** -/
theorem isClosed_of_told (goal : Watch) (h : b.Told goal) (ms : List (Move σ α))
    (hturns : 3 ≤ ms.countP Move.isTurn) : (b.run ms).isClosed = true := by
  cases hkeeper : b.keeper with
  | serving watch =>
    rcases closed_or_looks goal hkeeper ms (Nat.le_trans (goal.turnsTo_le watch) hturns) with
      hclosed | ⟨before, later, rfl, hlooks⟩
    · exact hclosed
    · rw [run_append, run_cons]
      exact isClosed_run (isClosed_turn_of_told (told_run h before) hlooks) later
  | _ => exact isClosed_run (by rw [isClosed, hkeeper]) ms

theorem isClosed_of_isGone (hgone : b.keeper.isGone = true) : b.isClosed = true := by
  rw [isClosed]
  cases hkeeper : b.keeper with
  | serving watch => rw [hkeeper] at hgone; cases hgone
  | _ => rfl

theorem isGone_after (hgone : b.keeper.isGone = true) (m : Move σ α) : (b.after m).keeper.isGone = true := by
  cases hm : m.isTurn with
  | false => rwa [(queue_after_of_isClosed (isClosed_of_isGone hgone) hm).2]
  | true =>
    obtain rfl := eq_turn_of_isTurn hm
    have hsame : b.turn = b := by
      rw [turn]
      cases hkeeper : b.keeper with
      | serving watch => rw [hkeeper] at hgone; cases hgone
      | closing failure => rw [hkeeper] at hgone; cases hgone
      | left failure => rfl
      | dropped => rfl
    rwa [Inbox.after, hsame]

theorem isGone_run (hgone : b.keeper.isGone = true) (ms : List (Move σ α)) : (b.run ms).keeper.isGone = true := by
  induction ms generalizing b with
  | nil => exact hgone
  | cons m ms ih => exact ih (isGone_after hgone m)

/-- A keeper that has closed its inbox refuses the next request with a turn, or it comes to its end. -/
theorem gone_or_refused (hclosed : b.isClosed = true) :
    (b.after .turn).keeper.isGone = true ∨ b.queue.length = (b.after .turn).queue.length + 1 := by
  cases hkeeper : b.keeper with
  | serving watch => rw [isClosed, hkeeper] at hclosed; cases hclosed
  | closing failure =>
    cases hqueue : b.queue with
    | nil =>
      rw [Inbox.after, turn, hkeeper]
      simp only [hqueue, List.isEmpty_nil, if_true]
      exact Or.inl rfl
    | cons s rest =>
      rw [after_turn_of_closing hkeeper hqueue]
      exact Or.inr rfl
  | left failure => exact Or.inl (isGone_after (by rw [hkeeper]; rfl) .turn)
  | dropped => exact Or.inl (isGone_after (by rw [hkeeper]; rfl) .turn)

/-- **A keeper that has closed its inbox comes to its end**, once it has refused all who wait. -/
theorem isGone_of_isClosed (hclosed : b.isClosed = true) (ms : List (Move σ α))
    (hturns : b.queue.length < ms.countP Move.isTurn) : (b.run ms).keeper.isGone = true := by
  induction ms generalizing b with
  | nil => exact absurd hturns (Nat.not_lt_zero _)
  | cons m ms ih =>
    cases hm : m.isTurn with
    | false =>
      rw [List.countP_cons_of_neg (by rw [hm]; exact Bool.false_ne_true)] at hturns
      exact ih (isClosed_after hclosed m) ((queue_after_of_isClosed hclosed hm).1 ▸ hturns)
    | true =>
      obtain rfl := eq_turn_of_isTurn hm
      rcases gone_or_refused hclosed with hgone | hlength
      · exact isGone_run hgone ms
      · rw [List.countP_cons_of_pos hm, hlength] at hturns
        exact ih (isClosed_after hclosed .turn) (Nat.lt_of_succ_lt_succ hturns)

/-- **Cancellation and a failure make a keeper leave.**  It has closed the inbox after three turns, and come to its end
when it has refused those who wait then. -/
theorem isGone_of_told (htold : b.cancelled = true ∨ b.failure.isSome = true) (ms later : List (Move σ α))
    (hturns : 3 ≤ ms.countP Move.isTurn) (hrest : (b.run ms).queue.length < later.countP Move.isTurn) :
    (b.run ms).isClosed = true ∧ (b.run (ms ++ later)).keeper.isGone = true := by
  have hclosed : (b.run ms).isClosed = true := by
    rcases htold with hcancelled | hfailure
    · exact isClosed_of_told .cancellation hcancelled ms hturns
    · exact isClosed_of_told .failure hfailure ms hturns
  rw [run_append]
  exact ⟨hclosed, isGone_of_isClosed hclosed later hrest⟩

/-! ### Serving in turn -/

/-- **A keeper that looks for requests serves the one that has waited longest.** -/
theorem turn_of_request {s : Nat × Request σ α} {rest : List (Nat × Request σ α)}
    (hkeeper : b.keeper = .serving .request) (hqueue : b.queue = s :: rest) :
    b.turn = Inbox.serve { b with queue := rest, keeper := .serving .cancellation } s.1 s.2 := by
  rw [turn, hkeeper]
  simp only [hqueue]

section Kept

variable {state : σ} {capacity : Nat} {sent : List (Request σ α)} {accepted served : List (Nat × Request σ α)}

/-- Until the keeper looks for requests, those that wait keep their places. -/
theorem queue_after_of_not_request (hkeeper : b.keeper = .serving watch) {m : Move σ α}
    (hm : m.isTurn = true → watch ≠ .request) : (b.after m).isClosed = true ∨ b.queue <+: (b.after m).queue := by
  cases m with
  | send r =>
    rw [Inbox.after, send]
    split
    · exact Or.inr List.prefix_rfl
    · exact Or.inr (List.prefix_append _ _)
  | turn =>
    rw [Inbox.after, turn, hkeeper]
    cases watch with
    | cancellation =>
      dsimp only
      split
      · exact Or.inl rfl
      · exact Or.inr List.prefix_rfl
    | failure =>
      dsimp only
      split
      · exact Or.inl rfl
      · exact Or.inr List.prefix_rfl
    | request => exact absurd rfl (hm rfl)
  | drop => exact Or.inl b.isClosed_drop
  | _ => exact Or.inr List.prefix_rfl

/-- **Who waits is served in turn.**  Of those that wait at an inbox that is not closed, each is served in a round of
three turns, the first as soon as the keeper looks for requests. -/
theorem Kept.closed_or_served (h : Kept state capacity sent accepted served b) (hkeeper : b.keeper = .serving watch)
    {k n : Nat} {r : Request σ α} (hplace : b.queue[k]? = some (n, r)) (ms : List (Move σ α))
    (hturns : 3 * k + Watch.request.turnsTo watch ≤ ms.countP Move.isTurn) :
    (b.run ms).isClosed = true ∨ ∃ v, (b.run ms).outcomes[n]? = some (.served v) := by
  induction ms generalizing sent accepted served b watch k with
  | nil =>
    have hpos := Watch.request.turnsTo_pos watch
    rw [List.countP_nil] at hturns
    omega
  | cons m ms ih =>
    by_cases hlooks : m.isTurn = true ∧ watch = .request
    · obtain ⟨hm, rfl⟩ := hlooks
      obtain rfl := eq_turn_of_isTurn hm
      obtain ⟨s, rest, hqueue⟩ : ∃ s rest, b.queue = s :: rest :=
        List.exists_cons_of_ne_nil fun hnil => by rw [hnil] at hplace; cases hplace
      have hturn := turn_of_request hkeeper hqueue
      rw [hqueue] at hplace
      cases k with
      | zero =>
        -- it is served now, and that stays
        obtain rfl := Option.some.inj hplace
        have hnumber : n < b.outcomes.length := h.lt_length_of_mem_queue (by rw [hqueue]; exact List.mem_cons_self)
        have hserved : (b.after .turn).outcomes[n]? = some (.served (r.act b.state).1) := by
          rw [Inbox.after, hturn, outcomes_serve]
          exact List.getElem?_set_self hnumber
        have hsettled : Outcome.served (r.act b.state).1 ≠ .waiting := by
          intro hwaiting
          cases hwaiting
        exact Or.inr ⟨_, (h.after .turn).settled_run ms n _ hsettled hserved⟩
      | succ k =>
        rw [List.countP_cons_of_pos hm] at hturns
        have hgoes : (b.after .turn).keeper = .serving .cancellation := by
          rw [Inbox.after, hturn, (serve_frame _ _ _).1]
        have hplace : (b.after .turn).queue[k]? = some (n, r) := by
          rw [Inbox.after, hturn, queue_serve]
          exact hplace
        refine ih (h.after .turn) hgoes hplace ?_
        simp only [Watch.turnsTo, Watch.place] at hturns ⊢
        omega
    · have hnot (hm : m.isTurn = true) : watch ≠ .request := fun heq => hlooks ⟨hm, heq⟩
      rcases queue_after_of_not_request hkeeper hnot with hclosed | ⟨more, hmore⟩
      · exact Or.inl (isClosed_run hclosed ms)
      · -- whatever else happens, it keeps its place
        have hafter : (b.after m).queue[k]? = some (n, r) := by
          rw [← hmore, List.getElem?_append_left (List.getElem?_eq_some_iff.1 hplace).1, hplace]
        cases hm : m.isTurn with
        | false =>
          rw [List.countP_cons_of_neg (by rw [hm]; exact Bool.false_ne_true)] at hturns
          rcases closed_or_same hm with hclosed | hsame
          · exact Or.inl (isClosed_run hclosed ms)
          · exact ih (h.after m) (hsame.trans hkeeper) hafter hturns
        | true =>
          rw [List.countP_cons_of_pos hm, Watch.turnsTo_next (hnot hm)] at hturns
          obtain rfl := eq_turn_of_isTurn hm
          rcases closed_or_next hkeeper with hclosed | hnext
          · exact Or.inl (isClosed_run hclosed ms)
          · exact ih (h.after .turn) hnext hafter (Nat.le_of_succ_le_succ hturns)

end Kept

/-- **Whoever waits is served in turn, unless the inbox is closed.**  In a run that has not closed the inbox, each of
those who wait has been served when the keeper has taken three turns for each of them, or the inbox has been closed
meanwhile, and then whoever still waits is told so. -/
theorem run_serves (state : σ) (capacity : Nat) (moves : List (Move σ α)) {n : Nat}
    (hopen : ((new state capacity).run moves).isClosed = false)
    (hwaits : ((new state capacity).run moves).outcomes[n]? = some .waiting) (more : List (Move σ α))
    (hturns : 3 * ((new state capacity).run moves).queue.length ≤ more.countP Move.isTurn) :
    ((new state capacity).run (moves ++ more)).isClosed = true ∨
      ∃ v, ((new state capacity).run (moves ++ more)).outcomes[n]? = some (.served v) := by
  have hkept := (kept_new state capacity).run moves
  obtain ⟨⟨n, r⟩, hmem, rfl⟩ := List.mem_map.1 ((hkept.waiting n).1 hwaits)
  obtain ⟨k, hk⟩ := List.mem_iff_getElem?.1 hmem
  have hlt := (List.getElem?_eq_some_iff.1 hk).1
  rw [run_append]
  cases hkeeper : ((new state capacity).run moves).keeper with
  | serving watch =>
    have hround := Watch.request.turnsTo_le watch
    exact hkept.closed_or_served hkeeper hk more (by omega)
  | _ =>
    rw [isClosed, hkeeper] at hopen
    cases hopen

-- the first request reports a failure when it is served; the second has waited in vain, and the keeper leaves
example :
    let push (x : Nat) : Request (List Nat) Nat := { act := fun s => (s.length, s ++ [x]) }
    let moves : List (Move (List Nat) Nat) :=
      [.send { push 1 with signal := some (.fail "disk full") }, .send (push 2), .turn, .turn, .turn, .turn, .turn,
        .turn, .turn]
    let b := (new [] 2).run moves
    b.outcomes = [.served 0, .refused .cancelled] ∧ b.state = [1] ∧ b.keeper = .left (some "disk full") := by decide

end Inbox

end Logbook
