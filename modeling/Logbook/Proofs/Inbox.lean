import Logbook.Inbox

/-!
# The books of an inbox

Whatever clients and the keeper do, and in whatever order: the requests that have been served come first among
those that have found room, and the others wait or have been refused.

## Main definitions

* `Inbox.collect` — what is noted of each move of a run.
* `Inbox.sends`, `Inbox.accepts`, `Inbox.serves`, `Inbox.reports` — the requests that are left, that find room and
  that are served, and the failures that are reported.
* `Inbox.applied`, `Inbox.answers` — what requests do when they are served one after another.
* `Inbox.Kept` — the invariant.

## Main results

* `Inbox.Kept.after`, `Inbox.Kept.run` — **the books are kept.**
* `Inbox.Kept.settled_after`, `Inbox.Kept.settled_run` — what a client has been told stays.
-/

namespace Logbook

/-- The failure that a request reports when it is served. -/
def Request.failure {σ α : Type} (r : Request σ α) : Option String :=
  match r.signal with
  | some (.fail reason) => some reason
  | _ => none

namespace Inbox

variable {σ α β : Type}

/-! ### Histories -/

/-- What `f` notes of each move of a run. -/
def collect (f : Inbox σ α → Move σ α → List β) : Inbox σ α → List (Move σ α) → List β
  | _, [] => []
  | b, m :: ms => f b m ++ collect f (b.after m) ms

theorem collect_append (f : Inbox σ α → Move σ α → List β) (b : Inbox σ α) (ms ms' : List (Move σ α)) :
    collect f b (ms ++ ms') = collect f b ms ++ collect f (b.run ms) ms' := by
  induction ms generalizing b with
  | nil => rfl
  | cons m ms ih => rw [List.cons_append, collect, collect, ih, List.append_assoc]; rfl

theorem run_nil (b : Inbox σ α) : b.run [] = b := rfl

theorem run_cons (b : Inbox σ α) (m : Move σ α) (ms : List (Move σ α)) : b.run (m :: ms) = (b.after m).run ms :=
  rfl

theorem run_append (b : Inbox σ α) (ms ms' : List (Move σ α)) : b.run (ms ++ ms') = (b.run ms).run ms' :=
  List.foldl_append

/-- The request that a client leaves. -/
def sends (_ : Inbox σ α) : Move σ α → List (Request σ α)
  | .send r => [r]
  | _ => []

/-- The request that finds room, with its number. -/
def accepts (b : Inbox σ α) : Move σ α → List (Nat × Request σ α)
  | .send r => match b.refusal with
    | some _ => []
    | none => [(b.outcomes.length, r)]
  | _ => []

/-- The request that is served, with its number. -/
def serves (b : Inbox σ α) : Move σ α → List (Nat × Request σ α)
  | .turn => match b.keeper with
    | .serving .request => b.queue.take 1
    | _ => []
  | _ => []

/-- The failure that is reported, by a client or by the request that is served. -/
def reports (b : Inbox σ α) : Move σ α → List String
  | .fail reason => [reason]
  | m => (b.serves m).filterMap fun r => r.2.failure

theorem reports_turn (b : Inbox σ α) :
    b.reports .turn = (b.serves .turn).filterMap fun r => r.2.failure := rfl

/-- The state after some requests, served one after another. -/
def applied (state : σ) : List (Nat × Request σ α) → σ
  | [] => state
  | (_, r) :: rest => applied (r.act state).2 rest

/-- The answers to some requests, served one after another. -/
def answers (state : σ) : List (Nat × Request σ α) → List (Nat × α)
  | [] => []
  | (number, r) :: rest => (number, (r.act state).1) :: answers (r.act state).2 rest

theorem applied_append (state : σ) (rs rs' : List (Nat × Request σ α)) :
    applied state (rs ++ rs') = applied (applied state rs) rs' := by
  induction rs generalizing state with
  | nil => rfl
  | cons r rs ih => exact ih _

theorem answers_append (state : σ) (rs rs' : List (Nat × Request σ α)) :
    answers state (rs ++ rs') = answers state rs ++ answers (applied state rs) rs' := by
  induction rs generalizing state with
  | nil => rfl
  | cons r rs ih => exact congrArg (_ :: ·) (ih _)

/-- Just the requests that are served get answers. -/
theorem map_fst_answers (state : σ) (rs : List (Nat × Request σ α)) :
    (answers state rs).map Prod.fst = rs.map Prod.fst := by
  induction rs generalizing state with
  | nil => rfl
  | cons r rs ih => exact congrArg (r.1 :: ·) (ih _)

/-! ### The books -/

/-- What holds of an inbox for `capacity` requests that has been left the requests `sent`, has had room for
`accepted` and has served `served`. -/
structure Kept (state : σ) (capacity : Nat) (sent : List (Request σ α))
    (accepted served : List (Nat × Request σ α)) (b : Inbox σ α) : Prop where
  /-- There is as much room as there was. -/
  room : b.capacity = capacity
  /-- No more requests wait than there is room for. -/
  bounded : b.queue.length ≤ b.capacity
  /-- Each request has a number. -/
  numbered : b.outcomes.length = sent.length
  /-- Requests that find room have been left under their numbers. -/
  known : ∀ r ∈ accepted, sent[r.1]? = some r.2
  /-- Requests find room in the order of their numbers. -/
  ascending : accepted.Pairwise fun r s => r.1 < s.1
  /-- Those that have found room have been served, have been refused since the inbox was closed, or wait. -/
  order : ∃ refused, accepted = served ++ refused ++ b.queue ∧ (b.isClosed = false → refused = [])
  /-- The requests that have been served have made the state. -/
  result : b.state = applied state served
  /-- Those that wait have been told nothing. -/
  waiting : ∀ n, b.outcomes[n]? = some .waiting ↔ n ∈ b.queue.map Prod.fst
  /-- Those that have been served have been told their answers. -/
  answered : ∀ n v, b.outcomes[n]? = some (.served v) ↔ (n, v) ∈ answers state served

theorem refuse_frame (b : Inbox σ α) :
    b.refuse.keeper = b.keeper ∧ b.refuse.failure = b.failure ∧ b.refuse.queue = b.queue.tail := by
  rw [refuse]
  split
  case h_1 hqueue => rw [hqueue]; exact ⟨rfl, rfl, rfl⟩
  case h_2 hqueue => rw [hqueue]; exact ⟨rfl, rfl, rfl⟩

theorem isClosed_refuse (b : Inbox σ α) : b.refuse.isClosed = b.isClosed := by
  rw [isClosed, isClosed, (refuse_frame b).1]

theorem kept_new (state : σ) (capacity : Nat) :
    Kept state (max capacity 1) [] [] [] (new state capacity : Inbox σ α) where
  room := rfl
  bounded := Nat.zero_le _
  numbered := rfl
  known := fun _ h => absurd h List.not_mem_nil
  ascending := .nil
  order := ⟨[], rfl, fun _ => rfl⟩
  result := rfl
  waiting := fun n => by simp [new]
  answered := fun n v => by simp [new, answers]

theorem getElem?_concat_eq_some_iff {l : List β} {x y : β} {n : Nat} :
    (l ++ [x])[n]? = some y ↔ l[n]? = some y ∨ n = l.length ∧ x = y := by
  rw [List.getElem?_append]
  split
  case isTrue h => exact ⟨Or.inl, fun hy => hy.resolve_right fun hn => Nat.ne_of_lt h hn.1⟩
  case isFalse h =>
    rw [List.getElem?_eq_none (Nat.le_of_not_lt h), List.getElem?_singleton]
    grind

section Kept

variable {state : σ} {capacity : Nat} {sent : List (Request σ α)} {accepted served : List (Nat × Request σ α)}
variable {b b' : Inbox σ α}

/-- Requests are served in the order in which they have found room. -/
theorem Kept.prefix_accepted (h : Kept state capacity sent accepted served b) : served <+: accepted := by
  obtain ⟨refused, heq, -⟩ := h.order
  rw [heq, List.append_assoc]
  exact List.prefix_append _ _

/-- No request is served twice. -/
theorem Kept.nodup_served (h : Kept state capacity sent accepted served b) : (served.map Prod.fst).Nodup := by
  rw [List.Nodup, List.pairwise_map]
  exact (h.ascending.sublist h.prefix_accepted.sublist).imp fun hlt => Nat.ne_of_lt hlt

/-- The books are about the queue, the outcomes and the state only. -/
theorem Kept.congr (h : Kept state capacity sent accepted served b) (hcapacity : b'.capacity = b.capacity)
    (hqueue : b'.queue = b.queue) (hstate : b'.state = b.state) (houtcomes : b'.outcomes = b.outcomes)
    (hclosed : b.isClosed = true → b'.isClosed = true) : Kept state capacity sent accepted served b' where
  room := hcapacity.trans h.room
  bounded := by rw [hqueue, hcapacity]; exact h.bounded
  numbered := by rw [houtcomes]; exact h.numbered
  known := h.known
  ascending := h.ascending
  order := by
    obtain ⟨refused, heq, hrefused⟩ := h.order
    refine ⟨refused, by rw [hqueue]; exact heq, fun hopen => hrefused ?_⟩
    exact Bool.eq_false_iff.2 fun hb => absurd (hclosed hb) (Bool.eq_false_iff.1 hopen)
  result := by rw [hstate]; exact h.result
  waiting := by rw [hqueue, houtcomes]; exact h.waiting
  answered := by rw [houtcomes]; exact h.answered

/-- Requests that find room have numbers. -/
theorem Kept.lt_length (h : Kept state capacity sent accepted served b) {s : Nat × Request σ α}
    (hs : s ∈ accepted) : s.1 < b.outcomes.length := by
  rw [h.numbered]
  exact (List.getElem?_eq_some_iff.1 (h.known s hs)).1

/-- Those that wait have numbers. -/
theorem Kept.lt_length_of_mem_queue (h : Kept state capacity sent accepted served b) {n : Nat}
    (hn : n ∈ b.queue.map Prod.fst) : n < b.outcomes.length :=
  (List.getElem?_eq_some_iff.1 ((h.waiting n).2 hn)).1

/-- A request that is left keeps its number. -/
theorem Kept.known_concat (h : Kept state capacity sent accepted served b) (r : Request σ α) :
    ∀ s ∈ accepted, (sent ++ [r])[s.1]? = some s.2 :=
  fun s hs => getElem?_concat_eq_some_iff.2 (Or.inl (h.known s hs))

/-- A request finds no room. -/
theorem Kept.send_refused (h : Kept state capacity sent accepted served b) (r : Request σ α) {error : InboxError}
    (hb : b.refusal = some error) : Kept state capacity (sent ++ [r]) accepted served (b.send r) := by
  rw [send, hb]
  exact {
    room := h.room
    bounded := h.bounded
    numbered := by simp only [List.length_append, h.numbered, List.length_singleton]
    known := h.known_concat r
    ascending := h.ascending
    order := h.order
    result := h.result
    waiting := fun n => by
      rw [← h.waiting, getElem?_concat_eq_some_iff]
      simp only [reduceCtorEq, and_false, or_false]
    answered := fun n v => by
      rw [← h.answered, getElem?_concat_eq_some_iff]
      simp only [reduceCtorEq, and_false, or_false] }

/-- A request finds room. -/
theorem Kept.send_accepted (h : Kept state capacity sent accepted served b) (r : Request σ α)
    (hb : b.refusal = none) :
    Kept state capacity (sent ++ [r]) (accepted ++ [(b.outcomes.length, r)]) served (b.send r) := by
  have hroom : b.queue.length < b.capacity := by
    rw [refusal] at hb
    grind
  have hopen : b.isClosed = false := by
    rw [refusal] at hb
    grind
  rw [send, hb]
  exact {
    room := h.room
    bounded := by rw [List.length_append]; exact hroom
    numbered := by simp only [List.length_append, h.numbered, List.length_singleton]
    known := fun s hs => by
      rcases List.mem_append.1 hs with hs | hs
      · exact h.known_concat r s hs
      · rw [List.mem_singleton.1 hs]
        exact getElem?_concat_eq_some_iff.2 (Or.inr ⟨h.numbered, rfl⟩)
    ascending := List.pairwise_append.2 ⟨h.ascending, List.pairwise_singleton _ _, fun s hs t ht => by
      rw [List.mem_singleton.1 ht]
      exact h.lt_length hs⟩
    order := by
      obtain ⟨refused, heq, hrefused⟩ := h.order
      exact ⟨refused, by rw [heq, List.append_assoc], hrefused⟩
    result := h.result
    waiting := fun n => by
      rw [getElem?_concat_eq_some_iff, h.waiting, List.map_append, List.mem_append, List.map_singleton,
        List.mem_singleton]
      simp only [and_true]
    answered := fun n v => by
      rw [← h.answered, getElem?_concat_eq_some_iff]
      simp only [reduceCtorEq, and_false, or_false] }

section Head

variable {number : Nat} {r : Request σ α} {rest : List (Nat × Request σ α)}

theorem Kept.bounded_rest (h : Kept state capacity sent accepted served b) (hqueue : b.queue = (number, r) :: rest) :
    rest.length ≤ b.capacity := by
  have hbounded := h.bounded
  rw [hqueue] at hbounded
  exact Nat.le_of_succ_le hbounded

/-- The request that has waited longest is told something. -/
theorem Kept.waiting_set (h : Kept state capacity sent accepted served b) (hqueue : b.queue = (number, r) :: rest)
    {o : Outcome α} (ho : o ≠ .waiting) (n : Nat) :
    (b.outcomes.set number o)[n]? = some .waiting ↔ n ∈ rest.map Prod.fst := by
  obtain ⟨refused, heq, -⟩ := h.order
  have hascending := h.ascending
  rw [heq, hqueue, List.pairwise_append, List.pairwise_cons] at hascending
  have hwaiting := h.waiting n
  rw [hqueue, List.map_cons, List.mem_cons] at hwaiting
  rw [List.getElem?_set]
  by_cases hn : number = n
  · subst hn
    have hnot : number ∉ rest.map Prod.fst := fun hmem => by
      obtain ⟨s, hs, hfst⟩ := List.mem_map.1 hmem
      exact Nat.ne_of_lt (hascending.2.1.1 s hs) hfst.symm
    grind
  · rw [if_neg hn, hwaiting]
    exact ⟨fun hor => hor.resolve_left (Ne.symm hn), Or.inr⟩

/-- The request that has waited longest is served. -/
theorem Kept.serve (h : Kept state capacity sent accepted served b) (hqueue : b.queue = (number, r) :: rest)
    (hopen : b.isClosed = false) {keeper : Keeper} :
    Kept state capacity sent accepted (served ++ [(number, r)])
      (({ b with queue := rest, keeper }).serve number r) := by
  have hnumber : number ∈ b.queue.map Prod.fst := by rw [hqueue]; exact List.mem_cons_self
  have hlt := h.lt_length_of_mem_queue hnumber
  suffices hsettled : Kept state capacity sent accepted (served ++ [(number, r)])
      { b with queue := rest, keeper, state := (r.act b.state).2
               outcomes := b.outcomes.set number (.served (r.act b.state).1) } by
    unfold Inbox.serve
    cases hsignal : r.signal with
    | none => exact hsettled
    | some signal =>
      cases signal with
      | cancel => exact hsettled.congr rfl rfl rfl rfl id
      | fail reason => exact hsettled.congr rfl rfl rfl rfl id
  obtain ⟨refused, heq, hrefused⟩ := h.order
  have hnil := hrefused hopen
  subst hnil
  exact {
    room := h.room
    bounded := h.bounded_rest hqueue
    numbered := by rw [List.length_set]; exact h.numbered
    known := h.known
    ascending := h.ascending
    order := ⟨[], by rw [heq, hqueue]; simp only [List.append_nil, List.append_assoc]; rfl, fun _ => rfl⟩
    result := by rw [applied_append, ← h.result]; rfl
    waiting := h.waiting_set hqueue (fun ho => nomatch ho)
    answered := fun n v => by
      have hwaiting := (h.waiting number).2 hnumber
      rw [answers_append, List.mem_append, ← h.answered, ← h.result]
      simp only [answers, List.mem_singleton, Prod.mk.injEq]
      by_cases hn : n = number
      · subst hn
        rw [List.getElem?_set_self (h.numbered.symm ▸ hlt), hwaiting]
        simp [eq_comm]
      · rw [List.getElem?_set_ne (Ne.symm hn)]
        simp [hn] }

/-- The request that has waited longest is refused. -/
theorem Kept.refuse (h : Kept state capacity sent accepted served b) (hclosed : b.isClosed = true) :
    Kept state capacity sent accepted served b.refuse := by
  rw [Inbox.refuse]
  split
  case h_2 => exact h
  case h_1 number r rest hqueue =>
    have hnumber : number ∈ b.queue.map Prod.fst := by rw [hqueue]; exact List.mem_cons_self
    obtain ⟨refused, heq, -⟩ := h.order
    exact {
      room := h.room
      bounded := h.bounded_rest hqueue
      numbered := by rw [settle, List.length_set]; exact h.numbered
      known := h.known
      ascending := h.ascending
      order := ⟨refused ++ [(number, r)],
        by rw [heq, hqueue]; simp only [settle, List.append_assoc]; rfl,
        fun hopen => absurd (hclosed.symm.trans hopen) Bool.noConfusion⟩
      result := h.result
      waiting := h.waiting_set hqueue (fun ho => nomatch ho)
      answered := fun n v => by
        have hlt := h.lt_length_of_mem_queue hnumber
        have hwaiting := (h.waiting number).2 hnumber
        rw [← h.answered, settle]
        by_cases hn : n = number
        · subst hn
          rw [List.getElem?_set_self (h.numbered.symm ▸ hlt), hwaiting]
          simp
        · rw [List.getElem?_set_ne (Ne.symm hn)] }

end Head

/-- One step of the keeper. -/
theorem Kept.turn (h : Kept state capacity sent accepted served b) :
    Kept state capacity sent accepted (served ++ b.serves .turn) b.turn := by
  rw [Inbox.turn, serves]
  cases hkeeper : b.keeper with
  | serving next =>
    have hopen : b.isClosed = false := by rw [isClosed, hkeeper]
    cases next with
    | cancellation =>
      simp only [List.append_nil]
      split
      · exact h.congr rfl rfl rfl rfl fun _ => rfl
      · exact h.congr rfl rfl rfl rfl fun hclosed => hopen.symm.trans hclosed
    | failure =>
      simp only [List.append_nil]
      split
      · exact h.congr rfl rfl rfl rfl fun _ => rfl
      · exact h.congr rfl rfl rfl rfl fun hclosed => hopen.symm.trans hclosed
    | request =>
      cases hqueue : b.queue with
      | nil =>
        simp only [List.take_nil, List.append_nil]
        split
        · exact h.congr rfl rfl rfl rfl fun _ => rfl
        · exact h.congr rfl hqueue.symm rfl rfl fun hclosed => hopen.symm.trans hclosed
      | cons s rest => exact h.serve hqueue hopen
  | closing failure =>
    have hclosed : b.isClosed = true := by rw [isClosed, hkeeper]
    simp only [List.append_nil]
    split
    · exact h.congr rfl rfl rfl rfl fun _ => rfl
    · exact h.refuse hclosed
  | left failure => exact (List.append_nil served).symm ▸ h
  | dropped => exact (List.append_nil served).symm ▸ h

/-- What the keeper leaves undone. -/
theorem Kept.repeat_refuse (h : Kept state capacity sent accepted served b) (hclosed : b.isClosed = true) (n : Nat) :
    Kept state capacity sent accepted served (n.repeat Inbox.refuse b) ∧
      (n.repeat Inbox.refuse b).isClosed = true := by
  induction n with
  | zero => exact ⟨h, hclosed⟩
  | succ n ih => exact ⟨ih.1.refuse ih.2, (isClosed_refuse _).trans ih.2⟩

/-- **One move.** -/
theorem Kept.after (h : Kept state capacity sent accepted served b) (m : Move σ α) :
    Kept state capacity (sent ++ b.sends m) (accepted ++ b.accepts m) (served ++ b.serves m) (b.after m) := by
  cases m with
  | send r =>
    simp only [accepts, serves, List.append_nil]
    split
    case h_1 error hrefusal => rw [List.append_nil]; exact h.send_refused r hrefusal
    case h_2 hrefusal => exact h.send_accepted r hrefusal
  | turn =>
    simp only [sends, accepts, List.append_nil]
    exact h.turn
  | drop =>
    simp only [sends, accepts, serves, List.append_nil, Inbox.after, drop]
    split
    · exact h
    · have hdropped : Kept state capacity sent accepted served { b with keeper := .dropped } :=
        h.congr rfl rfl rfl rfl fun _ => rfl
      exact (hdropped.repeat_refuse rfl _).1
  | _ =>
    simp only [sends, accepts, serves, List.append_nil]
    exact h.congr rfl rfl rfl rfl id

/-- **The books are kept.** -/
theorem Kept.run (h : Kept state capacity sent accepted served b) (ms : List (Move σ α)) :
    Kept state capacity (sent ++ collect sends b ms) (accepted ++ collect accepts b ms)
      (served ++ collect serves b ms) (b.run ms) := by
  induction ms generalizing sent accepted served b with
  | nil => simpa only [collect, List.append_nil, run_nil] using h
  | cons m ms ih => simpa only [collect, List.append_assoc, run_cons] using ih (h.after m)

/-! ### What clients have been told -/

/-- No client that has been told something is told anything else later. -/
def Settled (b b' : Inbox σ α) : Prop :=
  ∀ (n : Nat) (o : Outcome α), o ≠ .waiting → b.outcomes[n]? = some o → b'.outcomes[n]? = some o

theorem Settled.of_eq (h : b'.outcomes = b.outcomes) : b.Settled b' :=
  fun _ _ _ hn => h ▸ hn

theorem Settled.trans {b'' : Inbox σ α} (h : b.Settled b') (h' : b'.Settled b'') : b.Settled b'' :=
  fun n o ho hn => h' n o ho (h n o ho hn)

/-- What is told to one that waits is told to nobody else. -/
theorem Kept.settled_set (h : Kept state capacity sent accepted served b) {number : Nat} {o : Outcome α}
    (hnumber : number ∈ b.queue.map Prod.fst) (hb' : b'.outcomes = b.outcomes.set number o) :
    b.Settled b' := by
  intro n o' ho' hn
  have hwaiting := (h.waiting number).2 hnumber
  rw [hb', List.getElem?_set]
  grind

theorem Kept.settled_refuse (h : Kept state capacity sent accepted served b) : b.Settled b.refuse := by
  rw [Inbox.refuse]
  split
  case h_1 number r rest hqueue =>
    exact h.settled_set (by rw [hqueue]; exact List.mem_cons_self) rfl
  case h_2 => exact .of_eq rfl

theorem Kept.settled_repeat_refuse (h : Kept state capacity sent accepted served b) (hclosed : b.isClosed = true)
    (n : Nat) : b.Settled (n.repeat Inbox.refuse b) := by
  induction n with
  | zero => exact .of_eq rfl
  | succ n ih => exact ih.trans (h.repeat_refuse hclosed n).1.settled_refuse

theorem outcomes_serve (b : Inbox σ α) (number : Nat) (r : Request σ α) :
    (b.serve number r).outcomes = b.outcomes.set number (.served (r.act b.state).1) := by
  unfold serve
  cases r.signal with
  | none => rfl
  | some signal =>
    cases signal with
    | cancel => rfl
    | fail reason => rfl

theorem Kept.settled_turn (h : Kept state capacity sent accepted served b) : b.Settled b.turn := by
  rw [Inbox.turn]
  split
  case h_1 => split <;> exact .of_eq rfl
  case h_2 => split <;> exact .of_eq rfl
  case h_3 =>
    split
    case h_1 number r rest hqueue =>
      exact h.settled_set (by rw [hqueue]; exact List.mem_cons_self) (outcomes_serve _ number r)
    case h_2 => split <;> exact .of_eq rfl
  case h_4 =>
    split
    · exact .of_eq rfl
    · exact h.settled_refuse
  case h_5 => exact .of_eq rfl
  case h_6 => exact .of_eq rfl

theorem Kept.settled_after (h : Kept state capacity sent accepted served b) (m : Move σ α) :
    b.Settled (b.after m) := by
  cases m with
  | send r =>
    rw [Inbox.after, send]
    split
    · exact fun _ _ _ hn => getElem?_concat_eq_some_iff.2 (Or.inl hn)
    · exact fun _ _ _ hn => getElem?_concat_eq_some_iff.2 (Or.inl hn)
  | turn => exact h.settled_turn
  | drop =>
    rw [Inbox.after, drop]
    split
    · exact .of_eq rfl
    · have hdropped : Kept state capacity sent accepted served { b with keeper := .dropped } :=
        h.congr rfl rfl rfl rfl fun _ => rfl
      exact hdropped.settled_repeat_refuse rfl _
  | _ => exact .of_eq rfl

/-- **What a client has been told stays.** -/
theorem Kept.settled_run (h : Kept state capacity sent accepted served b) (ms : List (Move σ α)) :
    b.Settled (b.run ms) := by
  induction ms generalizing sent accepted served b with
  | nil => exact .of_eq rfl
  | cons m ms ih => exact (h.settled_after m).trans (ih (h.after m))

end Kept

end Inbox

end Logbook
