import Logbook.Proofs.Generator

/-!
# Runs of a generator

A generator is asked again and again, with any clock and any luck.  What it mints ascends byte for byte as long as no
fresh entropy is drawn when the milliseconds have come to the greatest that an identifier can show: from then on the
milliseconds are all shown alike, and only counting up still leads to greater identifiers.

## Main definitions

* `Generator.after`, `Generator.minted` — a generator after some calls, and the identifiers that it mints in them.
* `Generator.InTime` — no fresh entropy is drawn too late.

## Main results

* `Generator.lastId?_after` — the last identifier of a run.
* `Generator.le_timestampMs_of_next` — an identifier is not older than the clock.
* `Generator.minted_ascending` — **what is minted in a run ascends.**
-/

namespace Logbook

/-- The time in an identifier, where it fits. -/
theorem EventId.timestampMs_ofParts (ms e : Nat) :
    (ofParts ms e).timestampMs = min ms (timestampBound - 1) := by
  have hpos : 0 < entropyBound := by decide
  change (min ms (timestampBound - 1) * entropyBound + e % entropyBound) / entropyBound = _
  rw [Nat.mul_comm, Nat.mul_add_div hpos, Nat.div_eq_of_lt (Nat.mod_lt _ hpos), Nat.add_zero]

namespace Generator

/-! ### Calls one after another -/

/-- A generator after some calls, each with what the clock shows and with the entropy that there is. -/
def after (g : Generator) (calls : List (Nat × Entropy)) : Generator :=
  calls.foldl (fun g call => (g.next call.1 call.2).2) g

/-- The identifiers that a generator mints in some calls, one after another. -/
def minted (g : Generator) : List (Nat × Entropy) → List EventId
  | [] => []
  | (now, entropy) :: rest =>
    match g.next now entropy with
    | (.ok id, g) => id :: g.minted rest
    | (.error _, g) => g.minted rest

/-- In none of some calls fresh entropy is drawn too late. -/
def InTime (g : Generator) : List (Nat × Entropy) → Prop
  | [] => True
  | (now, entropy) :: rest =>
    g.drawsLate now entropy = false ∧ (g.next now entropy).2.InTime rest

section Calls

variable {g g' : Generator} {now : Nat} {entropy : Entropy} {id : EventId} {error : EventError}

@[simp] theorem after_nil (g : Generator) : g.after [] = g := rfl

@[simp] theorem after_cons (g : Generator) (now : Nat) (entropy : Entropy) (rest : List (Nat × Entropy)) :
    g.after ((now, entropy) :: rest) = (g.next now entropy).2.after rest := rfl

theorem minted_cons_ok (h : g.next now entropy = (.ok id, g')) (rest : List (Nat × Entropy)) :
    g.minted ((now, entropy) :: rest) = id :: g'.minted rest := by
  rw [minted, h]

theorem minted_cons_error (h : g.next now entropy = (.error error, g')) (rest : List (Nat × Entropy)) :
    g.minted ((now, entropy) :: rest) = g.minted rest := by
  rw [minted, h, eq_of_next_error h]

/-- The last identifier after a run is the last one that was minted in it, or the one from before. -/
theorem lastId?_after (g : Generator) (calls : List (Nat × Entropy)) :
    (g.after calls).lastId? = (g.lastId?.toList ++ g.minted calls).getLast? := by
  induction calls generalizing g with
  | nil =>
    rw [after_nil, minted, List.append_nil]
    cases g.lastId? with
    | none => rfl
    | some i => rfl
  | cons call rest ih =>
    obtain ⟨now, entropy⟩ := call
    rw [after_cons, ih]
    rcases hnext : g.next now entropy with ⟨result, g'⟩
    cases result with
    | error error =>
      rw [minted_cons_error hnext, eq_of_next_error hnext]
    | ok id =>
      rw [minted_cons_ok hnext, lastId?_of_next hnext, List.getLast?_append, List.getLast?_append,
        List.getLast?_cons]
      cases (g'.minted rest).getLast? with
      | none => rfl
      | some i => rfl

end Calls

/-! ### What is minted -/

section Next

variable {g g' : Generator} {now : Nat} {entropy : Entropy} {id : EventId}

/-- An identifier is not older than the clock, as far as identifiers reach. -/
theorem le_timestampMs_of_next (h : g.next now entropy = (.ok id, g')) :
    min now (timestampBound - 1) ≤ id.timestampMs := by
  have hbound : timestampBound ≤ greatestMillis := by decide
  cases hdraws : g.drawsAt now with
  | false =>
    obtain ⟨ms, -, e', -, hnow, -, hnext⟩ := next_of_not_drawsAt hdraws entropy
    rw [hnext] at h
    cases h
    rw [EventId.timestampMs_ofParts]
    omega
  | true =>
    obtain ⟨ms, hnext, hnow, -⟩ := next_of_drawsAt hdraws entropy
    rw [hnext] at h
    rcases g.fresh_cases ms entropy with ⟨reason, -, hfresh⟩ | ⟨e, -, hfresh⟩
    · rw [hfresh] at h
      cases h
    · rw [hfresh] at h
      cases h
      rw [EventId.timestampMs_ofParts]
      -- the greatest count of milliseconds is shown like the greatest that fits
      rcases hnow with hnow | hgreatest
      · omega
      · omega

/-- Minting fails only where entropy does, and then it changes nothing. -/
theorem of_next_error {error : EventError} (h : g.next now entropy = (.error error, g')) :
    g' = g ∧ ∃ reason, entropy = .error reason ∧ error = .entropy reason := by
  refine ⟨eq_of_next_error h, ?_⟩
  cases hdraws : g.drawsAt now with
  | false =>
    obtain ⟨ms, -, e', -, -, -, hnext⟩ := next_of_not_drawsAt hdraws entropy
    rw [hnext] at h
    cases h
  | true =>
    obtain ⟨ms, hnext, -, -⟩ := next_of_drawsAt hdraws entropy
    rw [hnext] at h
    rcases g.fresh_cases ms entropy with ⟨reason, hentropy, hfresh⟩ | ⟨e, -, hfresh⟩
    · rw [hfresh] at h
      cases h
      exact ⟨reason, hentropy, rfl⟩
    · rw [hfresh] at h
      cases h

end Next

/-- What is minted in time ascends, and all of it is above what was minted before. -/
theorem InTime.ascending {g : Generator} {calls : List (Nat × Entropy)} (h : g.InTime calls) :
    (g.lastId?.toList ++ g.minted calls).Pairwise (· < ·) := by
  induction calls generalizing g with
  | nil =>
    rw [minted, List.append_nil]
    cases g.lastId? with
    | none => exact .nil
    | some i => exact List.pairwise_singleton _ _
  | cons call rest ih =>
    obtain ⟨now, entropy⟩ := call
    obtain ⟨hlate, hrest⟩ := h
    have hpairwise := ih hrest
    rcases hnext : g.next now entropy with ⟨result, g'⟩
    rw [hnext] at hpairwise
    cases result with
    | error error =>
      rw [minted_cons_error hnext]
      rw [eq_of_next_error hnext] at hpairwise
      exact hpairwise
    | ok id =>
      rw [minted_cons_ok hnext]
      rw [lastId?_of_next hnext] at hpairwise
      have habove := lt_of_next_of_not_drawsLate hnext hlate
      cases hlast : g.lastId? with
      | none => exact hpairwise
      | some i =>
        -- the last identifier is below the new one, and so below all that follow
        have hlt : i < id := habove i hlast
        refine List.pairwise_cons.2 ⟨fun j hj => ?_, hpairwise⟩
        rcases List.mem_cons.1 hj with rfl | hj
        · exact hlt
        · exact Nat.lt_trans hlt ((List.pairwise_cons.1 hpairwise).1 j hj)

/-- **What is minted in a run ascends, byte for byte, as long as no fresh entropy is drawn too late.**

Whenever the generator is asked, whatever the clock shows and whether there is entropy or not: an identifier is not
older than the clock, one whose entropy was counted up is above the last, and where there is none, the generator lacked
entropy and stays as it was. -/
theorem minted_ascending (g : Generator) (calls : List (Nat × Entropy)) :
    (g.InTime calls → (g.lastId?.toList ++ g.minted calls).Pairwise fun i j =>
      compare i.toBytes j.toBytes = .lt) ∧
    ∀ now entropy,
      (∀ id g', (g.after calls).next now entropy = (.ok id, g') →
        min now (timestampBound - 1) ≤ id.timestampMs ∧
          ((g.after calls).drawsAt now = false → ∀ i ∈ (g.lastId?.toList ++ g.minted calls).getLast?,
            compare i.toBytes id.toBytes = .lt)) ∧
      ∀ error g', (g.after calls).next now entropy = (.error error, g') →
        g' = g.after calls ∧ ∃ reason, entropy = .error reason ∧ error = .entropy reason := by
  have hbytes : ∀ {i j : EventId}, i < j → compare i.toBytes j.toBytes = .lt := by
    intro i j hlt
    rw [EventId.compare_toBytes]
    exact EventId.compare_eq_lt.2 hlt
  refine ⟨fun h => h.ascending.imp hbytes, fun now entropy => ⟨fun id g' hnext => ?_, fun error g' hnext => ?_⟩⟩
  · refine ⟨le_timestampMs_of_next hnext, fun hdraws i hi => hbytes ?_⟩
    rw [← lastId?_after] at hi
    exact lt_of_next_of_not_drawsAt hnext hdraws i hi
  · exact of_next_error hnext

/-- The entropy of a millisecond is used up, the clock steps back, entropy fails and comes again, and at last the clock
jumps beyond what an identifier can show. -/
theorem minted_ascending_used_up :
    let full : Fin entropyBound := ⟨entropyBound - 1, by decide⟩
    let calls : List (Nat × Entropy) := [(5, .ok full), (3, .error "none"), (4, .ok ⟨9, by decide⟩),
      (2, .error "none"), (greatestMillis, .ok ⟨1, by decide⟩), (0, .error "none")]
    let ids := new.minted calls
    ids = [.ofParts 5 (entropyBound - 1), .ofParts 6 9, .ofParts 6 10, .ofParts (timestampBound - 1) 1,
      .ofParts (timestampBound - 1) 2] ∧
    new.InTime calls ∧ ids.Pairwise fun i j => compare i.toBytes j.toBytes = .lt := by
  intro full calls ids
  have hintime : new.InTime calls := ⟨rfl, rfl, rfl, rfl, rfl, rfl, trivial⟩
  exact ⟨by decide +kernel, hintime, (minted_ascending new calls).1 hintime⟩

end Generator

end Logbook
