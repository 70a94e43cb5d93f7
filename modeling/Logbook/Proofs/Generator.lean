import Logbook.EventId.Generator
import Logbook.Proofs.Numerals

/-!
# Ascending identifiers

As long as the milliseconds of a generator fit into an identifier, each identifier is greater than those
before it: either its milliseconds are later, or they are the same and the entropy has been counted up.

## Main definitions

* `Generator.lastId?` — the identifier minted last.
* `Generator.InRange` — the milliseconds fit into an identifier.
* `Generator.drawsAt`, `Generator.drawsLate` — whether fresh entropy is drawn, and whether that comes too late.

## Main results

* `Generator.next_of_drawsAt`, `Generator.next_of_not_drawsAt` — the two ways to mint.
* `Generator.lt_of_next` — a new identifier is greater than the last.
* `Generator.inRange_of_next` — the milliseconds never go back.
-/

namespace Logbook

namespace EventId

/-- Identifiers of later milliseconds are greater, until the milliseconds do not fit any more. -/
theorem ofParts_lt_of_lt {ms ms' : Nat} (h : ms < ms') (hms : ms < timestampBound - 1) (e e' : Nat) :
    ofParts ms e < ofParts ms' e' := by
  change min ms (timestampBound - 1) * entropyBound + e % entropyBound <
    min ms' (timestampBound - 1) * entropyBound + e' % entropyBound
  have hmin : min ms (timestampBound - 1) + 1 ≤ min ms' (timestampBound - 1) := by omega
  have hmul := Nat.mul_le_mul_right entropyBound hmin
  have hmod : e % entropyBound < entropyBound := Nat.mod_lt _ (by decide)
  rw [Nat.succ_mul] at hmul
  omega

/-- Of identifiers of the same milliseconds, the one with the greater entropy is greater. -/
theorem ofParts_lt_of_entropy_lt {ms e e' : Nat} (h : e < e') (he' : e' < entropyBound) :
    ofParts ms e < ofParts ms e' := by
  change min ms (timestampBound - 1) * entropyBound + e % entropyBound <
    min ms (timestampBound - 1) * entropyBound + e' % entropyBound
  rw [Nat.mod_eq_of_lt he', Nat.mod_eq_of_lt (by omega)]
  omega

end EventId

namespace Generator

/-- The identifier minted last. -/
def lastId? (g : Generator) : Option EventId := g.last.map fun p => .ofParts p.1 p.2

/-- The milliseconds of the identifier minted last fit into an identifier. -/
def InRange (g : Generator) : Prop := ∀ p ∈ g.last, p.1 < timestampBound

instance (g : Generator) : Decidable g.InRange := by unfold InRange; infer_instance

/-- Whether fresh entropy is drawn when the clock shows `now` milliseconds: nothing has been minted yet, the clock has
gone on, or the entropy of the last identifier is used up. -/
def drawsAt (g : Generator) (now : Nat) : Bool :=
  match g.last with
  | none => true
  | some (millis, e) => decide (millis < now) || decide (e.val + 1 = entropyBound)

/-- Whether fresh entropy is drawn when the milliseconds are already the greatest that an identifier can show. -/
def drawsLate (g : Generator) (now : Nat) (entropy : Entropy) : Bool :=
  g.drawsAt now && entropy.isOk && g.last.any fun p => decide (timestampBound - 1 ≤ p.1)

/-- A generator that cannot mint stays as it is, and one that can shows what it has minted. -/
theorem fresh_cases (g : Generator) (ms : Nat) (entropy : Entropy) :
    (∃ reason, entropy = .error reason ∧ g.fresh ms entropy = (.error (.entropy reason), g)) ∨
    ∃ e : Fin entropyBound, entropy = .ok e ∧
      g.fresh ms entropy = (.ok (.ofParts ms e.val), ⟨some (ms, e)⟩) := by
  cases entropy with
  | error reason => exact Or.inl ⟨reason, rfl, by rw [fresh]⟩
  | ok e => exact Or.inr ⟨e, rfl, by rw [fresh]⟩

/-- Without fresh entropy the last one is counted up within its millisecond, which the clock has not passed. -/
theorem next_of_not_drawsAt {g : Generator} {now : Nat} (h : g.drawsAt now = false) (entropy : Entropy) :
    ∃ (ms : Nat) (e e' : Fin entropyBound), g.last = some (ms, e) ∧ now ≤ ms ∧ e.val < e'.val ∧
      g.next now entropy = (.ok (.ofParts ms e'.val), ⟨some (ms, e')⟩) := by
  rw [drawsAt] at h
  cases hlast : g.last with
  | none =>
    rw [hlast] at h
    cases h
  | some p =>
    obtain ⟨ms, e⟩ := p
    rw [hlast] at h
    obtain ⟨hbehind, hleft⟩ := Bool.or_eq_false_iff.1 h
    have hnow : now ≤ ms := Nat.le_of_not_lt (of_decide_eq_false hbehind)
    have hroom : e.val + 1 < entropyBound := Nat.lt_of_le_of_ne e.isLt (of_decide_eq_false hleft)
    refine ⟨ms, e, ⟨e.val + 1, hroom⟩, rfl, hnow, Nat.lt_succ_self _, ?_⟩
    rw [next, hlast]
    simp only [if_pos hnow, dif_pos hroom]

/-- Fresh entropy goes with what the clock shows, or with the next millisecond where the entropy of the last one is
used up.  The count of milliseconds ends at the greatest word. -/
theorem next_of_drawsAt {g : Generator} {now : Nat} (h : g.drawsAt now = true) (entropy : Entropy) :
    ∃ ms, g.next now entropy = g.fresh ms entropy ∧ (now ≤ ms ∨ ms = greatestMillis) ∧
      ∀ p ∈ g.last, p.1 < ms ∨ ms = greatestMillis := by
  rw [drawsAt] at h
  cases hlast : g.last with
  | none =>
    refine ⟨now, ?_, Or.inl (Nat.le_refl _), fun p hp => nomatch hp⟩
    rw [next, hlast]
  | some p =>
    obtain ⟨ms, e⟩ := p
    rw [hlast] at h
    by_cases hnow : now ≤ ms
    · have hbehind : decide (ms < now) = false := decide_eq_false (Nat.not_lt_of_le hnow)
      have hfull : ¬ e.val + 1 < entropyBound := by
        simp only [hbehind, Bool.false_or, decide_eq_true_eq] at h
        exact Nat.not_lt_of_le (Nat.le_of_eq h.symm)
      refine ⟨min (ms + 1) greatestMillis, ?_, ?_, fun p hp => ?_⟩
      · rw [next, hlast]
        simp only [if_pos hnow, dif_neg hfull]
      · generalize greatestMillis = bound
        omega
      · obtain rfl := Option.some.inj hp
        show ms < min (ms + 1) greatestMillis ∨ _
        generalize greatestMillis = bound
        omega
    · refine ⟨now, ?_, Or.inl (Nat.le_refl _), fun p hp => ?_⟩
      · rw [next, hlast]
        simp only [if_neg hnow]
      · obtain rfl := Option.some.inj hp
        exact Or.inl (Nat.lt_of_not_le hnow)

/-- An identifier takes the place of the last, or there is no identifier and nothing changes.  The
milliseconds advance, unless the entropy is counted up or there are no later milliseconds. -/
theorem next_cases (g : Generator) (now : Nat) (entropy : Entropy) :
    (∃ reason, g.next now entropy = (.error (.entropy reason), g)) ∨
    ∃ (ms : Nat) (e : Fin entropyBound),
      g.next now entropy = (.ok (.ofParts ms e.val), ⟨some (ms, e)⟩) ∧
      ∀ p ∈ g.last, p.1 < ms ∨ p.1 = ms ∧ p.2.val < e.val ∨ ms = greatestMillis := by
  cases hdraws : g.drawsAt now with
  | false =>
    obtain ⟨ms, e, e', hlast, -, hlt, hnext⟩ := next_of_not_drawsAt hdraws entropy
    refine Or.inr ⟨ms, e', hnext, fun p hp => ?_⟩
    rw [hlast] at hp
    obtain rfl := Option.some.inj hp
    exact Or.inr (Or.inl ⟨rfl, hlt⟩)
  | true =>
    obtain ⟨ms, hnext, -, hlast⟩ := next_of_drawsAt hdraws entropy
    rw [hnext]
    rcases g.fresh_cases ms entropy with ⟨reason, -, hfresh⟩ | ⟨e, -, hfresh⟩
    · exact Or.inl ⟨reason, hfresh⟩
    · exact Or.inr ⟨ms, e, hfresh, fun p hp => (hlast p hp).imp_right Or.inr⟩

section Next

variable {g g' : Generator} {now : Nat} {entropy : Entropy}

/-- A failure changes nothing. -/
theorem eq_of_next_error {error : EventError} (h : g.next now entropy = (.error error, g')) :
    g' = g := by
  rcases g.next_cases now entropy with ⟨reason, hnext⟩ | ⟨ms, e, hnext, -⟩
  · exact (congrArg Prod.snd (h.symm.trans hnext))
  · rw [hnext] at h
    cases h

/-- Nothing but the source of randomness fails. -/
theorem error_of_next {error : EventError} (h : g.next now entropy = (.error error, g')) :
    ∃ reason, error = .entropy reason := by
  rcases g.next_cases now entropy with ⟨reason, hnext⟩ | ⟨ms, e, hnext, -⟩
  · rw [hnext] at h
    cases h
    exact ⟨reason, rfl⟩
  · rw [hnext] at h
    cases h

theorem lastId?_of_next {id : EventId} (h : g.next now entropy = (.ok id, g')) :
    g'.lastId? = some id := by
  rcases g.next_cases now entropy with ⟨reason, hnext⟩ | ⟨ms, e, hnext, -⟩
  · rw [hnext] at h
    cases h
  · rw [hnext] at h
    cases h
    rfl

/-- The milliseconds never go back. -/
theorem inRange_of_next (h : (g.next now entropy).2.InRange) : g.InRange := by
  intro p hp
  rcases g.next_cases now entropy with ⟨reason, hnext⟩ | ⟨ms, e, hnext, hlast⟩
  · rw [hnext] at h
    exact h p hp
  · rw [hnext] at h
    have hms : ms < timestampBound := h (ms, e) rfl
    have hbound : timestampBound ≤ greatestMillis := by decide
    rcases hlast p hp with hlt | ⟨heq, -⟩ | hgreatest
    · exact Nat.lt_trans hlt hms
    · rw [heq]
      exact hms
    · rw [hgreatest] at hms
      exact absurd hbound (Nat.not_le_of_lt hms)

/-- Entropy that is counted up makes a greater identifier. -/
theorem lt_of_next_of_not_drawsAt {id : EventId} (h : g.next now entropy = (.ok id, g'))
    (hdraws : g.drawsAt now = false) : ∀ i ∈ g.lastId?, i < id := by
  intro i hi
  obtain ⟨p, hp, rfl⟩ := Option.map_eq_some_iff.1 hi
  obtain ⟨ms, e, e', hlast, -, hlt, hnext⟩ := next_of_not_drawsAt hdraws entropy
  obtain rfl := Option.some.inj (hp.symm.trans hlast)
  rw [hnext] at h
  cases h
  exact EventId.ofParts_lt_of_entropy_lt hlt e'.isLt

/-- Fresh entropy makes a greater identifier, unless it is drawn too late. -/
theorem lt_of_next_of_not_drawsLate {id : EventId} (h : g.next now entropy = (.ok id, g'))
    (hlate : g.drawsLate now entropy = false) : ∀ i ∈ g.lastId?, i < id := by
  cases hdraws : g.drawsAt now with
  | false => exact lt_of_next_of_not_drawsAt h hdraws
  | true =>
    intro i hi
    obtain ⟨p, hp, rfl⟩ := Option.map_eq_some_iff.1 hi
    obtain ⟨ms, hnext, -, hlast⟩ := next_of_drawsAt hdraws entropy
    rw [hnext] at h
    rcases g.fresh_cases ms entropy with ⟨reason, -, hfresh⟩ | ⟨e, rfl, hfresh⟩
    · rw [hfresh] at h
      cases h
    · rw [hfresh] at h
      cases h
      have hearly : p.1 < timestampBound - 1 := by
        rw [drawsLate, hdraws, hp] at hlate
        exact Nat.lt_of_not_le (of_decide_eq_false hlate)
      have hbound : timestampBound ≤ greatestMillis := by decide
      refine EventId.ofParts_lt_of_lt ?_ hearly _ _
      rcases hlast p hp with hlt | hgreatest
      · exact hlt
      · omega

/-- As long as the milliseconds fit into an identifier, no entropy is drawn too late. -/
theorem drawsLate_of_inRange {id : EventId} (h : g.next now entropy = (.ok id, g')) (hg' : g'.InRange) :
    g.drawsLate now entropy = false := by
  cases hdraws : g.drawsAt now with
  | false => rw [drawsLate, hdraws, Bool.false_and, Bool.false_and]
  | true =>
    obtain ⟨ms, hnext, -, hlast⟩ := next_of_drawsAt hdraws entropy
    rw [hnext] at h
    rcases g.fresh_cases ms entropy with ⟨reason, -, hfresh⟩ | ⟨e, rfl, hfresh⟩
    · rw [hfresh] at h
      cases h
    · rw [hfresh] at h
      cases h
      have hms : ms < timestampBound := hg' (ms, e) rfl
      have hbound : timestampBound ≤ greatestMillis := by decide
      rw [drawsLate, hdraws]
      cases hp : g.last with
      | none => rfl
      | some p =>
        refine decide_eq_false fun hle => ?_
        rcases hlast p hp with hlt | hgreatest
        · omega
        · omega

/-- **A new identifier is greater than the last.** -/
theorem lt_of_next {id : EventId} (h : g.next now entropy = (.ok id, g')) (hg' : g'.InRange) :
    ∀ i ∈ g.lastId?, i < id :=
  lt_of_next_of_not_drawsLate h (drawsLate_of_inRange h hg')

end Next

end Generator

end Logbook
