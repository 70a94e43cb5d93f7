/-!
# Running readers

A reader takes a start of its input off and leaves the rest, or fails.  These lemmas say what one reader does before
another.

## Main results

* `run_bind_ok`, `run_bind_error` — running one reader before another.
* `of_run_bind`, `of_run_unless` — what must have been read or checked before.
* `bind_eq_ok_iff` — the same for steps that take nothing off an input.
-/

namespace Logbook

variable {σ ε α β : Type} {x : StateT σ (Except ε) α} {f : α → StateT σ (Except ε) β} {s s' : σ}

theorem run_bind_ok {a : α} (h : x.run s = .ok (a, s')) : (x >>= f).run s = (f a).run s' := by
  rw [StateT.run_bind, h]
  rfl

theorem run_bind_error {e : ε} (h : x.run s = .error e) : (x >>= f).run s = .error e := by
  rw [StateT.run_bind, h]
  rfl

/-- Where two readers succeed, the first one does, and the second on what it leaves. -/
theorem of_run_bind {r : β × σ} (h : (x >>= f).run s = .ok r) :
    ∃ a s', x.run s = .ok (a, s') ∧ (f a).run s' = .ok r := by
  cases hx : x.run s with
  | error e => rw [run_bind_error hx] at h; cases h
  | ok p =>
    rw [run_bind_ok hx] at h
    exact ⟨p.1, p.2, rfl, h⟩

/-- Two steps succeed where the first one does, and the second on what it yields. -/
theorem bind_eq_ok_iff {x : Except ε α} {f : α → Except ε β} {b : β} :
    (x >>= f) = .ok b ↔ ∃ a, x = .ok a ∧ f a = .ok b := by
  cases x with
  | error e => exact ⟨nofun, fun ⟨_, h, _⟩ => nomatch h⟩
  | ok a => exact ⟨fun h => ⟨a, rfl, h⟩, fun ⟨_, h, hf⟩ => Except.ok.inj h ▸ hf⟩

/-- Where a reader succeeds, it has not failed before. -/
theorem of_run_unless {p : Prop} [Decidable p] {e : ε} {y : StateT σ (Except ε) β} {r : β × σ}
    (h : (if p then throw e >>= f else y).run s = .ok r) : ¬ p ∧ y.run s = .ok r := by
  by_cases hp : p
  · rw [if_pos hp] at h
    cases h
  · rw [if_neg hp] at h
    exact ⟨hp, h⟩

end Logbook
