import Logbook.Time.Instant

/-!
# Instants and their counts of nanoseconds

A count of nanoseconds passes over leap seconds, so it tells an instant from all others only outside of leap seconds.
An instant in a leap second has the same count as one in the second after it.

A text tells a leap second from the second after it at the end of a minute, where it shows second 60, and nowhere else.

## Main definitions

* `Instant.OnMinute` — whether an instant lies in no leap second but at the end of a minute.
* `Instant.told` — the instant that the text of an instant tells.

## Main results

* `Instant.nanos?_eq_some_iff` — the instants that can be stored, and their counts.
* `Instant.totalNanos_ofNanos` — a count is that of its instant.
* `Instant.eq_of_totalNanos_eq` — outside of leap seconds, an instant is known by its count.
* `Instant.told_eq_iff`, `Instant.nanos?_told` — which instants are told, and that no count is lost in the telling.
-/

namespace Logbook.Instant

/-- An instant can be stored with its count, if the count is not too great. -/
theorem nanos?_eq_some_iff {t : Instant} {n : Nat} :
    t.nanos? = some n ↔ t.totalNanos = n ∧ n ≤ greatestNanos := by
  rw [nanos?]
  split
  case isTrue h =>
    rw [Option.some.injEq]
    omega
  case isFalse h =>
    refine ⟨nofun, fun ⟨heq, hle⟩ => absurd ⟨?_, ?_⟩ h⟩
    · omega
    · omega

/-- No instant of a count lies in a leap second. -/
theorem nanos_ofNanos_lt (n : Nat) : (ofNanos n).nanos < nanosPerSecond := Nat.mod_lt _ (by decide)

theorem totalNanos_ofNanos (n : Nat) : (ofNanos n).totalNanos = n := by
  simp only [totalNanos, ofNanos]
  rw [← Int.natCast_mul, ← Int.natCast_add, Nat.mul_comm, Nat.div_add_mod]

/-- Outside of leap seconds, an instant is known by its count. -/
theorem eq_of_totalNanos_eq {t t' : Instant} (ht : t.nanos < nanosPerSecond) (ht' : t'.nanos < nanosPerSecond)
    (h : t.totalNanos = t'.totalNanos) : t = t' := by
  obtain ⟨seconds, nanos, hnanos⟩ := t
  obtain ⟨seconds', nanos', hnanos'⟩ := t'
  simp only [totalNanos, nanosPerSecond] at ht ht' h
  rw [mk.injEq]
  omega

/-! ### Leap seconds in texts -/

/-- An instant lies in no leap second, or in one at the end of a minute. -/
def OnMinute (t : Instant) : Prop := t.nanos < nanosPerSecond ∨ t.seconds % 60 = 59

instance (t : Instant) : Decidable t.OnMinute := by unfold OnMinute; infer_instance

/-- The instant that the text of an instant tells.  A leap second within a minute is told as the second after it. -/
def told (t : Instant) : Instant :=
  if t.OnMinute then t
  else ⟨t.seconds + 1, t.nanos - nanosPerSecond, Nat.lt_of_le_of_lt (Nat.sub_le _ _) t.nanos_lt⟩

variable {t : Instant}

theorem told_of_onMinute (h : t.OnMinute) : t.told = t := if_pos h

theorem told_of_not_onMinute (h : ¬ t.OnMinute) :
    t.told.seconds = t.seconds + 1 ∧ t.told.nanos = t.nanos - nanosPerSecond := by
  rw [told, if_neg h]
  exact ⟨rfl, rfl⟩

/-- **Which instants are told as they are.** -/
theorem told_eq_iff : t.told = t ↔ t.OnMinute := by
  refine ⟨fun heq => Decidable.byContradiction fun h => ?_, told_of_onMinute⟩
  have hseconds := (told_of_not_onMinute h).1
  rw [heq] at hseconds
  omega

theorem totalNanos_told (t : Instant) : t.told.totalNanos = t.totalNanos := by
  by_cases h : t.OnMinute
  · rw [told_of_onMinute h]
  · obtain ⟨hseconds, hnanos⟩ := told_of_not_onMinute h
    rw [OnMinute] at h
    simp only [totalNanos, hseconds, hnanos, nanosPerSecond] at h ⊢
    omega

/-- An instant is stored as the one that its text tells. -/
theorem nanos?_told (t : Instant) : t.told.nanos? = t.nanos? := by
  rw [nanos?, nanos?, totalNanos_told]

/-- What is told has the nanoseconds of the second. -/
theorem nanos_told_mod (t : Instant) : t.told.nanos % nanosPerSecond = t.nanos % nanosPerSecond := by
  by_cases h : t.OnMinute
  · rw [told_of_onMinute h]
  · have hnanos := (told_of_not_onMinute h).2
    have hleap := (not_or.1 h).1
    rw [hnanos]
    simp only [nanosPerSecond] at hleap ⊢
    omega

end Logbook.Instant
