/-!
# Retention

How many events of a log are kept.

## Main definitions

* `Retention.atMost` — the policy that keeps a number of events, at least one.
* `Retention.excess` — how many events are too many.
-/

namespace Logbook

/-- How many events of each log are kept. -/
structure Retention where
  /-- The greatest number of events of a log. -/
  maxEvents : UInt64
  deriving DecidableEq, Repr

namespace Retention

/-- The policy that keeps `max` events of each log, and one where `max` is zero. -/
def atMost (max : UInt64) : Retention := ⟨if max = 0 then 1 else max⟩

/-- The number of events that are kept where nothing else is set. -/
def defaultMax : UInt64 := 5000

instance : Inhabited Retention := ⟨⟨defaultMax⟩⟩

/-- The number of events that are kept. -/
def keep (r : Retention) : Nat := r.maxEvents.toNat

/-- How many events of a log of `count` events are too many. -/
def excess (r : Retention) (count : Nat) : Nat := count - r.keep

end Retention

end Logbook
