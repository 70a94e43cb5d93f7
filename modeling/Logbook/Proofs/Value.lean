import Logbook.Proofs.Entry

/-!
# Values that are written again

A value holds a count of nanoseconds in eight bytes, and a reader takes every count that these can hold.  A writer
takes a count from a signed number of 64 bits, so it stops halfway.  A value that has been read is written again as it
was, down to the last byte, as long as its count lies in the lower half; from there on the writer refuses the very time
that was read, and no other time has such a value.

## Main results

* `Entry.decodeValue_eq_ok_iff` — which byte strings are read as values, and as what.
* `Entry.value_ofNanos` — which counts are written.
* `Entry.value_of_decodeValue` — **a value that has been read is written again as it was, or its count is too great for
  any value that is written.**
-/

namespace Logbook
namespace Entry

variable {v message : Bytes} {timestamp : Instant} {n : Nat}

/-- **A byte string is read as a value just where it is a version byte, a count in eight bytes and a message.** -/
theorem decodeValue_eq_ok_iff :
    decodeValue v = .ok (timestamp, message) ↔ ∃ n < 256 ^ 8, v = payload n message ∧ timestamp = .ofNanos n := by
  constructor
  · intro h
    rw [decodeValue.eq_def] at h
    split at h
    · cases h
    · rename_i b rest
      split at h
      · cases h
      · rename_i hversion
        split at h
        · cases h
        · rename_i hlong
          obtain ⟨rfl, rfl⟩ := Prod.mk.inj (Except.ok.inj h)
          have hcount : (rest.take 8).length = 8 := by
            rw [List.length_take]
            rw [headerLength] at hlong
            omega
          have hlt := Bytes.toNat_lt (rest.take 8)
          have hbytes := Bytes.ofNat_toNat (rest.take 8)
          rw [hcount] at hlt hbytes
          refine ⟨_, hlt, ?_, rfl⟩
          rw [payload, hbytes, List.cons_append, List.take_append_drop, Decidable.not_not.1 hversion]
  · rintro ⟨n, hlt, rfl, rfl⟩
    exact decodeValue_payload hlt message

/-- The count of a payload stands behind the version byte. -/
theorem toNat_payload (h : n < 256 ^ 8) (message : Bytes) : Bytes.toNat (((payload n message).drop 1).take 8) = n := by
  have htake : (Bytes.ofNat 8 n ++ message).take 8 = Bytes.ofNat 8 n := List.take_left' (Bytes.length_ofNat 8 n)
  rw [payload, List.cons_append, List.drop_succ_cons, List.drop_zero, htake, Bytes.toNat_ofNat, Nat.mod_eq_of_lt h]

/-- The instant of a count is written with that count, unless it is too great. -/
theorem value_ofNanos (n : Nat) (message : Bytes) :
    value (.ofNanos n) message =
      if n ≤ Instant.greatestNanos then .ok (payload n message)
      else .error (.invalidTimestamp (Instant.ofNanos n).shown) := by
  have hcount := Instant.totalNanos_ofNanos n
  split
  · next hle => exact value_eq_ok_iff.2 ⟨n, Instant.nanos?_eq_some_iff.2 ⟨hcount, hle⟩, rfl⟩
  · next hgreat =>
    have hnone : (Instant.ofNanos n).nanos? = none := by
      rw [Instant.nanos?, hcount, if_neg]
      omega
    rw [value, hnone]

/-- **A value that has been read is written again as it was, or its count is too great for any value that is written.**
The count is the one that stands in the value, and the limit is that of a signed number of 64 bits.  Beyond it, writing
what has been read fails with the time, and no other time and message are written as this value either. -/
theorem value_of_decodeValue (h : decodeValue v = .ok (timestamp, message)) :
    timestamp.totalNanos = Bytes.toNat ((v.drop 1).take 8) ∧
      (value timestamp message = if timestamp.totalNanos ≤ Instant.greatestNanos then .ok v
        else .error (.invalidTimestamp timestamp.shown)) ∧
      ((∃ timestamp' message', value timestamp' message' = .ok v) ↔
        timestamp.totalNanos ≤ Instant.greatestNanos) := by
  obtain ⟨n, hlt, rfl, rfl⟩ := decodeValue_eq_ok_iff.1 h
  simp only [Instant.totalNanos_ofNanos, toNat_payload hlt, Int.ofNat_le]
  refine ⟨trivial, value_ofNanos n message, ?_, fun hle => ⟨.ofNanos n, message, ?_⟩⟩
  · rintro ⟨timestamp', message', hvalue⟩
    -- what has been written is read with the count that it was written with
    obtain ⟨n', hn', hpayload⟩ := value_eq_ok_iff.1 hvalue
    have hsame := congrArg (fun w => Bytes.toNat ((w.drop 1).take 8)) hpayload
    rw [toNat_payload hlt, toNat_payload (nanos_lt hn')] at hsame
    exact hsame ▸ (Instant.nanos?_eq_some_iff.1 hn').2
  · rw [value_ofNanos, if_pos hle]

/-- The greatest count that is written. -/
theorem value_of_decodeValue_greatest :
    let v : Bytes := 1 :: 127 :: List.replicate 7 255 ++ [109]
    decodeValue v = .ok (.ofNanos 9223372036854775807, [109]) ∧ value (.ofNanos 9223372036854775807) [109] = .ok v := by
  intro v
  have h : decodeValue v = .ok (.ofNanos 9223372036854775807, [109]) := by decide +kernel
  obtain ⟨-, hvalue, -⟩ := value_of_decodeValue h
  exact ⟨h, hvalue.trans (if_pos (by decide))⟩

/-- The greatest count that is read, at a time in the year 2554, is never written. -/
theorem decodeValue_never_written :
    let v : Bytes := 1 :: List.replicate 8 255
    decodeValue v = .ok (.ofNanos 18446744073709551615, []) ∧
      value (.ofNanos 18446744073709551615) [] = .error (.invalidTimestamp "2554-07-21T23:34:33.709551615+00:00") ∧
      ∀ timestamp message, value timestamp message ≠ .ok v := by
  intro v
  have h : decodeValue v = .ok (.ofNanos 18446744073709551615, []) := by decide +kernel
  refine ⟨h, by decide +kernel, fun timestamp message hvalue => ?_⟩
  obtain ⟨n, hn, hpayload⟩ := value_eq_ok_iff.1 hvalue
  have hread := decodeValue_payload (nanos_lt hn) message
  rw [← hpayload, h] at hread
  have hcount := congrArg Instant.totalNanos (Prod.mk.inj (Except.ok.inj hread)).1
  rw [Instant.totalNanos_ofNanos, Instant.totalNanos_ofNanos] at hcount
  have hle := (Instant.nanos?_eq_some_iff.1 hn).2
  rw [Instant.greatestNanos] at hle
  omega

end Entry
end Logbook
