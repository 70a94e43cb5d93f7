import Logbook.Proofs.Instant
import Logbook.Proofs.Numerals
import Logbook.Proofs.Utf8
import Logbook.LogName
import Logbook.Table

/-!
# Keys and values

A key begins with the bytes of its log's name and a zero.  The rows between the bounds of a log are those whose
keys begin so, and since no name holds a zero, a key lies between the bounds of one log only.  Keys of one log
compare as the identifiers that they end in.

## Main results

* `Entry.owns_iff_begins` — the bounds of a log as a beginning of keys.
* `Entry.owns_key_iff` — a key lies between the bounds of its own log only.
* `Entry.compare_key` — the order of the keys of a log.
* `Entry.decode_key_value` — an event is read back from its entry.
* `Entry.decode_of_value` — **what comes back of the time of an event.**
-/

namespace Logbook
namespace Entry

open Table (owns precedes)

/-! ### The bounds of a log -/

theorem precedes_iff {a b : Bytes} : precedes a b = true ↔ compare a b = .lt := by
  unfold precedes
  cases compare a b <;> simp [Ordering.isLT]

theorem not_precedes_iff {a b : Bytes} : precedes a b = false ↔ compare a b ≠ .lt := by
  rw [← Bool.not_eq_true, precedes_iff]

/-- Between `p` with a zero and `p` with a one there are the byte strings that begin with the former. -/
theorem between_iff_begins : ∀ (p k : Bytes),
    (compare k (p ++ [0]) ≠ .lt ∧ compare k (p ++ [1]) = .lt) ↔ p ++ [0] <+: k := by
  intro p
  induction p with
  | nil =>
    intro k
    cases k with
    | nil => simp [show compare ([] : Bytes) [0] = .lt from rfl]
    | cons b r =>
      have hnil : compare r [] ≠ .lt := by cases r <;> exact nofun
      -- the byte after the separator bounds the rows of the log
      have hone : compare b 1 = .lt ↔ b = 0 := by
        rw [Bytes.compare_eq_compare_toNat, Nat.compare_eq_lt, ← UInt8.toNat_inj]
        exact Nat.lt_one_iff
      rw [List.nil_append, List.nil_append, compare_cons, compare_cons, List.cons_prefix_cons, ne_eq,
        Ordering.then_eq_lt, Ordering.then_eq_lt, hone]
      constructor
      · rintro ⟨-, rfl | ⟨-, h⟩⟩
        · exact ⟨rfl, List.nil_prefix⟩
        · exact absurd h hnil
      · rintro ⟨rfl, -⟩
        refine ⟨?_, Or.inl rfl⟩
        rintro (h | ⟨-, h⟩)
        · exact absurd h (by decide)
        · exact hnil h
  | cons a p ih =>
    intro k
    cases k with
    | nil => simp [show compare ([] : Bytes) (a :: (p ++ [0])) = .lt from rfl]
    | cons b r =>
      rw [List.cons_append, List.cons_append, compare_cons, compare_cons, List.cons_prefix_cons, ← ih r]
      cases h : compare b a with
      | lt =>
        have hne : a ≠ b := by rintro rfl; simp at h
        simp [hne]
      | eq =>
        obtain rfl := Std.LawfulEqCmp.eq_of_compare h
        simp
      | gt =>
        have hne : a ≠ b := by rintro rfl; simp at h
        simp [hne]

/-- **The rows of a log are those whose keys begin with its name and a zero.** -/
theorem owns_iff_begins (log : String) (k : Bytes) : owns log k = true ↔ keysFrom log <+: k := by
  rw [owns, Bool.and_eq_true, Bool.not_eq_true', not_precedes_iff, precedes_iff]
  exact between_iff_begins (Utf8.encode log) k

theorem key_eq (log : String) (id : EventId) : key log id = keysFrom log ++ id.toBytes := by
  rw [key, keysFrom, List.append_assoc]
  rfl

theorem keysFrom_prefix_key (log : String) (id : EventId) : keysFrom log <+: key log id := by
  rw [key_eq]
  exact List.prefix_append _ _

theorem owns_key (log : String) (id : EventId) : owns log (key log id) = true :=
  (owns_iff_begins log _).2 (keysFrom_prefix_key log id)

/-! ### Names without zeros -/

theorem separator_notMem_encode {log : String} (h : LogName.Valid log) :
    separator ∉ Utf8.encode log := by
  rw [separator, Utf8.zero_mem_encode_iff]
  exact h.2

/-- What stands before the first zero is determined by the whole. -/
theorem eq_of_append_zero_eq {a b r s : Bytes} (ha : separator ∉ a) (hb : separator ∉ b)
    (h : a ++ separator :: r = b ++ separator :: s) : a = b := by
  have htake {c t : Bytes} (hc : separator ∉ c) :
      (c ++ separator :: t).takeWhile (· != separator) = c := by
    have hall : ∀ x ∈ c, (x != separator) = true := by
      intro x hx
      rw [bne_iff_ne]
      rintro rfl
      exact hc hx
    rw [List.takeWhile_append_of_pos hall]
    simp
  rw [← htake (t := r) ha, h, htake hb]

/-- No byte string begins as the keys of two logs do. -/
theorem eq_of_common_beginning {log log' : String} (h : LogName.Valid log) (h' : LogName.Valid log')
    {k : Bytes} (hk : keysFrom log <+: k) (hk' : keysFrom log' <+: k) : log = log' := by
  obtain ⟨r, rfl⟩ := hk
  obtain ⟨s, hs⟩ := hk'
  rw [keysFrom, keysFrom, List.append_assoc, List.append_assoc] at hs
  exact Utf8.encode_injective
    (eq_of_append_zero_eq (separator_notMem_encode h) (separator_notMem_encode h') hs.symm)

/-- **A key lies between the bounds of its own log only.** -/
theorem owns_key_iff {log log' : String} (h : LogName.Valid log) (h' : LogName.Valid log')
    (id : EventId) : owns log (key log' id) = true ↔ log = log' := by
  constructor
  · intro howns
    exact eq_of_common_beginning h h' ((owns_iff_begins _ _).1 howns) (keysFrom_prefix_key log' id)
  · rintro rfl
    exact owns_key log id

/-- The rows of two logs are apart. -/
theorem not_owns_of_owns {log log' : String} (h : LogName.Valid log) (h' : LogName.Valid log')
    (hne : log ≠ log') {k : Bytes} (hk : owns log k = true) : owns log' k = false := by
  rw [← Bool.not_eq_true]
  intro hk'
  exact hne (eq_of_common_beginning h h' ((owns_iff_begins _ _).1 hk) ((owns_iff_begins _ _).1 hk'))

/-! ### The order of keys -/

/-- Keys of one log compare as their identifiers. -/
theorem compare_key (log : String) (i j : EventId) :
    compare (key log i) (key log j) = compare i j := by
  rw [key_eq, key_eq, compare_append_left, EventId.compare_toBytes]

/-! ### Reading back -/

/-- The name and the identifier are read back from a key. -/
theorem decodeKey_key (log : String) (id : EventId) : decodeKey (key log id) = .ok (log, id) := by
  have hlength : (key log id).length = (Utf8.encode log).length + 17 := by
    simp [key]
  have hsplit : (key log id).length - EventId.byteLength - 1 = (Utf8.encode log).length := by
    rw [hlength, EventId.byteLength]
    omega
  have hshort : ¬ (key log id).length < EventId.byteLength + 1 := by
    rw [hlength, EventId.byteLength]
    omega
  have hseparator : (key log id).getD (Utf8.encode log).length 0 = separator := by
    simp [key]
  have htake : (key log id).take (Utf8.encode log).length = Utf8.encode log := by
    simp [key]
  have hdrop : (key log id).drop ((Utf8.encode log).length + 1) = id.toBytes := by
    rw [key, List.drop_append]
    simp
  rw [decodeKey, if_neg hshort]
  simp only [hsplit, hseparator, htake, hdrop, Utf8.decode_encode, EventId.ofNat_toNat_toBytes,
    ne_eq, not_true_eq_false, if_false]

/-- Two events have one key only if they have one name and one identifier. -/
theorem key_injective {log log' : String} {i j : EventId} (h : key log i = key log' j) :
    log = log' ∧ i = j := by
  have hdecode := decodeKey_key log i
  rw [h, decodeKey_key] at hdecode
  cases hdecode
  exact ⟨rfl, rfl⟩

/-- The bytes of a time and a message. -/
def payload (nanos : Nat) (message : Bytes) : Bytes := version :: Bytes.ofNat 8 nanos ++ message

/-- A value is the payload of an instant that can be stored. -/
theorem value_eq_ok_iff {timestamp : Instant} {message v : Bytes} :
    value timestamp message = .ok v ↔
      ∃ n, timestamp.nanos? = some n ∧ v = payload n message := by
  unfold value
  cases timestamp.nanos? with
  | none => simp
  | some n => simp [payload, eq_comm]

/-- What can be stored fits into the eight bytes of a payload. -/
theorem nanos_lt {timestamp : Instant} {n : Nat} (h : timestamp.nanos? = some n) : n < 256 ^ 8 :=
  Nat.lt_of_le_of_lt (Instant.nanos?_eq_some_iff.1 h).2 (by decide)

/-- Whatever count the eight bytes of a payload hold, it is read. -/
theorem decodeValue_payload {n : Nat} (h : n < 256 ^ 8) (message : Bytes) :
    decodeValue (payload n message) = .ok (.ofNanos n, message) := by
  have hlength : (Bytes.ofNat 8 n).length = 8 := Bytes.length_ofNat 8 n
  have hlong : ¬ (Bytes.ofNat 8 n ++ message).length + 1 < headerLength := by
    rw [List.length_append, hlength, headerLength]
    omega
  have htake : (Bytes.ofNat 8 n ++ message).take 8 = Bytes.ofNat 8 n := List.take_left' hlength
  have hdrop : (Bytes.ofNat 8 n ++ message).drop 8 = message := List.drop_left' hlength
  rw [payload, List.cons_append, decodeValue, if_neg (by simp), if_neg hlong, htake, hdrop,
    Bytes.toNat_ofNat, Nat.mod_eq_of_lt h]

/-- **An event is read back from its entry.** -/
theorem decode_key_value (log : String) (id : EventId) {timestamp : Instant} {message v : Bytes}
    {n : Nat} (hn : timestamp.nanos? = some n) (hv : value timestamp message = .ok v) :
    decode (key log id) v = .ok { id, log, timestamp := .ofNanos n, message } := by
  obtain ⟨n', hn', rfl⟩ := value_eq_ok_iff.1 hv
  obtain rfl : n' = n := Option.some.inj (hn'.symm.trans hn)
  rw [decode, decodeKey_key, decodeValue_payload (nanos_lt hn)]
  rfl

/-- **An event is read back from its entry with the count of its nanoseconds.**  All else comes back as it was.  Its time
is the one that was written unless that lies in a leap second; then it is that of the second after it. -/
theorem decode_of_value (log : String) (id : EventId) {timestamp : Instant} {message v : Bytes}
    (hv : value timestamp message = .ok v) :
    ∃ stored : Instant, decode (key log id) v = .ok { id, log, timestamp := stored, message } ∧
      stored.totalNanos = timestamp.totalNanos ∧ (stored = timestamp ↔ timestamp.nanos < nanosPerSecond) ∧
        (nanosPerSecond ≤ timestamp.nanos →
          stored.seconds = timestamp.seconds + 1 ∧ stored.nanos = timestamp.nanos - nanosPerSecond) := by
  obtain ⟨n, hn, -⟩ := value_eq_ok_iff.1 hv
  have hcount : (Instant.ofNanos n).totalNanos = timestamp.totalNanos :=
    (Instant.totalNanos_ofNanos n).trans (Instant.nanos?_eq_some_iff.1 hn).1.symm
  have hlt := Instant.nanos_ofNanos_lt n
  refine ⟨.ofNanos n, decode_key_value log id hn hv, hcount, ⟨fun heq => heq ▸ hlt, fun htime => ?_⟩, fun hleap => ?_⟩
  · exact Instant.eq_of_totalNanos_eq hlt htime hcount
  · have hnanos := timestamp.nanos_lt
    simp only [Instant.totalNanos, nanosPerSecond] at hcount hlt hleap hnanos ⊢
    omega

/-- The middle of the leap second at the end of 2016. -/
theorem decode_of_value_leap_second :
    let leap : Instant := ⟨1483228799, 1500000000, by decide⟩
    ∃ v, value leap [109] = .ok v ∧ ∃ stored : Instant,
      decode (key "a" .greatest) v = .ok { id := .greatest, log := "a", timestamp := stored, message := [109] } ∧
        stored.seconds = 1483228800 ∧ stored.nanos = 500000000 := by
  intro leap
  have hn : leap.nanos? = some 1483228800500000000 := by decide
  have hv : value leap [109] = .ok (payload 1483228800500000000 [109]) := value_eq_ok_iff.2 ⟨_, hn, rfl⟩
  obtain ⟨stored, hdecode, -, -, hleap⟩ := decode_of_value "a" .greatest hv
  obtain ⟨hseconds, hnanos⟩ := hleap (by decide)
  exact ⟨_, hv, stored, hdecode, hseconds.trans (by decide), hnanos.trans (by decide)⟩

/-- An instant in a leap second does not come back. -/
theorem decode_value_ne_leap_second :
    let leap : Instant := ⟨1483228799, 1500000000, by decide⟩
    LogName.Valid "a" ∧ ∃ v, value leap [109] = .ok v ∧
      decode (key "a" .greatest) v ≠ .ok { id := .greatest, log := "a", timestamp := leap, message := [109] } := by
  intro leap
  have hn : leap.nanos? = some 1483228800500000000 := by decide
  have hv : value leap [109] = .ok (payload 1483228800500000000 [109]) := value_eq_ok_iff.2 ⟨_, hn, rfl⟩
  refine ⟨by decide, _, hv, fun heq => ?_⟩
  rw [decode_key_value "a" .greatest hn hv] at heq
  have htime : Instant.ofNanos 1483228800500000000 = leap := congrArg Event.timestamp (Except.ok.inj heq)
  exact absurd (congrArg Instant.seconds htime) (by decide)

end Entry
end Logbook
