import Logbook.Syslog.Reading

/-!
# The shape of structured data

Structured data are elements in brackets.  Values in an element stand in quotes; there a bracket does not end the
element, and a backslash hides the byte behind it.

## Main definitions

* `Syslog.Value`, `Syslog.Inner`, `Syslog.Elements` — the shapes of a value, of an element and of elements.

## Main results

* `Syslog.scanData_elements`, `Syslog.of_scanData` — elements are scanned, and nothing else is.
* `Syslog.elements_iff` — **structured data are what is scanned with nothing left over.**
-/

namespace Logbook.Syslog

/-- What may stand behind the quote that opens a value, up to the one that closes it. -/
inductive Value : Bytes → Prop
  /-- The value ends. -/
  | close : Value [quote]
  /-- A byte that is neither a quote nor a backslash. -/
  | plain {b : UInt8} {rest : Bytes} : b ≠ quote → b ≠ backslash → Value rest → Value (b :: rest)
  /-- A backslash with the byte that it hides. -/
  | hidden {b : UInt8} {rest : Bytes} : Value rest → Value (backslash :: b :: rest)

/-- What may stand behind the bracket that opens an element, up to the one that closes it. -/
inductive Inner : Bytes → Prop
  /-- The element ends. -/
  | close : Inner [closingBracket]
  /-- A byte that opens no value and does not end the element. -/
  | plain {b : UInt8} {rest : Bytes} : b ≠ quote → b ≠ closingBracket → Inner rest → Inner (b :: rest)
  /-- A value. -/
  | value {v rest : Bytes} : Value v → Inner rest → Inner (quote :: (v ++ rest))

/-- One element or more. -/
inductive Elements : Bytes → Prop
  /-- A single element. -/
  | one {e : Bytes} : Inner e → Elements (bracket :: e)
  /-- An element before others. -/
  | more {e rest : Bytes} : Inner e → Elements rest → Elements (bracket :: (e ++ rest))

/-! ### Elements are scanned -/

theorem scanData_cons {state state' : DataState} {b : UInt8} (h : state.next b = some state') (rest : Bytes) :
    scanData state (b :: rest) = (fun r => (b :: r.1, r.2)) <$> scanData state' rest := by
  rw [scanData, h]

/-- What is scanned behind `p`. -/
def behind (p : Bytes) (r : Bytes × Bytes) : Bytes × Bytes := (p ++ r.1, r.2)

theorem scanData_behind {state state' : DataState} {b : UInt8} {p rest : Bytes} {r : Option (Bytes × Bytes)}
    (h : state.next b = some state') (hrest : scanData state' rest = behind p <$> r) :
    scanData state (b :: rest) = behind (b :: p) <$> r := by
  rw [scanData_cons h, hrest]
  cases r with
  | none => rfl
  | some r => rfl

/-- A value is scanned up to the quote that closes it. -/
theorem scanData_value {v : Bytes} (h : Value v) (rest : Bytes) :
    scanData .quoted (v ++ rest) = behind v <$> scanData .inside rest := by
  induction h with
  | close => exact scanData_cons rfl rest
  | plain hquote hbackslash hvalue ih =>
    exact scanData_behind (by rw [DataState.next, if_neg hbackslash, if_neg hquote]) ih
  | hidden hvalue ih => exact scanData_behind rfl (scanData_behind rfl ih)

/-- An element is scanned up to the bracket that closes it. -/
theorem scanData_inner {e : Bytes} (h : Inner e) (rest : Bytes) :
    scanData .inside (e ++ rest) = behind e <$> scanData .outside rest := by
  induction h with
  | close => exact scanData_cons rfl rest
  | plain hquote hbracket hinner ih =>
    exact scanData_behind (by rw [DataState.next, if_neg hquote, if_neg hbracket]) ih
  | @value v rest' hvalue hinner ih =>
    have hscan : scanData .quoted (v ++ (rest' ++ rest)) = behind (v ++ rest') <$> scanData .outside rest := by
      rw [scanData_value hvalue, ih]
      cases scanData .outside rest with
      | none => rfl
      | some r => simp only [behind, Option.map_eq_map, Option.map_some, List.append_assoc]
    rw [List.cons_append, List.append_assoc]
    exact scanData_behind rfl hscan

/-- **Elements are scanned up to what follows them.** -/
theorem scanData_elements {d : Bytes} (h : Elements d) {rest : Bytes} (hrest : rest.head? ≠ some bracket) :
    scanData .outside (d ++ rest) = some (d, rest) := by
  have hend : scanData .outside rest = some ([], rest) := by
    cases rest with
    | nil => rfl
    | cons b rest =>
      have hb : b ≠ bracket := fun hb => hrest (congrArg some hb)
      rw [scanData, DataState.next, if_neg hb]
  induction h with
  | @one e hinner =>
    have hscan : scanData .outside (bracket :: (e ++ rest)) = behind (bracket :: e) <$> scanData .outside rest :=
      scanData_behind rfl (scanData_inner hinner rest)
    rw [List.cons_append, hscan, hend]
    simp only [behind, Option.map_eq_map, Option.map_some, List.append_nil]
  | @more e d hinner hmore ih =>
    have hscan : scanData .outside (bracket :: (e ++ (d ++ rest))) =
        behind (bracket :: e) <$> scanData .outside (d ++ rest) :=
      scanData_behind rfl (scanData_inner hinner (d ++ rest))
    rw [List.cons_append, List.append_assoc, hscan, ih]
    rfl

/-! ### Nothing else is -/

/-- What has been scanned from a state on. -/
def Scanned : DataState → Bytes → Prop
  | .outside, d => d = [] ∨ Elements d
  | .inside, d => ∃ e r, d = e ++ r ∧ Inner e ∧ (r = [] ∨ Elements r)
  | .quoted, d => ∃ v e r, d = v ++ (e ++ r) ∧ Value v ∧ Inner e ∧ (r = [] ∨ Elements r)
  | .hidden, d => ∃ b v e r, d = b :: (v ++ (e ++ r)) ∧ Value v ∧ Inner e ∧ (r = [] ∨ Elements r)

/-- A byte more. -/
theorem Scanned.cons {state state' : DataState} {b : UInt8} {d : Bytes} (hnext : state.next b = some state')
    (h : Scanned state' d) : Scanned state (b :: d) := by
  cases state with
  | outside =>
    rw [DataState.next] at hnext
    split at hnext
    case isFalse => cases hnext
    case isTrue hb =>
      obtain rfl := Option.some.inj hnext
      obtain ⟨e, r, rfl, hinner, hr | hr⟩ := h
      · rw [hr, List.append_nil, hb]
        exact Or.inr (.one hinner)
      · rw [hb]
        exact Or.inr (.more hinner hr)
  | inside =>
    obtain rfl := Option.some.inj hnext
    split at h
    case isTrue hb =>
      obtain ⟨v, e, r, rfl, hvalue, hinner, hr⟩ := h
      rw [hb]
      exact ⟨quote :: (v ++ e), r, by rw [List.cons_append, List.append_assoc], .value hvalue hinner, hr⟩
    case isFalse hquote =>
      split at h
      case isTrue hb =>
        rw [hb]
        exact ⟨[closingBracket], d, rfl, .close, h⟩
      case isFalse hbracket =>
        obtain ⟨e, r, rfl, hinner, hr⟩ := h
        exact ⟨b :: e, r, rfl, .plain hquote hbracket hinner, hr⟩
  | quoted =>
    obtain rfl := Option.some.inj hnext
    split at h
    case isTrue hb =>
      obtain ⟨c, v, e, r, rfl, hvalue, hinner, hr⟩ := h
      rw [hb]
      exact ⟨backslash :: c :: v, e, r, rfl, .hidden hvalue, hinner, hr⟩
    case isFalse hbackslash =>
      split at h
      case isTrue hb =>
        obtain ⟨e, r, rfl, hinner, hr⟩ := h
        rw [hb]
        exact ⟨[quote], e, r, rfl, .close, hinner, hr⟩
      case isFalse hquote =>
        obtain ⟨v, e, r, rfl, hvalue, hinner, hr⟩ := h
        exact ⟨b :: v, e, r, rfl, .plain hquote hbackslash hvalue, hinner, hr⟩
  | hidden =>
    obtain rfl := Option.some.inj hnext
    obtain ⟨v, e, r, rfl, hvalue, hinner, hr⟩ := h
    exact ⟨b, v, e, r, rfl, hvalue, hinner, hr⟩

/-- **What is scanned has the right shape, and the rest is left.** -/
theorem of_scanData {state : DataState} {bytes data after : Bytes} (h : scanData state bytes = some (data, after)) :
    bytes = data ++ after ∧ Scanned state data := by
  induction bytes generalizing state data with
  | nil =>
    rw [scanData] at h
    split at h
    case isFalse => cases h
    case isTrue hstate =>
      cases h
      rw [hstate]
      exact ⟨rfl, Or.inl rfl⟩
  | cons b rest ih =>
    rw [scanData] at h
    split at h
    case h_1 state' hnext =>
      cases hrest : scanData state' rest with
      | none => rw [hrest] at h; cases h
      | some r =>
        rw [hrest] at h
        cases h
        obtain ⟨heq, hscanned⟩ := ih hrest
        exact ⟨by rw [heq]; rfl, hscanned.cons hnext⟩
    case h_2 hnext =>
      cases h
      refine ⟨rfl, ?_⟩
      cases state with
      | outside => exact Or.inl rfl
      | _ => cases hnext

/-- **Structured data are what is scanned with nothing left over.** -/
theorem elements_iff (d : Bytes) : Elements d ↔ d ≠ [] ∧ scanData .outside d = some (d, []) := by
  constructor
  · intro h
    have hscan : scanData .outside (d ++ []) = some (d, []) := scanData_elements h fun hnil => nomatch hnil
    rw [List.append_nil] at hscan
    refine ⟨?_, hscan⟩
    cases h with
    | one => exact List.cons_ne_nil _ _
    | more => exact List.cons_ne_nil _ _
  · rintro ⟨hne, hscan⟩
    exact (of_scanData hscan).2.resolve_left hne

end Logbook.Syslog
