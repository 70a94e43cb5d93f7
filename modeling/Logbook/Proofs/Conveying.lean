import Logbook.Json.Record
import Logbook.Proofs.Document
import Logbook.Proofs.SortedMap

/-!
# Values that documents convey

A document conveys a value to a reader if it is read as the value and holds no numbers but natural ones, for then it is
read back from its own text.  Texts and words are conveyed whatever they hold, and an array, a map or a
value that may be missing conveys its parts.  What is missing is written as `null`, so the reader must not take `null` for
anything else.

## Main definitions

* `Json.Conveys` — a document conveys a value to a reader.

## Main results

* `Json.Conveys.readText` — **what is conveyed is read back from its text on one line.**
* `Json.conveys_word`, `Json.conveys_array`, `Json.conveys_option`, `Json.conveys_map` — the parts of records.
-/

namespace Logbook

namespace Json

variable {α : Type} {j : Json} {value? : Json → Option α} {f : α → Json} {a : α}

/-- A document conveys a value to a reader. -/
structure Conveys (j : Json) (value? : Json → Option α) (a : α) : Prop where
  /-- All numbers in it are natural. -/
  spelt : j.IsSpelt
  /-- The reader finds the value. -/
  read : value? j = some a

/-- **What is conveyed is read back from its text.** -/
theorem Conveys.readText (h : Conveys j value? a) : (readText j.compact >>= value?) = some a := by
  rw [Json.readText, compact, read_write h.spelt]
  exact h.read

/-! ### Simple values -/

theorem conveys_string (text : String) : Conveys (.string text) text? text := ⟨trivial, rfl⟩

theorem conveys_word (n : UInt64) : Conveys (.ofNat n.toNat) word? n where
  spelt := ⟨n.toNat, rfl⟩
  read := by
    have hread : Decimal.below? wordBound (Decimal.natural n.toNat) = some n.toNat := Decimal.below?_natural n.toNat_lt
    show (Decimal.below? wordBound (Decimal.natural n.toNat)).map UInt64.ofNat = some n
    rw [hread, Option.map_some, UInt64.ofNat_toNat]

theorem conveys_array (h : ∀ a, Conveys (f a) value? a) (l : List α) : Conveys (.array (l.map f)) (list? value?) l where
  spelt := by
    show AreSpelt (l.map f)
    induction l with
    | nil => trivial
    | cons a l ih => exact ⟨(h a).spelt, ih⟩
  read := by
    show (l.map f).mapM value? = some l
    induction l with
    | nil => rfl
    | cons a l ih =>
      rw [List.map_cons, List.mapM_cons, (h a).read, ih]
      rfl

/-- What may be missing is conveyed to a reader that does not take `null` for anything. -/
theorem conveys_option_map {g : α → α} {o : Option α} (hnull : value? .null = none)
    (h : ∀ a ∈ o, Conveys (f a) value? (g a)) : Conveys (.ofOption f o) (nullable? value?) (o.map g) := by
  cases o with
  | none => exact ⟨trivial, rfl⟩
  | some a =>
    obtain ⟨hspelt, hread⟩ := h a rfl
    have hne : f a ≠ .null := by
      intro heq
      rw [heq, hnull] at hread
      cases hread
    refine ⟨hspelt, ?_⟩
    rw [ofOption, nullable?, hread]
    · rfl
    · exact hne

theorem conveys_option {o : Option α} (hnull : value? .null = none) (h : ∀ a ∈ o, Conveys (f a) value? a) :
    Conveys (.ofOption f o) (nullable? value?) o := by
  simpa using conveys_option_map (g := fun a => a) hnull h

theorem conveys_map (h : ∀ a, Conveys (f a) value? a) (m : SortedMap String α) :
    Conveys (.ofFields (m.entries.map fun e => (e.1, f e.2))) (map? value?) m where
  spelt := by
    show AreMembersSpelt ((m.entries.map fun e => (e.1, f e.2)).map fun e => (some e.1, e.2))
    induction m.entries with
    | nil => trivial
    | cons e l ih => exact ⟨(h e.2).spelt, ih⟩
  read := by
    have hmembers (l : List (String × α)) :
        ((l.map fun e => (e.1, f e.2)).map fun e => (some e.1, e.2)).mapM
          (fun m : Option String × Json => do
            let name ← m.1
            let value ← value? m.2
            return (name, value)) = some l := by
      induction l with
      | nil => rfl
      | cons e l ih =>
        rw [List.map_cons, List.map_cons, List.mapM_cons, ih, (h e.2).read]
        rfl
    rw [ofFields, map?, hmembers]
    exact congrArg some m.ofEntries_entries

end Json

end Logbook
