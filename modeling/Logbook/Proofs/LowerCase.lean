import Logbook.Text.LowerCase
import Mathlib.Data.List.Basic

/-!
# Lower case of a part of a text

A character has one lower-case form wherever it stands, but for the capital sigma: whether that ends a word is decided
by the nearest characters on its two sides that case rules do not skip.  So a part of a text is lowered as it would be
alone, unless there is a sigma in it for which they lie outside of the part.

## Main definitions

* `LowerCase.lowerIn` — the lower-case form of a part of a text.
* `LowerCase.decisive?` — whether the nearest character that decides is a letter with case.
* `LowerCase.Settled` — every capital sigma of a text is decided within it.

## Main results

* `LowerCase.lowerIn_congr` — which sigmas end a word is all that a part takes from what stands around it.
* `LowerCase.infix_lower_iff` — **which texts are found, in lower case, wherever they stand.**
-/

namespace Logbook.LowerCase

/-! ### Parts of a text -/

/-- The lower-case form of a part of a text, between what comes before it, nearest first, and what comes after. -/
def lowerIn (before : List Char) (part after : List Char) : List Char :=
  match part with
  | [] => []
  | c :: rest =>
    (if c = capitalSigma then [if isFinal before (rest ++ after) then 'ς' else 'σ'] else lowerChar c) ++
      lowerIn (c :: before) rest after

@[simp] theorem lowerIn_nil (before after : List Char) : lowerIn before [] after = [] := rfl

@[simp] theorem lowerIn_a (before after : List Char) : lowerIn before ['a'] after = ['a'] := rfl

theorem lowerFrom_eq_lowerIn (before text : List Char) : lowerFrom before text = lowerIn before text [] := by
  induction text generalizing before with
  | nil => rfl
  | cons c rest ih =>
    rw [lowerFrom, lowerIn, ih, List.append_nil]
    split <;> rfl

theorem lower_eq_lowerIn (text : List Char) : lower text = lowerIn [] text [] := lowerFrom_eq_lowerIn [] text

/-- The parts of a part are lowered between each other. -/
theorem lowerIn_append (before part part' after : List Char) :
    lowerIn before (part ++ part') after =
      lowerIn before part (part' ++ after) ++ lowerIn (part.reverse ++ before) part' after := by
  induction part generalizing before with
  | nil => rfl
  | cons c rest ih =>
    rw [List.cons_append, lowerIn, lowerIn, ih, List.append_assoc, List.append_assoc, List.reverse_cons,
      List.append_assoc]
    rfl

/-- A text is lowered part by part. -/
theorem lower_around (before part after : List Char) :
    lower (before ++ part ++ after) =
      lowerIn [] before (part ++ after) ++ lowerIn before.reverse part after ++
        lowerIn (part.reverse ++ before.reverse) after [] := by
  simp [lower_eq_lowerIn, lowerIn_append]

/-- **Which sigmas end a word is all that a part takes from what stands around it.** -/
theorem lowerIn_congr {before before' part after after' : List Char}
    (h : ∀ front back, part = front ++ capitalSigma :: back →
      isFinal (front.reverse ++ before) (back ++ after) = isFinal (front.reverse ++ before') (back ++ after')) :
    lowerIn before part after = lowerIn before' part after' := by
  induction part generalizing before before' with
  | nil => rfl
  | cons c rest ih =>
    have hrest : lowerIn (c :: before) rest after = lowerIn (c :: before') rest after' := by
      apply ih
      rintro front back rfl
      simpa using h (c :: front) back rfl
    rw [lowerIn, lowerIn, hrest]
    by_cases hc : c = capitalSigma
    · have hfinal := h [] rest (by rw [hc]; rfl)
      rw [List.reverse_nil, List.nil_append, List.nil_append] at hfinal
      rw [hfinal]
    · rw [if_neg hc, if_neg hc]

theorem lowerIn_of_notMem {part : List Char} (h : capitalSigma ∉ part) (before before' after after' : List Char) :
    lowerIn before part after = lowerIn before' part after' := by
  apply lowerIn_congr
  rintro front back rfl
  simp at h

/-! ### What decides about a sigma -/

/-- Whether the first character that case rules do not skip is a letter with case, if there is one. -/
def decisive? (chars : List Char) : Option Bool :=
  (chars.find? fun c => !Unicode.isCaseIgnorable c).map Unicode.isCased

theorem meetsCased_eq (chars : List Char) : meetsCased chars = (decisive? chars).getD false := by
  induction chars with
  | nil => rfl
  | cons c rest ih =>
    rw [meetsCased, decisive?, List.find?_cons]
    split
    · next hc => simpa [hc, decisive?] using ih
    · next hc => simp [hc]

theorem decisive?_append (chars chars' : List Char) :
    decisive? (chars ++ chars') = (decisive? chars).or (decisive? chars') := by
  rw [decisive?, decisive?, decisive?, List.find?_append]
  cases chars.find? _ with
  | none => rfl
  | some c => rfl

/-- A capital sigma decides itself. -/
theorem decisive?_sigma (chars : List Char) : decisive? (capitalSigma :: chars) = some true := by
  have hignorable : Unicode.isCaseIgnorable capitalSigma = false := by decide +kernel
  have hcased : Unicode.isCased capitalSigma = true := by decide +kernel
  rw [decisive?, List.find?_cons_of_pos (by rw [hignorable]; rfl), Option.map_some, hcased]

theorem decisive?_a : decisive? ['a'] = some true := by decide +kernel

theorem sigma_notMem_of_decisive? {chars : List Char} (h : decisive? chars = none) : capitalSigma ∉ chars := by
  intro hmem
  obtain ⟨front, back, rfl⟩ := List.append_of_mem hmem
  rw [decisive?_append, decisive?_sigma] at h
  cases hfront : decisive? front <;> simp [hfront] at h

theorem isFinal_eq (before after : List Char) :
    isFinal before after = ((decisive? before).getD false && !(decisive? after).getD false) := by
  rw [isFinal, meetsCased_eq, meetsCased_eq]

/-- What stands on the two sides of a capital sigma decides whether it ends a word, whatever is further away. -/
def Decides (before after : List Char) : Prop :=
  decisive? before = some false ∨ decisive? after = some true ∨
    (decisive? before).isSome = true ∧ (decisive? after).isSome = true

theorem Decides.isFinal_append {before after : List Char} (h : Decides before after) (farther farther' : List Char) :
    isFinal (before ++ farther) (after ++ farther') = isFinal before after := by
  simp only [isFinal_eq, decisive?_append]
  unfold Decides at h
  cases hbefore : decisive? before <;> cases hafter : decisive? after <;> simp_all

/-- Every capital sigma of a text is decided within the text. -/
def Settled (text : List Char) : Prop :=
  ∀ front back, text = front ++ capitalSigma :: back → Decides front.reverse back

/-- A text whose sigmas are decided within it is lowered alike everywhere. -/
theorem Settled.lowerIn_eq {text : List Char} (h : Settled text) (before after : List Char) :
    lowerIn before text after = lower text := by
  rw [lower_eq_lowerIn]
  apply lowerIn_congr
  intro front back hsplit
  rw [(h front back hsplit).isFinal_append, List.append_nil, List.append_nil]

/-- What is further away than a capital sigma does not matter. -/
theorem lowerIn_sigma_before (part after before before' : List Char) :
    lowerIn (capitalSigma :: before) part after = lowerIn (capitalSigma :: before') part after := by
  apply lowerIn_congr
  intro front back _
  simp only [isFinal_eq, decisive?_append, decisive?_sigma]

theorem lowerIn_sigma_after (before part after after' : List Char) :
    lowerIn before part (capitalSigma :: after) = lowerIn before part (capitalSigma :: after') := by
  apply lowerIn_congr
  intro front back _
  simp only [isFinal_eq, decisive?_append, decisive?_sigma]

/-- The form of a capital sigma between what comes before and after it. -/
def sigmaIn (before after : List Char) : Char := if isFinal before after then 'ς' else 'σ'

/-- What stands on the two sides of a capital sigma is lowered without regard to what is beyond the sigma. -/
theorem lowerIn_sigma (before front back after : List Char) :
    lowerIn before (front ++ capitalSigma :: back) after =
      lowerIn before front [capitalSigma] ++
        sigmaIn (front.reverse ++ before) (back ++ after) :: lowerIn [capitalSigma] back after := by
  rw [lowerIn_append, List.cons_append, lowerIn_sigma_after _ _ _ [], ← lowerIn_sigma_before back after _ []]
  rfl

/-- A text does not hold another one in which a character occurs more often. -/
theorem not_infix_of_exchange {c d : Char} (hne : d ≠ c) (front back : List Char) {before after : List Char}
    (hbefore : c ∉ before) (hafter : c ∉ after) :
    ¬ front ++ c :: back <:+: before ++ (front ++ d :: back) ++ after := by
  intro hinfix
  have hcount := hinfix.sublist.count_le c
  simp only [List.count_append, List.count_cons_self, List.count_cons_of_ne hne, List.count_eq_zero.2 hbefore,
    List.count_eq_zero.2 hafter] at hcount
  omega

/-- A letter in front makes a sigma end a word, where nothing between them decides. -/
theorem not_infix_of_undecided_before {front back : List Char} (hfront : decisive? front.reverse = none)
    (hback : decisive? back ≠ some true) :
    ¬ lower (front ++ capitalSigma :: back) <:+: lower (['a'] ++ (front ++ capitalSigma :: back) ++ []) := by
  have hnone : capitalSigma ∉ front := by simpa using sigma_notMem_of_decisive? hfront
  have hno : (decisive? back).getD false = false := by
    cases hcase : decisive? back with
    | none => rfl
    | some cased => simpa [hcase] using hback
  have halone : sigmaIn front.reverse back = 'σ' := by simp [sigmaIn, isFinal_eq, hfront]
  have hword : sigmaIn (front.reverse ++ ['a']) back = 'ς' := by
    simp [sigmaIn, isFinal_eq, decisive?_append, decisive?_a, hfront, hno]
  rw [lower_around, lower_eq_lowerIn, lowerIn_sigma, lowerIn_sigma]
  simp only [List.append_nil, List.reverse_singleton, halone, hword]
  rw [lowerIn_of_notMem hnone ['a'] [] _ [capitalSigma]]
  exact not_infix_of_exchange (by decide) _ _ (by simp) (by simp)

/-- A letter behind makes a sigma end no word, where nothing between them decides. -/
theorem not_infix_of_undecided_after {front back : List Char} (hfront : decisive? front.reverse = some true)
    (hback : decisive? back = none) :
    ¬ lower (front ++ capitalSigma :: back) <:+: lower ([] ++ (front ++ capitalSigma :: back) ++ ['a']) := by
  have hnone : capitalSigma ∉ back := sigma_notMem_of_decisive? hback
  have halone : sigmaIn front.reverse back = 'ς' := by simp [sigmaIn, isFinal_eq, hfront, hback]
  have hword : sigmaIn front.reverse (back ++ ['a']) = 'σ' := by
    simp [sigmaIn, isFinal_eq, decisive?_append, decisive?_a, hback]
  rw [lower_around, lower_eq_lowerIn, lowerIn_sigma, lowerIn_sigma]
  simp only [List.append_nil, List.reverse_nil, halone, hword]
  rw [lowerIn_of_notMem hnone _ _ ['a'] []]
  exact not_infix_of_exchange (by decide) _ _ (by simp) (by simp)

/-- **Which texts are found, in lower case, wherever they stand.** -/
theorem infix_lower_iff {text : List Char} :
    (∀ whole, text <:+: whole → lower text <:+: lower whole) ↔ Settled text := by
  constructor
  · intro hfound front back hsplit
    by_contra hundecided
    subst hsplit
    cases hfront : decisive? front.reverse with
    | none =>
      have hback : decisive? back ≠ some true := fun hback => hundecided (Or.inr (Or.inl hback))
      exact not_infix_of_undecided_before hfront hback (hfound _ (List.infix_append _ _ _))
    | some cased =>
      cases cased with
      | false => exact hundecided (Or.inl hfront)
      | true =>
        cases hback : decisive? back with
        | none =>
          exact not_infix_of_undecided_after hfront hback (hfound _ (List.infix_append _ _ _))
        | some cased => exact hundecided (Or.inr (Or.inr (by simp [hfront, hback])))
  · rintro hsettled whole ⟨before, after, rfl⟩
    rw [lower_around, hsettled.lowerIn_eq]
    exact List.infix_append _ _ _

end Logbook.LowerCase
