import Logbook.Proofs.Path

/-!
# Beside a file

A file is replaced by way of another one in the same folder, whose path is that of the file with another extension.  The
folder is reached by a beginning of the path of the file.  For each name but one kind, the other path names another file
in the folder; where a name has a dot for its stem, as `..a` has, the other path leads above the folder.

## Main definitions

* `Path.stem` — the name of a file without its extension.

## Main results

* `Path.way_parent_join` — what the path of the folder that a file lies in passes.
* `Path.withExtension_join` — **another extension is another file in the same folder.**
* `Path.goal_withExtension_ne` — in no case it is the same place.
-/

namespace Logbook.Path

variable {name new : String}

/-! ### The folder -/

/-- The path of the folder that a path lies in is a beginning of it. -/
theorem parent_isPrefix (path : String) : (parent path).toList <+: path.toList := by
  rcases hsplit : splitLast path with ⟨front, last⟩
  obtain ⟨happend, -, -⟩ := splitLast_spec hsplit
  have hsuffix : dropTail front <:+ path.toList.reverse :=
    ((dropTail_suffix front).trans (List.suffix_append last front)).trans (happend ▸ dropTail_suffix _)
  rw [parent, hsplit]
  simp only []
  split
  · exact List.nil_prefix
  · split
    · split
      · rename_i habsolute
        rw [isAbsolute, decide_eq_true_iff] at habsolute
        obtain ⟨rest, hrest⟩ := List.head?_eq_some_iff.1 habsolute
        exact ⟨rest, hrest.symm⟩
      · exact List.nil_prefix
    · rw [String.toList_ofList, ← List.reverse_suffix, List.reverse_reverse]
      exact hsuffix

theorem parent_join (h : IsPart name) (folder : String) :
    parent (join folder name) = match dropTail (before folder).reverse with
      | [] => if isAbsolute folder then "/" else ""
      | chars => String.ofList chars.reverse := by
  have hname : name.toList.reverse ≠ [] := fun hnil =>
    h.empty (String.toList_eq_nil_iff.1 (List.reverse_eq_nil_iff.1 hnil))
  rw [parent, splitLast_join h]
  cases hdrop : dropTail (before folder).reverse with
  | nil => simp only [if_neg hname, hdrop, isAbsolute_join h]
  | cons c chars => simp only [if_neg hname, hdrop]

theorem parts_parent_join (h : IsPart name) (folder : String) : parts (parent (join folder name)) = parts folder := by
  have hparts := parts_dropTail (before folder).reverse
  rw [List.reverse_reverse, parts_before] at hparts
  rw [parent_join h]
  split
  · rename_i hnil
    rw [hnil, List.reverse_nil, parts_nil] at hparts
    rw [← hparts]
    split <;> rfl
  · exact hparts

theorem start_parent_join (h : IsPart name) (folder : String) : start (parent (join folder name)) = start folder := by
  rw [parent_join h]
  split
  · rw [start, start]
    split <;> rfl
  · rename_i hne
    have hsuffix : dropTail (before folder).reverse <:+ (String.ofList (before folder)).toList.reverse := by
      rw [String.toList_ofList]
      exact dropTail_suffix _
    rw [start_ofList_reverse hne hsuffix, start, isAbsolute_before, start]

/-- **The path of the folder that a file lies in passes what the path does that the file is named below.** -/
theorem way_parent_join (h : IsPart name) (folder : String) : way (parent (join folder name)) = way folder := by
  rw [way, start_parent_join h, parts_parent_join h, way]

theorem dropTail_ne_slash (chars rest : List Char) : dropTail chars ≠ '/' :: rest := by
  fun_induction dropTail chars with
  | case1 rest' ih => exact ih
  | case2 => exact (List.cons_ne_nil _ _).symm
  | case3 rest' _ ih => exact ih
  | case4 chars hslash _ _ => exact fun heq => hslash _ heq

/-- What is left of a path ends in a dot that stands alone only if it is that dot. -/
theorem eq_dot_of_endsInDot {chars : List Char} (h : endsInDot (String.ofList (dropTail chars).reverse) = true) :
    dropTail chars = ['.'] := by
  have hslash := dropTail_ne_slash chars
  have hdot := dropTail_ne chars
  generalize dropTail chars = left at h hslash hdot
  rw [endsInDot, decide_eq_true_iff, pieces, String.toList_ofList] at h
  by_cases hmem : '/' ∈ left
  · obtain ⟨last, front, rfl, hlast⟩ := List.eq_append_cons_of_mem hmem
    have hne : String.ofList last.reverse ≠ "" := by
      intro hempty
      obtain rfl : last = [] := by simpa using hempty
      exact hslash front rfl
    have hlast' : '/' ∉ last.reverse := fun hmem => hlast (List.mem_reverse.1 hmem)
    have hkept : [String.ofList last.reverse].filter (fun piece => decide (piece ≠ "")) =
        [String.ofList last.reverse] := by simp [hne]
    rw [List.reverse_append, List.reverse_cons, List.append_assoc, List.singleton_append,
      List.splitOn_append_cons_self, List.splitOn_eq_singleton hlast', List.map_append, List.map_singleton,
      List.filter_append, hkept, List.getLast?_concat, Option.some.injEq] at h
    obtain rfl := eq_dot_of_ofList_reverse h
    exact absurd rfl (hdot front)
  · have hmem' : '/' ∉ left.reverse := fun h => hmem (List.mem_reverse.1 h)
    rw [List.splitOn_eq_singleton hmem', List.map_singleton] at h
    have hpiece := (List.mem_filter.1 (List.mem_of_getLast? h)).1
    exact eq_dot_of_ofList_reverse (List.mem_singleton.1 hpiece).symm

/-- The path of the folder that a file lies in ends in a dot that stands alone only if it is that dot. -/
theorem eq_dot_of_endsInDot_parent (h : IsPart name) {folder : String}
    (hdot : endsInDot (parent (join folder name)) = true) : parent (join folder name) = "." := by
  rw [parent_join h] at hdot ⊢
  split at hdot
  · split at hdot <;> exact absurd hdot (by decide)
  · rw [eq_dot_of_endsInDot hdot]
    rfl

/-! ### Another extension -/

/-- The name of a file without its extension. -/
def stem (name : String) : String := String.ofList (splitName name.toList.reverse).1.reverse

/-- The extension of a name, without the dot before it. -/
def extension (name : String) : String := String.ofList (splitName name.toList.reverse).2.reverse

/-- The name of a file with another extension. -/
def renamed (name new : String) : String := stem name ++ "." ++ new

/-- A name is its own stem, or a dot and an extension follow the stem. -/
theorem splitName_cases (chars : List Char) :
    splitName chars = (chars, []) ∨ ∃ old stem, stem ≠ [] ∧ '.' ∉ old ∧ chars = old ++ '.' :: stem ∧
      splitName chars = (stem, old) := by
  have hsplit : chars.takeWhile (· ≠ '.') ++ chars.dropWhile (· ≠ '.') = chars := List.takeWhile_append_dropWhile
  rw [splitName]
  split
  · exact Or.inl rfl
  · exact Or.inl rfl
  · rename_i c stem hne hdrop
    obtain rfl := eq_of_dropWhile hdrop
    rw [hdrop] at hsplit
    exact Or.inr ⟨_, stem, hne rfl, notMem_takeWhile, hsplit.symm, rfl⟩

/-- What ends in a dot has no extension. -/
theorem splitName_dot {stem : List Char} (h : stem ≠ []) : splitName ('.' :: stem) = (stem, []) := by
  rw [splitName, List.dropWhile_cons_of_neg (by simp), List.takeWhile_cons_of_neg (by simp)]
  split
  · rename_i heq
    cases heq
  · rename_i heq
    exact absurd (List.cons.inj heq).2 h
  · rename_i heq
    rw [(List.cons.inj heq).2]

theorem isName_of_plain (h : IsPlain name) : isName name.toList.reverse = true := by
  obtain ⟨hempty, hdot, hdots⟩ := h.part
  have hne (text : String) (hne : name ≠ text) : name.toList.reverse ≠ text.toList.reverse := fun heq =>
    hne (String.toList_inj.1 (List.reverse_inj.1 heq))
  have := hne _ hempty
  have := hne _ hdot
  have := hne _ hdots
  simp_all [isName]

/-- A name is its own stem and has no extension, or it is made of both and the dot between them. -/
theorem name_cases (h : IsPlain name) : stem name ≠ "" ∧ '.' ∉ (extension name).toList ∧
    (stem name = name ∧ extension name = "" ∨
      name.toList = (stem name).toList ++ '.' :: (extension name).toList) := by
  rcases splitName_cases name.toList.reverse with hsplit | ⟨old, front, hne, hold, hname, hsplit⟩
  · have hstem : stem name = name := by rw [stem, hsplit, List.reverse_reverse, String.ofList_toList]
    have hextension : extension name = "" := by rw [extension, hsplit]; rfl
    rw [hstem, hextension]
    exact ⟨h.part.1, List.not_mem_nil, Or.inl ⟨rfl, rfl⟩⟩
  · rw [stem, extension, hsplit]
    refine ⟨by simpa using hne, by simpa using hold, Or.inr ?_⟩
    rw [← List.reverse_inj, hname]
    simp

/-- What begins with a name and goes on with a dot is a name as well. -/
theorem isPlain_append_dot {front : String} (hempty : front ≠ "") (hdot : front ≠ ".") (rest : String)
    (hslash : '/' ∉ (front ++ "." ++ rest).toList) : IsPlain (front ++ "." ++ rest) := by
  rw [ne_eq, ← String.toList_inj] at hempty hdot
  refine ⟨hslash, ?_, ?_, ?_⟩
  all_goals
    intro heq
    have hchars := congrArg String.toList heq
    rw [String.toList_append, String.toList_append] at hchars
    rcases hfront : front.toList with _ | ⟨c, _ | ⟨d, more⟩⟩ <;> simp_all

/-- Another extension makes another name, unless the stem is a dot. -/
theorem isPlain_renamed (h : IsPlain name) (hstem : stem name ≠ ".") (hslash : '/' ∉ new.toList) :
    IsPlain (renamed name new) := by
  obtain ⟨hempty, -, hcases⟩ := name_cases h
  have hfront : '/' ∉ (stem name).toList := by
    rcases hcases with ⟨heq, -⟩ | hname
    · rw [heq]
      exact h.slash
    · have hslash := h.slash
      rw [hname, List.mem_append, not_or] at hslash
      exact hslash.1
  exact isPlain_append_dot hempty hstem new (by simp [hfront, hslash])

/-- An extension in which there is a dot is never the old one. -/
theorem renamed_ne (h : IsPlain name) (hdot : '.' ∈ new.toList) : renamed name new ≠ name := by
  intro hsame
  have hchars := congrArg String.toList hsame
  rw [renamed, String.toList_append, String.toList_append, List.append_assoc] at hchars
  obtain ⟨-, hold, ⟨heq, -⟩ | hname⟩ := name_cases h
  · rw [heq] at hchars
    simpa using List.append_right_eq_self.1 hchars
  · rw [hname] at hchars
    have hnew : new.toList = (extension name).toList := (List.cons.inj (List.append_cancel_left hchars)).2
    exact hold (hnew ▸ hdot)

/-- What is set as the extension stands in the place of the old one. -/
theorem setExtension_join (h : IsPlain name) (hrenamed : IsPlain (renamed name new)) (folder : String) :
    setExtension (join folder name) new = join folder (renamed name new) := by
  rw [setExtension, splitLast_join h.isPart, join_eq hrenamed.isPart, renamed, stem]
  simp only [isName_of_plain h, if_true]
  simp only [List.reverse_append, List.reverse_reverse, String.ofList_append, String.ofList_toList, String.append_assoc]

/-- Behind the stem there is nothing, or a dot and the extension.  The extension is taken off first. -/
theorem withExtension_join_eq (h : IsPlain name) {cut : String} (hcut : IsPart cut)
    (hname : name.toList = cut.toList ++ (extension name).toList) (folder : String) :
    withExtension (join folder name) new = setExtension (join folder cut) new := by
  have hold : (splitName name.toList.reverse).2.length = (extension name).toList.length := by simp [extension]
  rw [withExtension, splitLast_join h.isPart]
  simp only [isName_of_plain h, if_true]
  congr 1
  rw [hold, join_eq h.isPart, join_eq hcut, String.length_ofList, String.toList_ofList, hname, ← List.append_assoc,
    List.length_append, Nat.add_sub_cancel, List.take_left]

/-- **Another extension is another file in the same folder.** -/
theorem withExtension_join (h : IsPlain name) (hstem : stem name ≠ ".") (hslash : '/' ∉ new.toList)
    (folder : String) : withExtension (join folder name) new = join folder (renamed name new) := by
  have hrenamed := isPlain_renamed h hstem hslash
  obtain ⟨hempty, -, ⟨heq, hextension⟩ | hname⟩ := name_cases h
  · rw [withExtension_join_eq h h.isPart (by simp [hextension]), setExtension_join h hrenamed]
  · have hcut : IsPlain (stem name ++ ".") := by
      have hslash := h.slash
      rw [hname, List.append_cons, List.mem_append, not_or] at hslash
      simpa using isPlain_append_dot hempty hstem "" (by simpa using hslash.1)
    have hsame : renamed (stem name ++ ".") new = renamed name new := by
      have hreverse : (stem name).toList.reverse ≠ [] := by simpa using hempty
      rw [renamed, stem]
      simp [splitName_dot hreverse, renamed]
    rw [withExtension_join_eq h hcut.isPart (by simp [hname]), setExtension_join hcut, hsame]
    rw [hsame]
    exact hrenamed

theorem isPart_dots : IsPart ".." where
  slash := by decide
  empty := by decide
  dot := by decide

/-- Where the stem is a dot, what is left of the name leads above the folder and stays as it is. -/
theorem withExtension_join_dot (h : IsPlain name) (hstem : stem name = ".") (folder : String) :
    withExtension (join folder name) new = join folder ".." := by
  obtain ⟨-, -, ⟨heq, -⟩ | hname⟩ := name_cases h
  · exact absurd (heq.symm.trans hstem) h.part.2.1
  · rw [withExtension_join_eq h isPart_dots (by simp [hname, hstem]), setExtension, splitLast_join isPart_dots]
    exact if_neg (by decide)

theorem length_above_le (location : List String) : (above location).length ≤ location.length := by
  rw [above]
  split
  · split
    · exact Nat.le_refl _
    · simp
  · exact Nat.le_refl _

/-- **The path with another extension leads to another place.** -/
theorem goal_withExtension_ne (h : IsPlain name) (hslash : '/' ∉ new.toList) (hdot : '.' ∈ new.toList)
    (folder : String) : goal (withExtension (join folder name) new) ≠ goal (join folder name) := by
  rw [goal_join h]
  by_cases hstem : stem name = "."
  · rw [withExtension_join_dot h hstem, goal, start_join isPart_dots, parts_join isPart_dots, List.foldl_append, ← goal]
    intro heq
    have hlength := congrArg List.length heq
    have habove := length_above_le (goal folder)
    rw [List.length_append, List.length_singleton] at hlength
    rw [List.foldl_cons, List.foldl_nil, turn, if_pos rfl] at hlength
    omega
  · rw [withExtension_join h hstem hslash, goal_join (isPlain_renamed h hstem hslash)]
    intro heq
    exact renamed_ne h hdot (List.singleton_inj.1 (List.append_cancel_left heq))

end Logbook.Path
