import Logbook.Path
import Mathlib.Data.List.Basic

/-!
# Where paths below a folder lead

A path below a folder passes what the path of the folder passes, and then one location more.  The path of the
folder that a path lies in passes nothing that the path itself does not pass before its end.

## Main definitions

* `Path.IsPart`, `Path.IsPlain` — single parts of a path, and names of files.

## Main results

* `Path.way_join`, `Path.goal_join` — what a path below a folder passes.
* `Path.way_parent_subset` — what the path of the folder that a path lies in passes.
-/

namespace Logbook.Path

/-- A text that stands between the slashes of a path and leads somewhere. -/
structure IsPart (name : String) : Prop where
  /-- No slash stands in it. -/
  slash : '/' ∉ name.toList
  /-- It is not empty. -/
  empty : name ≠ ""
  /-- It is no dot that stands alone. -/
  dot : name ≠ "."

/-- A text that names a file in a folder. -/
structure IsPlain (name : String) : Prop where
  /-- A name is no path. -/
  slash : '/' ∉ name.toList
  /-- A name leads to something. -/
  part : name ≠ "" ∧ name ≠ "." ∧ name ≠ ".."

theorem IsPlain.isPart {name : String} (h : IsPlain name) : IsPart name := ⟨h.slash, h.part.1, h.part.2.1⟩

/-! ### Pieces and parts -/

/-- The parts of a path that is given by its characters. -/
theorem parts_ofList (chars : List Char) :
    parts (String.ofList chars) =
      ((chars.splitOn '/').map String.ofList).filter fun part => part ≠ "" && part ≠ "." := by
  rw [parts, pieces, String.toList_ofList]

/-- A slash ends a part. -/
theorem parts_append_slash (before after : List Char) :
    parts (String.ofList (before ++ '/' :: after)) =
      parts (String.ofList before) ++ parts (String.ofList after) := by
  rw [parts_ofList, parts_ofList, parts_ofList, List.splitOn_append_cons_self, List.map_append,
    List.filter_append]

@[simp] theorem parts_nil : parts (String.ofList []) = [] := rfl

/-- A path that ends in a dot asks for a folder. -/
theorem asksForFolder_of_endsInDot {path : String} (h : endsInDot path = true) : asksForFolder path = true := by
  rw [endsInDot, decide_eq_true_iff] at h
  rw [asksForFolder]
  split
  · rename_i last hlast
    obtain ⟨rest, hrest⟩ := List.getLast?_eq_some_iff.1 hlast
    by_cases hempty : last = ""
    · simp [hempty]
    · have hkept : [last].filter (fun piece => decide (piece ≠ "")) = [last] := by simp [hempty]
      rw [hrest, List.filter_append, hkept, List.getLast?_concat, Option.some.injEq] at h
      simp [h]
  · rfl

theorem parts_of_part {name : String} (h : IsPart name) : parts name = [name] := by
  rw [parts, pieces, List.splitOn_eq_singleton h.slash, List.map_singleton, String.ofList_toList]
  simp [h.empty, h.dot]

/-- What is dropped from the end of a path holds no part. -/
theorem parts_dropTail (chars : List Char) :
    parts (String.ofList (dropTail chars).reverse) = parts (String.ofList chars.reverse) := by
  fun_induction dropTail chars with
  | case1 rest ih => rw [ih, List.reverse_cons, parts_append_slash, parts_nil, List.append_nil]
  | case2 => rfl
  | case3 rest _ ih =>
    have hdot : parts (String.ofList ['.']) = [] := rfl
    rw [ih, List.reverse_cons, List.reverse_cons, List.reverse_cons, List.append_assoc, List.singleton_append,
      parts_append_slash, parts_append_slash, hdot, parts_nil]
  | case4 => rfl

/-- What is left of a path is a beginning of it. -/
theorem dropTail_suffix (chars : List Char) : dropTail chars <:+ chars := by
  fun_induction dropTail chars with
  | case1 rest ih => exact ih.trans (List.suffix_cons _ _)
  | case2 => exact List.nil_suffix
  | case3 rest _ ih => exact ih.trans (List.suffix_cons _ _)
  | case4 => exact List.suffix_rfl

/-! ### Paths below a folder -/

/-- What stands before the name in a path below a folder. -/
def before (folder : String) : List Char :=
  if folder.toList = [] ∨ folder.toList.getLast? = some '/' then folder.toList else folder.toList ++ ['/']

variable {name : String}

theorem not_isAbsolute_of_part (h : IsPart name) : isAbsolute name = false := by
  rw [isAbsolute, decide_eq_false_iff_not]
  exact fun hhead => h.slash (List.mem_of_head? hhead)

theorem join_eq (h : IsPart name) (folder : String) :
    join folder name = String.ofList (before folder ++ name.toList) := by
  rw [join, if_neg (by simp [not_isAbsolute_of_part h]), before]
  split
  · rw [String.ofList_append, String.ofList_toList, String.ofList_toList]
  · rw [String.ofList_append, String.ofList_append, String.ofList_toList, String.ofList_toList]

/-- What stands before the name is empty or ends in a slash. -/
theorem before_cases (folder : String) : before folder = [] ∨ ∃ chars, before folder = chars ++ ['/'] := by
  rw [before]
  split
  · rename_i h
    exact h.imp id List.getLast?_eq_some_iff.1
  · exact Or.inr ⟨folder.toList, rfl⟩

theorem parts_before (folder : String) : parts (String.ofList (before folder)) = parts folder := by
  rw [before]
  split
  · rw [String.ofList_toList]
  · rw [parts_append_slash, parts_nil, List.append_nil, String.ofList_toList]

theorem isAbsolute_before (folder : String) : isAbsolute (String.ofList (before folder)) = isAbsolute folder := by
  rw [before]
  split
  · rw [String.ofList_toList]
  · rename_i h
    rw [isAbsolute, isAbsolute, String.toList_ofList, List.head?_append_of_ne_nil _ fun hnil => h (Or.inl hnil)]

theorem parts_join (h : IsPart name) (folder : String) : parts (join folder name) = parts folder ++ [name] := by
  rw [join_eq h, ← parts_before folder]
  rcases before_cases folder with hnil | ⟨chars, hchars⟩
  · rw [hnil, List.nil_append, String.ofList_toList, parts_of_part h, parts_nil, List.nil_append]
  · rw [hchars, List.append_assoc, List.singleton_append, parts_append_slash, parts_append_slash, parts_nil,
      List.append_nil, String.ofList_toList, parts_of_part h]

theorem isAbsolute_join (h : IsPart name) (folder : String) :
    isAbsolute (join folder name) = isAbsolute folder := by
  rw [join_eq h, ← isAbsolute_before folder]
  rcases before_cases folder with hnil | ⟨chars, hchars⟩
  · rw [hnil, List.nil_append, String.ofList_toList, not_isAbsolute_of_part h]
    rfl
  · rw [isAbsolute, isAbsolute, String.toList_ofList, String.toList_ofList,
      List.head?_append_of_ne_nil _ (by simp [hchars])]

theorem start_join (h : IsPart name) (folder : String) : start (join folder name) = start folder := by
  rw [start, start, isAbsolute_join h]

theorem asksForFolder_join (h : IsPart name) (folder : String) : asksForFolder (join folder name) = false := by
  have hlast : (pieces (join folder name)).getLast? = some name := by
    rw [join_eq h, pieces, String.toList_ofList]
    rcases before_cases folder with hnil | ⟨chars, hchars⟩
    · rw [hnil, List.nil_append, List.splitOn_eq_singleton h.slash, List.map_singleton, String.ofList_toList]
      rfl
    · rw [hchars, List.append_assoc, List.singleton_append, List.splitOn_append_cons_self,
        List.splitOn_eq_singleton h.slash, List.map_append, List.map_singleton, String.ofList_toList,
        List.getLast?_concat]
  rw [asksForFolder, hlast]
  simp [h.empty, h.dot]

/-! ### The way -/

theorem wayFrom_append (folder : List String) (parts more : List String) :
    wayFrom folder (parts ++ more) = wayFrom folder parts ++ wayFrom (parts.foldl turn folder) more := by
  induction parts generalizing folder with
  | nil => rfl
  | cons part parts ih => rw [List.cons_append, wayFrom, wayFrom, ih]; rfl

/-- The last location that is passed is the goal. -/
theorem mem_wayFrom {folder location : List String} {parts : List String} (h : location ∈ wayFrom folder parts) :
    location ∈ (wayFrom folder parts).dropLast ∨ location = parts.foldl turn folder := by
  induction parts generalizing folder with
  | nil => cases h
  | cons part rest ih =>
    cases rest with
    | nil => exact Or.inr (List.mem_singleton.1 h)
    | cons part' rest =>
      rw [wayFrom, List.dropLast_cons_of_ne_nil (by simp [wayFrom]), List.foldl_cons, List.mem_cons]
      rw [wayFrom] at h
      rcases List.mem_cons.1 h with rfl | h
      · exact Or.inl (Or.inl rfl)
      · exact (ih h).imp Or.inr id

/-- A path that is made of parts passes its goal. -/
theorem goal_mem_way {path : String} (h : parts path ≠ []) : goal path ∈ way path := by
  rw [way, goal, ← List.dropLast_append_getLast h, wayFrom_append, List.foldl_append, List.mem_append]
  exact Or.inr List.mem_cons_self

theorem wayFrom_subset {folder : List String} {parts more : List String} (h : parts <+: more) :
    wayFrom folder parts ⊆ wayFrom folder more := by
  obtain ⟨rest, rfl⟩ := h
  rw [wayFrom_append]
  exact List.subset_append_left _ _

theorem turn_of_plain (h : IsPlain name) (folder : List String) : turn folder name = folder ++ [name] :=
  if_neg h.part.2.2

/-- A path below a folder leads into the folder. -/
theorem goal_join (h : IsPlain name) (folder : String) : goal (join folder name) = goal folder ++ [name] := by
  rw [goal, start_join h.isPart, parts_join h.isPart, List.foldl_append, goal]
  exact turn_of_plain h _

/-- **A path below a folder passes one location more than the path of the folder.** -/
theorem way_join (h : IsPlain name) (folder : String) :
    way (join folder name) = way folder ++ [goal folder ++ [name]] := by
  rw [way, start_join h.isPart, parts_join h.isPart, wayFrom_append, way, wayFrom, wayFrom, turn_of_plain h, goal]

/-! ### The folder that a path lies in -/

/-- The end of a name stays. -/
theorem dropTail_append (h : IsPart name) (front : List Char) :
    dropTail (name.toList.reverse ++ front) = name.toList.reverse ++ front := by
  have hslash : '/' ∉ name.toList.reverse := fun hmem => h.slash (List.mem_reverse.1 hmem)
  cases hname : name.toList.reverse with
  | nil => exact absurd (String.toList_eq_nil_iff.1 (List.reverse_eq_nil_iff.1 hname)) h.empty
  | cons c rest =>
    rw [hname, List.mem_cons, not_or] at hslash
    rw [List.cons_append]
    refine dropTail.eq_4 _ (fun _ heq => hslash.1 (List.cons.inj heq).1.symm) (fun heq => ?_) fun _ heq => ?_
    all_goals
      -- the name would be a dot that stands alone
      obtain ⟨rfl, htail⟩ := List.cons.inj heq
      cases rest with
      | nil =>
        refine h.dot (String.toList_inj.1 ?_)
        rw [← List.reverse_reverse name.toList, hname]
        rfl
      | cons d rest =>
        obtain ⟨rfl, -⟩ := List.cons.inj htail
        exact hslash.2 List.mem_cons_self

/-- The last part of a path below a folder is the name. -/
theorem splitLast_append (h : IsPart name) (folder : String) :
    splitLast (String.ofList (before folder ++ name.toList)) =
      ((before folder).reverse, name.toList.reverse) := by
  have hlast : ∀ c ∈ name.toList.reverse, decide (c ≠ '/') = true := by
    intro c hc
    rw [decide_eq_true_iff]
    rintro rfl
    exact h.slash (List.mem_reverse.1 hc)
  rw [splitLast, String.toList_ofList, List.reverse_append, dropTail_append h]
  rw [List.dropWhile_append_of_pos hlast, List.takeWhile_append_of_pos hlast]
  rcases before_cases folder with hnil | ⟨chars, hchars⟩
  · simp [hnil]
  · simp [hchars]

theorem splitLast_join (h : IsPart name) (folder : String) :
    splitLast (join folder name) = ((before folder).reverse, name.toList.reverse) := by
  rw [join_eq h, splitLast_append h]

theorem dropTail_ne (chars rest : List Char) : dropTail chars ≠ '.' :: '/' :: rest := by
  fun_induction dropTail chars with
  | case1 rest' ih => exact ih
  | case2 => exact nofun
  | case3 rest' _ ih => exact ih
  | case4 chars _ _ hdot => exact fun heq => hdot _ heq

theorem notMem_takeWhile {c : Char} {chars : List Char} : c ∉ chars.takeWhile (· ≠ c) := by
  intro hmem
  have := List.all_eq_true.1 List.all_takeWhile _ hmem
  simp at this

theorem eq_of_dropWhile {c d : Char} {chars rest : List Char} (h : chars.dropWhile (· ≠ c) = d :: rest) : d = c := by
  have hd := List.head?_dropWhile_not (· ≠ c) chars
  rw [h] at hd
  simpa using hd

/-- A path ends in its last part, which no slash stands in and which is no dot that stands alone behind a slash. -/
theorem splitLast_spec {path : String} {front last : List Char} (h : splitLast path = (front, last)) :
    last ++ front = dropTail path.toList.reverse ∧ '/' ∉ last ∧ (front = [] ∨ ∃ chars, front = '/' :: chars) := by
  rw [splitLast] at h
  obtain ⟨rfl, rfl⟩ := Prod.mk.inj h
  refine ⟨List.takeWhile_append_dropWhile, notMem_takeWhile, ?_⟩
  cases hfront : (dropTail path.toList.reverse).dropWhile (· ≠ '/') with
  | nil => exact Or.inl rfl
  | cons c chars => exact Or.inr ⟨chars, by rw [eq_of_dropWhile hfront]⟩

theorem eq_dot_of_ofList_reverse {chars : List Char} (h : String.ofList chars.reverse = ".") : chars = ['.'] := by
  have hchars := congrArg String.toList h
  rw [String.toList_ofList] at hchars
  exact List.reverse_eq_iff.1 hchars

/-- What a path ends in behind a slash is a part. -/
theorem parts_last {path : String} {chars last : List Char} (h : splitLast path = ('/' :: chars, last))
    (hne : last ≠ []) : parts (String.ofList last.reverse) = [String.ofList last.reverse] := by
  obtain ⟨happend, hslash, -⟩ := splitLast_spec h
  have hdot : String.ofList last.reverse ≠ "." := by
    intro heq
    rw [eq_dot_of_ofList_reverse heq] at happend
    exact dropTail_ne _ _ happend.symm
  refine parts_of_part ⟨?_, fun hempty => hne ?_, hdot⟩
  · rw [String.toList_ofList]
    exact fun hmem => hslash (List.mem_reverse.1 hmem)
  · rw [← String.toList_eq_nil_iff, String.toList_ofList] at hempty
    exact List.reverse_eq_nil_iff.1 hempty

/-- A beginning of a path starts where the path does. -/
theorem start_ofList_reverse {path : String} {chars : List Char} (hne : chars ≠ [])
    (hsuffix : chars <:+ path.toList.reverse) : start (String.ofList chars.reverse) = start path := by
  rw [← List.reverse_prefix, List.reverse_reverse] at hsuffix
  obtain ⟨rest, hrest⟩ := hsuffix
  have habs : isAbsolute (String.ofList chars.reverse) = isAbsolute path := by
    rw [isAbsolute, isAbsolute, String.toList_ofList, ← hrest,
      List.head?_append_of_ne_nil _ fun hnil => hne (List.reverse_eq_nil_iff.1 hnil)]
  rw [start, start, habs]

/-- **The path of the folder that a path lies in passes what the path itself does, but for its end.** -/
theorem way_parent_subset (path : String) : way (parent path) ⊆ (way path).dropLast := by
  have hparts := parts_dropTail path.toList.reverse
  have hsuffix := dropTail_suffix path.toList.reverse
  rw [List.reverse_reverse, String.ofList_toList] at hparts
  rcases hsplit : splitLast path with ⟨front, last⟩
  obtain ⟨happend, -, hfront⟩ := splitLast_spec hsplit
  rw [← happend] at hparts hsuffix
  rw [parent, hsplit]
  simp only []
  split
  · exact List.nil_subset _
  · rename_i hlast
    split
    · split <;> exact List.nil_subset _
    · rename_i hne
      obtain rfl | ⟨chars, rfl⟩ := hfront
      · -- nothing would be left of the folder
        exact absurd (by simp [dropTail]) hne
      have hname := parts_last hsplit hlast
      have hstart : start (String.ofList (dropTail ('/' :: chars)).reverse) = start path :=
        start_ofList_reverse hne (((dropTail_suffix _).trans (List.suffix_append _ _)).trans hsuffix)
      have hfolder := parts_dropTail ('/' :: chars)
      rw [List.reverse_cons, parts_append_slash, parts_nil, List.append_nil] at hfolder
      rw [List.reverse_append, List.reverse_cons, List.append_assoc, List.singleton_append, parts_append_slash,
        hname] at hparts
      -- the path is the folder's and one part more
      rw [way, way, hstart, hfolder, ← hparts, wayFrom_append, wayFrom, wayFrom, List.dropLast_concat]
      exact List.Subset.refl _

end Logbook.Path
