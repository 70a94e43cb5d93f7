import Logbook.Proofs.StateFile
import Mathlib.Data.List.Induction

/-!
# Saving and loading

What has been saved is loaded again, wherever the file is.  So a document that has been written by hand is brought into
one form when its roster is saved: the form has no more to it than which source each name has, and in the document that
is the source that the name is given last.

## Main results

* `Roster.find?_of_ofJson?` — in a document that is accepted, a name has the source that it is given last.
* `StateFile.document_eq_iff` — rosters with the same sources have the same document.
* `StateFile.content_save` — a roster that has been saved is in the file.
* `StateFile.load_save` — **what has been saved is loaded again.**
-/

namespace Logbook

/-! ### Repeated members -/

theorem SortedMap.ofEntries_concat {κ α : Type} [Ord κ] [Std.TransOrd κ] (l : List (κ × α)) (e : κ × α) :
    ofEntries (l ++ [e]) = (ofEntries l).insert e.1 e.2 := by
  rw [ofEntries, ofEntries, List.foldl_append, List.foldl_cons, List.foldl_nil]

namespace Json

variable {α : Type} {value? : Json → Option α} {members : List (Option String × Json)} {m : SortedMap String α}

/-- In an object, a name has the value that it is given last. -/
theorem find?_of_map? (h : map? value? (.object members) = some m) (name : String) :
    m.find? name = (members.reverse.lookup (some name)).bind value? := by
  obtain ⟨entries, hentries, heq⟩ := Option.bind_eq_some_iff.1 h
  obtain rfl : SortedMap.ofEntries entries = m := Option.some.inj heq
  clear h heq
  -- on the members from the last one backward, as each replaces those before it
  induction members using List.reverseRecOn generalizing entries with
  | nil =>
    obtain rfl := Option.some.inj hentries
    exact SortedMap.find?_empty name
  | append_singleton members member ih =>
    obtain ⟨key, value⟩ := member
    rw [List.mapM_append] at hentries
    obtain ⟨front, hfront, hentries⟩ := Option.bind_eq_some_iff.1 hentries
    obtain ⟨last, hlast, hentries⟩ := Option.bind_eq_some_iff.1 hentries
    obtain rfl : front ++ last = entries := Option.some.inj hentries
    rw [List.mapM_cons] at hlast
    obtain ⟨e, hmember, hlast⟩ := Option.bind_eq_some_iff.1 hlast
    obtain rfl : [e] = last := Option.some.inj hlast
    obtain ⟨given, rfl, hmember⟩ := Option.bind_eq_some_iff.1 hmember
    obtain ⟨a, hvalue, hmember⟩ := Option.bind_eq_some_iff.1 hmember
    obtain rfl : (given, a) = e := Option.some.inj hmember
    rw [SortedMap.ofEntries_concat, List.reverse_append, List.reverse_singleton, List.singleton_append,
      List.lookup_cons]
    by_cases hname : name = given
    · subst hname
      rw [SortedMap.find?_insert_self, beq_self_eq_true]
      exact hvalue.symm
    · rw [SortedMap.find?_insert_of_ne hname, ih front hfront,
        beq_false_of_ne fun heq => hname (Option.some.inj heq)]

/-- A known field has the one value that it is given, or the one that it had. -/
theorem Fields.lookup_of_addMembers {names : List String} {present present' : List (String × Json)}
    (h : addMembers names present members = some present') {name : String} (hname : name ∈ names) :
    present'.lookup name = (present.lookup name).or (members.lookup (some name)) := by
  induction members generalizing present with
  | nil =>
    obtain rfl := Option.some.inj h
    exact (Option.or_none).symm
  | cons member rest ih =>
    obtain ⟨key, value⟩ := member
    cases key with
    | none => cases h
    | some given =>
      rw [addMembers] at h
      rw [List.lookup_cons]
      split at h
      · rename_i hunknown
        rw [ih h, beq_false_of_ne]
        rintro heq
        exact hunknown (Option.some.inj heq ▸ hname)
      · split at h
        · cases h
        · rename_i hnone
          rw [ih h, List.lookup_cons]
          by_cases heq : name = given
          · subst heq
            rw [Option.not_isSome_iff_eq_none.1 hnone, beq_self_eq_true, beq_self_eq_true]
            rfl
          · rw [beq_false_of_ne heq, beq_false_of_ne fun h => heq (Option.some.inj h)]

end Json

/-! ### Rosters that are read -/

namespace Roster

variable {members logs : List (Option String × Json)} {r : Roster}

/-- **In a document that is accepted, a name has the source that it is given last**, whatever else the document
holds. -/
theorem find?_of_ofJson? (h : Roster.ofJson? (.object members) = some r)
    (hlogs : members.lookup (some "logs") = some (.object logs)) (name : String) :
    r.find? name = (logs.reverse.lookup (some name)).bind Feed.ofJson? := by
  obtain ⟨fields, hfields, h⟩ := Option.bind_eq_some_iff.1 h
  obtain ⟨present, hpresent, rfl⟩ := Option.map_eq_some_iff.1 hfields
  have hlookup := Json.Fields.lookup_of_addMembers hpresent (List.mem_singleton_self "logs")
  rw [List.lookup_nil, Option.none_or, hlogs] at hlookup
  rw [Json.Fields.orElse, Json.Fields.find?, hlookup] at h
  exact Json.find?_of_map? h name

end Roster

namespace StateFile

open Disk

variable {r r' : Roster} {path : String} {trouble : Option Trouble} {d d' : Disk}

/-- **The document of a roster has no more to it than which source each name has.** -/
theorem document_eq_iff : document r = document r' ↔ ∀ name, r.find? name = r'.find? name := by
  constructor
  · intro h name
    have hread := read_document r
    rw [h, read_document r'] at hread
    rw [Option.some.inj hread]
  · intro h
    rw [SortedMap.ext_find? h]

/-! ### Saving and loading -/

/-- From a file without content no roster is loaded. -/
theorem load_ne_ok_of_content (h : d.content path = .ok []) : load path d ≠ .ok r := by
  have hread : Json.read [] = none := rfl
  rw [load, h]
  simp only [hread]
  intro hload
  cases hload

/-- A roster is loaded from a file that holds its document. -/
theorem load_of_content (h : d.content path = .ok (document r)) : load path d = .ok r := by
  rw [load, h]
  simp only [read_document]

/-- A draft that a device takes in comes to nothing. -/
theorem content_of_draftOps_device (hdevice : d.node? (Path.goal (draft path)) = some .device)
    (h : d.performAll trouble (draftOps path r) = (.ok (), d')) : d'.content (draft path) = .ok [] := by
  obtain ⟨made, created, before, hgains, hcreate, hbefore, happend⟩ := exists_draft h
  have hmade : made.node? (Path.goal (draft path)) = some .device := by
    refine (hgains.node?_eq fun _ => ?_).trans hdevice
    rw [hdevice]
    exact nofun
  -- the device takes in first nothing and then the document
  obtain rfl := eq_of_putFile hcreate hmade
  obtain rfl := eq_of_putFile happend hmade
  rw [content_eq (putFile_cases hcreate).1 (asksForFolder_of_putFile hcreate), hmade]

/-- Wherever a roster has been saved, it is in the file, or nothing is. -/
theorem content_save_cases (h : save path r trouble d = (.ok (), d')) :
    d'.content path = .ok (document r) ∨ d'.content path = .ok [] := by
  obtain ⟨result, moved, hsave, hresult⟩ := exists_save path r trouble d
  rw [h] at hsave
  obtain ⟨rfl, rfl⟩ := Prod.mk.inj hsave
  obtain ⟨made, hdraft, hmove⟩ := hresult
  rw [content_of_moveFile hmove]
  by_cases hdevice : d.node? (Path.goal (draft path)) = some .device
  · exact Or.inr (content_of_draftOps_device hdevice hdraft)
  · exact Or.inl (content_of_draftOps hdevice hdraft).1

/-- A roster that has been saved is in the file, unless a device took in the draft. -/
theorem content_save (hdevice : d.node? (Path.goal (draft path)) ≠ some .device)
    (h : save path r trouble d = (.ok (), d')) : d'.content path = .ok (document r) := by
  obtain ⟨result, moved, hsave, hresult⟩ := exists_save path r trouble d
  rw [h] at hsave
  obtain ⟨rfl, rfl⟩ := Prod.mk.inj hsave
  obtain ⟨made, hdraft, hmove⟩ := hresult
  rw [content_of_moveFile hmove]
  exact (content_of_draftOps hdevice hdraft).1

/-- **What has been saved is loaded again.**

Saving a roster leaves its document where the path leads, unless a device took in the draft.  From a file that holds the
document the roster is loaded again; and if it had been loaded from some other document, however that was written, it is
loaded like it.  The document is determined by which source each name has. -/
theorem load_save (r : Roster) :
    (∀ path trouble d d', d.node? (Path.goal (draft path)) ≠ some .device → save path r trouble d = (.ok (), d') →
      d'.content path = .ok (document r)) ∧
    (∀ path d, d.content path = .ok (document r) → load path d = .ok r) ∧
    (∀ source before path d, load source before = .ok r → d.content path = .ok (document r) →
      load path d = load source before) ∧
    ∀ r' : Roster, document r' = document r ↔ ∀ name, r'.find? name = r.find? name :=
  ⟨fun _ _ _ _ => content_save, fun _ _ => load_of_content,
    fun _ _ _ _ hbefore hcontent => (load_of_content hcontent).trans hbefore.symm, fun _ => document_eq_iff⟩

/-- A document that was written by hand, with a field that is unknown, a name that is given twice, and characters in all
ways in which they can be written. -/
theorem load_save_handwritten :
    let text := "\t\x7b\"more\": [1.5e3, null], \"logs\": \x7b\"w\\u0065b\": \x7b\"source\": \"x\"\x7d,\n" ++
      "\"\\ud83d\\ude00\\\"\": \x7b\"source\": \"\\u0001\\\\\", \"since\": true\x7d, " ++
      "\"web\":\x7b\"source\":\"y\"\x7d\x7d \x7d"
    let d : Disk := (Disk.blank.put ["home"] .folder).put ["home", "logd.json"] (.file (Utf8.encode text))
    let r : Roster := (SortedMap.empty.insert "web" ⟨"y"⟩).insert "😀\"" ⟨"\x01\\"⟩
    ∃ d', load "home/logd.json" d = .ok r ∧ save "home/logd.json" r none d = (.ok (), d') ∧
      d'.content "home/logd.json" = .ok (document r) ∧ load "home/logd.json" d' = load "home/logd.json" d := by
  intro text d r
  have hload : load "home/logd.json" d = .ok r := by decide +kernel
  have hdevice : d.node? (Path.goal (draft "home/logd.json")) ≠ some .device := by decide +kernel
  have hsave : save "home/logd.json" r none d = (.ok (), (save "home/logd.json" r none d).2) :=
    Prod.ext (by decide +kernel) rfl
  obtain ⟨hsaved, -, hloaded, -⟩ := load_save r
  have hcontent := hsaved _ _ _ _ hdevice hsave
  exact ⟨_, hload, hsave, hcontent, hloaded _ _ _ _ hload hcontent⟩

end StateFile

end Logbook
