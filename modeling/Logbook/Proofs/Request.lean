import Logbook.Collector
import Logbook.Proofs.Cursor
import Logbook.Proofs.SortedMap

/-!
# What a request asks for

## Main results

* `LogName.checkAll_cases` — a list of names passes, or one of them is the error.
* `Crew.mem_pageLogs`, `Crew.nodup_pageLogs` — a page is made of the logs that are named, each once.
* `Collector.checkRequest_text` — a request goes on from the text of a cursor.
* `Collector.exists_find_of_getEvents` — what a page is made of.
-/

namespace Logbook

theorem LogName.checkAll_eq_ok_iff : ∀ {names : List String},
    checkAll names = .ok () ↔ ∀ name ∈ names, Valid name := by
  intro names
  induction names with
  | nil => exact iff_of_true rfl nofun
  | cons name rest ih =>
    rw [List.forall_mem_cons, ← ih, checkAll, check]
    by_cases hvalid : Valid name
    · rw [if_pos hvalid]
      exact (and_iff_right hvalid).symm
    · rw [if_neg hvalid]
      exact iff_of_false nofun fun h => hvalid h.1

/-- A list of names passes, or a name on it that can name no log is the error. -/
theorem LogName.checkAll_cases (names : List String) :
    (∀ name ∈ names, Valid name) ∧ checkAll names = .ok () ∨
      ∃ name ∈ names, ¬ Valid name ∧ checkAll names = .error (.invalidLogName name) := by
  induction names with
  | nil => exact Or.inl ⟨nofun, rfl⟩
  | cons name rest ih =>
    rw [checkAll, check]
    by_cases hvalid : Valid name
    · rw [if_pos hvalid]
      rcases ih with ⟨hrest, hok⟩ | ⟨bad, hbad, hinvalid, herror⟩
      · exact Or.inl ⟨List.forall_mem_cons.2 ⟨hvalid, hrest⟩, hok⟩
      · exact Or.inr ⟨bad, List.mem_cons_of_mem _ hbad, hinvalid, herror⟩
    · rw [if_neg hvalid]
      exact Or.inr ⟨name, List.mem_cons_self, hvalid, rfl⟩

/-! ### The logs of a page -/

namespace Crew

variable {c : Crew} {names : List String} {log : String}

theorem nodup_pageLogs (c : Crew) (names : List String) : (c.pageLogs names).Nodup := by
  cases names with
  | nil => exact SortedMap.nodup_keys _
  | cons name rest => exact SortedMap.nodup_keys _

/-- A page is made of the logs that are named. -/
theorem mem_pageLogs (hne : names ≠ []) : log ∈ c.pageLogs names ↔ log ∈ names := by
  cases names with
  | nil => exact absurd rfl hne
  | cons name rest =>
    have hnames : ((name :: rest).map fun name => (name, ())).map (·.1) = name :: rest := by
      rw [List.map_map]
      exact List.map_id _
    change log ∈ (SortedMap.ofEntries ((name :: rest).map fun name => (name, ()))).keys ↔ _
    rw [SortedMap.mem_keys_ofEntries, hnames]

theorem valid_of_mem_pageLogs (hnames : ∀ name ∈ names, LogName.Valid name)
    (hroster : names = [] → ∀ name ∈ c.roster.keys, LogName.Valid name)
    (hlog : log ∈ c.pageLogs names) : LogName.Valid log := by
  by_cases hnil : names = []
  · subst hnil
    exact hroster rfl log hlog
  · exact hnames log ((mem_pageLogs hnil).1 hlog)

end Crew

/-! ### Checks -/

namespace Collector

variable {s : CollectorSettings} {r : PageRequest} {search : Search}

/-- A request that passes is one with a good limit, a good cursor and good names. -/
theorem checkRequest_eq_ok_iff : checkRequest s r = .ok search ↔
    checkLimit s r.limit = .ok search.limit ∧ checkCursor r.cursor = .ok search.cursor ∧
      (∀ name ∈ r.logs, LogName.Valid name) ∧ search.logs = r.logs ∧ search.filter = r.filter := by
  rw [← LogName.checkAll_eq_ok_iff, checkRequest]
  obtain ⟨cursor, limit, logs, filter⟩ := search
  cases checkLimit s r.limit with
  | error error => exact iff_of_false nofun fun h => nomatch h.1
  | ok limit' =>
    cases checkCursor r.cursor with
    | error error => exact iff_of_false nofun fun h => nomatch h.2.1
    | ok cursor' =>
      cases LogName.checkAll r.logs with
      | error error => exact iff_of_false nofun fun h => nomatch h.2.2.1
      | ok _ =>
        constructor
        · intro h
          cases h
          exact ⟨rfl, rfl, rfl, rfl, rfl⟩
        · rintro ⟨hlimit, hcursor, -, rfl, rfl⟩
          cases hlimit
          cases hcursor
          rfl

theorem limit_pos {limit : Option UInt64} {n : Nat} (h : checkLimit s limit = .ok n) : 0 < n := by
  unfold checkLimit at h
  dsimp only at h
  split at h
  · cases h
  · next hlimit =>
    cases h
    exact Nat.pos_of_ne_zero fun hzero => hlimit (Or.inl hzero)

/-- A request goes on from the text of a cursor. -/
theorem checkRequest_text (h : checkRequest s r = .ok search) (c : Cursor) :
    checkRequest s { r with cursor := some c.text } = .ok { search with cursor := some c } := by
  obtain ⟨hlimit, -, hnames, hlogs, hfilter⟩ := checkRequest_eq_ok_iff.1 h
  refine checkRequest_eq_ok_iff.2 ⟨hlimit, ?_, hnames, hlogs, hfilter⟩
  change checkCursor (some c.text) = .ok (some c)
  rw [checkCursor, if_neg c.text_ne_empty, Cursor.parse_text]

/-- A page is what has been found in the logs, in the order of the identifiers and cut to the limit. -/
theorem exists_find_of_getEvents {c : Collector} {crew : Crew} {store : Store}
    (hphase : c.phase = .running crew store) {page : Page} (hpage : c.getEvents r = .ok page) :
    ∃ search t found, checkRequest c.settings r = .ok search ∧ store.table = .ok t ∧
      Page.find (fun _ => t) (Page.queryOf search.cursor search.limit search.filter)
        (crew.pageLogs search.logs) = .ok found ∧
      page = Page.ofEvents search.cursor search.limit found := by
  rw [getEvents] at hpage
  cases hcheck : checkRequest c.settings r with
  | error error =>
    rw [hcheck] at hpage
    cases hpage
  | ok search =>
    rw [hcheck, service, hphase] at hpage
    change (store.table.mapError CollectorError.store >>= _) = _ at hpage
    cases htable : store.table with
    | error error =>
      rw [htable] at hpage
      cases hpage
    | ok t =>
      rw [htable] at hpage
      change (Page.read (fun _ => t) (crew.pageLogs search.logs) search.cursor search.limit
        search.filter).mapError CollectorError.store = .ok page at hpage
      rw [Page.read] at hpage
      cases hfind : Page.find (fun _ => t) (Page.queryOf search.cursor search.limit search.filter)
          (crew.pageLogs search.logs) with
      | error error =>
        rw [hfind] at hpage
        cases hpage
      | ok found =>
        rw [hfind] at hpage
        cases hpage
        exact ⟨search, t, found, rfl, rfl, hfind, rfl⟩

end Collector

end Logbook
