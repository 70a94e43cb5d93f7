import Logbook.Proofs.Conveying
import Logbook.StateFile

/-!
# Rosters in documents

## Main results

* `Roster.conveys` — a roster is conveyed by its value.
* `StateFile.read_document` — **a roster is read back from its document.**
-/

namespace Logbook

theorem Feed.conveys (f : Feed) : Json.Conveys f.toJson Feed.ofJson? f := ⟨⟨trivial, trivial⟩, rfl⟩

/-- A roster is conveyed by its value. -/
theorem Roster.conveys (r : Roster) : Json.Conveys r.toJson Roster.ofJson? r := by
  have hlogs := Json.conveys_map Feed.conveys r
  exact ⟨⟨hlogs.spelt, trivial⟩, hlogs.read⟩

/-- **A roster is read back from its document.** -/
theorem StateFile.read_document (r : Roster) :
    (Json.read (StateFile.document r) >>= Roster.ofJson?) = some r := by
  rw [document, Json.read_write r.conveys.spelt]
  exact r.conveys.read

end Logbook
