import Logbook.Disk
import Logbook.Roster

/-!
# The state file

The roster outlives the collector in a file.  A new roster is written beside the file first and then
moved over it, so whatever happens on the way, the file holds the old roster or the new one.

## Main definitions

* `StateFile.load` — the roster that a file holds.
* `StateFile.saveOps` — the operations of saving.
* `StateFile.save` — the disk after saving.
-/

namespace Logbook.StateFile

/-- The document of a roster. -/
def document (r : Roster) : Bytes := Utf8.encode (r.toJson.write .indented)

/-- The roster that a file holds; a file that is missing holds the empty one. -/
def load (path : String) (d : Disk) : Except CollectorError Roster :=
  match d.content path with
  | .ok content =>
    match Json.read content >>= Roster.ofJson? with
    | some roster => .ok roster
    | none => .error (.state "not a roster of logs")
  | .error .notFound => .ok .empty
  | .error error => .error (.io error.message)

/-- The path that a new document is written to first. -/
def draft (path : String) : String := Path.withExtension path "json.tmp"

/-- The operations that save a roster. -/
def saveOps (path : String) (r : Roster) : List Disk.Op :=
  [.makeFolders (Path.parent path), .create (draft path), .append (draft path) (document r),
   .sync (draft path), .rename (draft path) path]

/-- Saves a roster. -/
def save (path : String) (r : Roster) (trouble : Option Disk.Trouble) (d : Disk) :
    Except CollectorError Unit × Disk :=
  let (result, d) := d.performAll trouble (saveOps path r)
  (result.mapError fun error => .io error.message, d)

end Logbook.StateFile
