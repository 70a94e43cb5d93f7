import Logbook.Diagnostics.Directive
import Logbook.Disk
import Logbook.Settings.Diagnostics
import Logbook.Time.Writing

/-!
# Installing diagnostics

Diagnostics are installed once in the life of the program.  What can be wrong with their settings is found
out before that, and the file that they go to is opened.

## Main definitions

* `DiagnosticsError` — why diagnostics are not installed.
* `FileOutput.open` — the file that diagnostics go to.
* `DiagnosticsSettings.install` — all steps in their order.
-/

namespace Logbook

/-- Why diagnostics are not installed. -/
inductive DiagnosticsError
  /-- A level or the directive of a target is not valid. -/
  | invalidDirective (directive : String)
  /-- The file cannot be opened. -/
  | file (reason : String)
  /-- Diagnostics are installed already. -/
  | alreadyInstalled
  deriving DecidableEq, Repr

/-- The wording of an error. -/
def DiagnosticsError.message : DiagnosticsError → String
  | .invalidDirective directive => s!"Invalid filter directive: {directive}"
  | .file reason => s!"Failed to open log file: {reason}"
  | .alreadyInstalled =>
    "Global subscriber already set: a global default trace dispatcher has already been set"

namespace FileOutput

/-- The part of the name of a file that tells when it was begun. -/
def period (rotation : Rotation) (now : Instant) : List Char :=
  let day := Stamp.writeDate (.ofDays (now.seconds / secondsPerDay))
  match rotation with
  | .hourly => day ++ '-' :: Decimal.fixed 2 ((now.seconds % secondsPerDay).toNat / 3600)
  | _ => day

/-- The name of the file that is begun at a time. -/
def nameAt (f : FileOutput) (now : Instant) : String :=
  let ending := String.ofList (period f.rotation now) ++ ".log"
  if f.stem = "" then ending else f.stem ++ "." ++ ending

/-- The names of the files that were begun before, oldest first. -/
def olderFiles (f : FileOutput) (d : Disk) : List String :=
  match d.entries f.folder with
  | .error _ => []
  | .ok names => names.filter fun name =>
    match d.content (Path.join f.folder name) with
    | .ok _ => f.stem.toList.isPrefixOf name.toList && "log".toList.isSuffixOf name.toList
    | .error _ => false

/-- Removes the oldest files, so that there is room for one more.  A greatest number of zero is none at
all. -/
def prune (f : FileOutput) (d : Disk) : Disk :=
  match f.maxFiles with
  | none | some 0 => d
  | some most =>
    let older := f.olderFiles d
    (older.take (older.length + 1 - most.toNat)).foldl
      (fun d name => d.clear (Path.join f.folder name)) d

/-- Opens a file to add to it, with the folders that it needs. -/
def openToAppend (path : String) (d : Disk) : Except DiskError Unit × Disk :=
  match d.content path with
  | .ok _ => (.ok (), d)
  | .error _ => match d.perform (.makeFolders (Path.parent path)) with
    | (.error error, d) => (.error error, d)
    | (.ok (), d) => match d.content path with
      | .ok _ => (.ok (), d)
      | .error .notFound => d.perform (.create path)
      | .error error => (.error error, d)

/-- Opens the file that diagnostics go to: one that is emptied where no file is ever begun anew, and else
one that is named for the time. -/
def «open» (f : FileOutput) (now : Instant) (d : Disk) : Except DiskError Unit × Disk :=
  match d.perform (.makeFolders f.folder) with
  | (.error error, d) => (.error error, d)
  | (.ok (), d) => match f.rotation with
    | .never => d.perform (.create f.singlePath)
    | _ => openToAppend (Path.join f.folder (f.nameAt now)) (f.prune d)

end FileOutput

namespace DiagnosticsSettings

/-- The first directive that is not valid; the level of all parts comes before those of targets. -/
def invalidDirective? (s : DiagnosticsSettings) : Option String :=
  if !Directive.areValid s.level then some s.level
  else s.directives.find? fun directive => !Directive.isValid directive

/-- Installs diagnostics: the directives are read, the file is opened, and then it turns out whether
diagnostics are there already. -/
def install (s : DiagnosticsSettings) (installed : Bool) (now : Instant) (d : Disk) :
    Except DiagnosticsError Unit × Disk :=
  match s.invalidDirective? with
  | some directive => (.error (.invalidDirective directive), d)
  | none =>
    let (opened, d) := match s.file with
      | some f => f.open now d
      | none => (.ok (), d)
    match opened with
    | .error error => (.error (.file error.message), d)
    | .ok () => (if installed then .error .alreadyInstalled else .ok (), d)

end DiagnosticsSettings

end Logbook
