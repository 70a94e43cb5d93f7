import Logbook.Path
import Logbook.Table

/-!
# The disk

As much of a file system as the collector relies on: folders, files, named pipes and databases at
locations, with operations that take place or fail.  One that fails leaves the disk as it was, except that
folders which were made on the way stay.

A path is followed part by part.  Each part but the last has to lead to a folder, also where the next one
leads back up.

## Main definitions

* `Disk` — what stands at which location.
* `Disk.locate`, `Disk.look` — where a path leads, and what stands there.
* `Disk.Op`, `Disk.perform` — the operations that change a disk.
* `Disk.interrupted` — what may be left of an operation that was cut off.
* `Disk.performAll` — a list of operations, up to the first that fails; `Disk.Trouble` makes one fail.
-/

namespace Logbook

/-- What stands at a location. -/
inductive Node
  /-- A folder. -/
  | folder
  /-- A file with its content. -/
  | file (content : Bytes)
  /-- A named pipe. -/
  | pipe
  /-- A device that takes in whatever is written to it and holds nothing. -/
  | device
  /-- A database with its table, which is missing while a store has the database open. -/
  | database (table : Option Table)
  deriving DecidableEq

/-- Why an operation on a disk fails. -/
inductive DiskError
  /-- Nothing stands at the location. -/
  | notFound
  /-- Something on the way to the location is no folder. -/
  | notFolder
  /-- Something stands at the location that the operation cannot be applied to. -/
  | occupied
  /-- Something else stands where a folder is to be made. -/
  | taken
  /-- The path holds a NUL. -/
  | unusablePath
  /-- The path or a part of it is too long. -/
  | nameTooLong
  /-- The device that the disk is on has failed. -/
  | device (reason : String)
  deriving DecidableEq, Repr

/-- The wording of a failure. -/
def DiskError.message : DiskError → String
  | .notFound => "No such file or directory"
  | .notFolder => "Not a directory"
  | .occupied => "Is a directory"
  | .taken => "File exists"
  | .unusablePath => "file name contained an unexpected NUL byte"
  | .nameTooLong => "File name too long"
  | .device reason => reason

/-- Why a folder cannot be made where a part of a path leads: what is no folder stands in its place. -/
def DiskError.inPlace : DiskError → DiskError
  | .notFolder => .taken
  | error => error

/-- A location, as the names on the way to it.  Locations are ordered by their depth first, so those of
different depths are told apart at once. -/
structure Spot where
  /-- The number of names. -/
  depth : Nat
  /-- The names. -/
  names : List String
  deriving DecidableEq

namespace Spot

/-- The spot at a location. -/
def of (location : List String) : Spot := ⟨location.length, location⟩

instance : Ord Spot := ⟨compareLex (compareOn depth) (compareOn names)⟩

instance : Std.TransOrd Spot :=
  inferInstanceAs (Std.TransCmp (compareLex (compareOn depth) (compareOn names)))

instance : Std.LawfulEqOrd Spot where
  eq_of_compare {a b} h := by
    have h : compareLex (compareOn depth) (compareOn names) a b = .eq := h
    obtain ⟨hd, hn⟩ : a.depth = b.depth ∧ a.names = b.names := by
      simpa [compareLex_eq_eq, compareOn] using h
    cases a
    cases b
    cases hd
    cases hn
    rfl

end Spot

/-- What stands at which location; the root and the folder where paths start always stand. -/
structure Disk where
  /-- The nodes at all other locations. -/
  nodes : SortedMap Spot Node
  deriving DecidableEq

namespace Disk

/-- The disk without files. -/
def blank : Disk := ⟨.empty⟩

/-- The greatest number of bytes in a part of a path. -/
def longestName : Nat := 255

/-- The greatest number of bytes in a path. -/
def longestPath : Nat := 4095

/-- What stands at a location. -/
def node? (d : Disk) (location : List String) : Option Node :=
  if location = [] ∨ location = ["/"] then some .folder else d.nodes.find? (.of location)

/-- The disk with another node at a location. -/
def put (d : Disk) (location : List String) (node : Node) : Disk :=
  ⟨d.nodes.insert (.of location) node⟩

/-- The disk without the node at a location. -/
def remove (d : Disk) (location : List String) : Disk := ⟨d.nodes.erase (.of location)⟩

/-! ### Following a path -/

/-- What is wrong with a path on any disk. -/
def fault (path : String) : Option DiskError :=
  if '\x00' ∈ path.toList then some .unusablePath
  else if longestPath < path.utf8ByteSize then some .nameTooLong
  else none

/-- The location that a part leads to from a folder, where nothing need stand. -/
def next (folder : List String) (part : String) : Except DiskError (List String) :=
  if longestName < part.utf8ByteSize then .error .nameTooLong else .ok (Path.turn folder part)

/-- The folder that a part leads to from a folder. -/
def enter (d : Disk) (folder : List String) (part : String) : Except DiskError (List String) := do
  let location ← next folder part
  match d.node? location with
  | some .folder => return location
  | some _ => throw .notFolder
  | none => throw .notFound

/-- The location that parts lead to from a folder, where nothing need stand. -/
def follow (d : Disk) (folder : List String) : List String → Except DiskError (List String)
  | [] => .ok folder
  | [part] => next folder part
  | part :: rest => do d.follow (← d.enter folder part) rest

/-- The location that a path leads to, where nothing need stand. -/
def locate (d : Disk) (path : String) : Except DiskError (List String) :=
  match fault path with
  | some error => .error error
  | none => if path = "" then .error .notFound else d.follow (Path.start path) (Path.parts path)

/-- What stands where a path leads, or why nothing can be found there. -/
def look (d : Disk) (path : String) : Except DiskError Node := do
  match d.node? (← d.locate path) with
  | some .folder => return .folder
  | some node => if Path.asksForFolder path then throw .notFolder else return node
  | none => throw .notFound

/-- The content of a file. -/
def content (d : Disk) (path : String) : Except DiskError Bytes := do
  match ← d.look path with
  | .file content => return content
  | .device => return []
  | _ => throw .occupied

/-- The names of what stands in the folder that a path leads to, in ascending order. -/
def entries (d : Disk) (path : String) : Except DiskError (List String) := do
  match ← d.look path with
  | .folder =>
    let location ← d.locate path
    return d.nodes.keys.filterMap fun s =>
      if s.names.dropLast = location ∧ s.names ≠ [] then s.names.getLast? else none
  | _ => throw .notFolder

/-- The disk with another node where a path leads, if it leads anywhere. -/
def place (d : Disk) (path : String) (node : Node) : Disk :=
  match d.locate path with
  | .ok location => d.put location node
  | .error _ => d

/-- The disk without what stands where a path leads. -/
def clear (d : Disk) (path : String) : Disk :=
  match d.locate path with
  | .ok location => d.remove location
  | .error _ => d

/-! ### Operations -/

/-- An operation that changes a disk. -/
inductive Op
  /-- Makes a folder and all that are missing on the way to it. -/
  | makeFolders (path : String)
  /-- Makes an empty file, or empties the one that is there. -/
  | create (path : String)
  /-- Adds bytes at the end of a file. -/
  | append (path : String) (content : Bytes)
  /-- Waits until a file has reached the disk. -/
  | sync (path : String)
  /-- Moves a file to where another may be, which it replaces. -/
  | rename (source target : String)
  deriving DecidableEq

/-- Makes the folders that are missing on the way from a folder, up to the first that cannot be made.  Behind one that
was missing, a folder is to be made for each part. -/
def makeFoldersFrom (d : Disk) (folder : List String) : List String → Except DiskError Unit × Disk
  | [] => (.ok (), d)
  | part :: rest =>
    match d.enter folder part with
    | .ok location => d.makeFoldersFrom location rest
    | .error .notFound =>
      let (result, made) := (d.put (Path.turn folder part) .folder).makeFoldersFrom (Path.turn folder part) rest
      (result.mapError DiskError.inPlace, made)
    | .error error => (.error error, d)

/-- The parts of a path that are made where they are missing.  A dot at the end stands in the last folder,
which therefore has to be there already. -/
def wayTo (path : String) : List String :=
  if Path.endsInDot path then (Path.parts path).dropLast else Path.parts path

/-- Makes the folders that are missing on the way to where a path leads; no path at all needs none.  The last is to be
made first, so where nothing is missing but a folder at the end, what stands there is in its place. -/
def makeFolders (d : Disk) (path : String) : Except DiskError Unit × Disk :=
  match fault path with
  | some error => (.error error, d)
  | none =>
    match d.makeFoldersFrom (Path.start path) (wayTo path) with
    | (.ok (), made) =>
      (if Path.endsInDot path then (made.look path).map fun _ => () else .ok (), made)
    | (.error error, made) => (.error (if (d.locate path).isOk then error.inPlace else error), made)

/-- Puts a file where none is, or where one is.  A database that no store has open is a file as well. -/
def putFile (d : Disk) (path : String) (content : Bytes) : Except DiskError Disk := do
  let location ← d.locate path
  if Path.asksForFolder path then throw .occupied
  match d.node? location with
  | none | some (.file _) | some (.database (some _)) => return d.put location (.file content)
  | some .device => return d
  | some _ => throw .occupied

/-- Moves a file to where nothing stands or something else than a folder. -/
def moveFile (d : Disk) (source target : String) : Except DiskError Disk := do
  let content ← d.content source
  let old ← d.locate source
  let new ← d.locate target
  if d.node? new = some .folder then throw .occupied
  if Path.asksForFolder target then throw .notFolder
  let moved := d.put new (.file content)
  return if old = new then moved else moved.remove old

/-- The outcome of a change that leaves the disk as it was where it fails. -/
def attempt (d : Disk) : Except DiskError Disk → Except DiskError Unit × Disk
  | .ok changed => (.ok (), changed)
  | .error error => (.error error, d)

/-- Performs an operation.  The disk is what it is afterwards, also where the operation fails. -/
def perform (d : Disk) : Op → Except DiskError Unit × Disk
  | .makeFolders path => d.makeFolders path
  | .create path => d.attempt (d.putFile path [])
  | .append path content => d.attempt do
    let before ← d.content path
    d.putFile path (before ++ content)
  | .sync path => ((d.content path).map fun _ => (), d)
  | .rename source target => d.attempt (d.moveFile source target)

/-! ### Several operations -/

/-- A failure of the device, which may come to any operation. -/
structure Trouble where
  /-- The number of operations that are done before it. -/
  after : Nat
  /-- How much of the operation that it comes to is done: the number of bytes that reach a file, or of
  parts of a path that there are folders for. -/
  done : Nat
  /-- What the device reports. -/
  reason : String
  deriving DecidableEq, Repr

/-- What is left of a failure when one more operation is done. -/
def Trouble.later (t : Trouble) : Trouble := { t with after := t.after - 1 }

/-- What is left of an operation of which only so many bytes are added, or so many parts of a path made;
an operation that does neither is not done at all. -/
def performPartly (d : Disk) (done : Nat) : Op → Disk
  | .makeFolders path =>
    if fault path = none then (d.makeFoldersFrom (Path.start path) ((wayTo path).take done)).2 else d
  | .append path content => (d.perform (.append path (content.take done))).2
  | _ => d

/-- Performs operations in order.  The first that fails ends the list, and what was done before it
stays done. -/
def performAll (d : Disk) (trouble : Option Trouble) : List Op → Except DiskError Unit × Disk
  | [] => (.ok (), d)
  | op :: rest =>
    match trouble with
    | some ⟨0, done, reason⟩ => (.error (.device reason), d.performPartly done op)
    | _ => match d.perform op with
      | (.ok (), d) => d.performAll (trouble.map Trouble.later) rest
      | (.error error, d) => (.error error, d)

/-- Whether `d'` may be left of an operation that was cut off: nothing was done, all was done, or a part of
it. -/
def interrupted (d : Disk) (op : Op) (d' : Disk) : Prop :=
  d' = d ∨ d' = (d.perform op).2 ∨ ∃ done, d' = d.performPartly done op

end Disk

end Logbook
