/-!
# Paths

Paths of files are texts whose parts are separated by slashes.  A path says how to get somewhere: its
parts are passed one after another, so what it leads to is a matter of the disk.

## Main definitions

* `Path.join` — a path below a folder.
* `Path.withExtension` — a path with another extension.
* `Path.parent` — the path of the folder that a path lies in.
* `Path.start`, `Path.parts` — where a path starts and what it is made of.
* `Path.way`, `Path.goal` — the locations that a path passes, and the one that it leads to.
-/

namespace Logbook.Path

/-- Whether a path starts at the root. -/
def isAbsolute (path : String) : Bool := path.toList.head? = some '/'

/-- The path `path` as seen from the folder `folder`. -/
def join (folder path : String) : String :=
  if isAbsolute path then path
  else if folder.toList = [] ∨ folder.toList.getLast? = some '/' then folder ++ path
  else folder ++ "/" ++ path

/-! ### The last part -/

/-- Drops the slashes at the end of a path, and the dots that stand alone between them.  The characters
stand last first. -/
def dropTail : List Char → List Char
  | '/' :: rest => dropTail rest
  | ['.', '/'] => []
  | '.' :: '/' :: rest => dropTail ('/' :: rest)
  | chars => chars
  termination_by chars => chars.length

/-- A path split into what stands before its last part, and that part; both stand last character
first. -/
def splitLast (path : String) : List Char × List Char :=
  let chars := dropTail path.toList.reverse
  (chars.dropWhile (· ≠ '/'), chars.takeWhile (· ≠ '/'))

/-- The path of the folder that a path lies in; no text at all for a path without parts. -/
def parent (path : String) : String :=
  let (before, name) := splitLast path
  if name = [] then ""
  else match dropTail before with
    | [] => if isAbsolute path then "/" else ""
    | chars => String.ofList chars.reverse

/-! ### Extensions -/

/-- Whether the last part of a path names a file, and not the folder itself or the one above. -/
def isName (part : List Char) : Bool := part ≠ [] && part ≠ ['.'] && part ≠ ['.', '.']

/-- The name of a file without its extension, and the extension without its dot; a dot at the start
belongs to the name.  All stand last character first. -/
def splitName (name : List Char) : List Char × List Char :=
  match name.dropWhile (· ≠ '.') with
  | [] | ['.'] => (name, [])
  | _ :: stem => (stem, name.takeWhile (· ≠ '.'))

/-- The path with `extension` behind the stem of its last part.  A path that does not end in the name of a
file stays as it is. -/
def setExtension (path extension : String) : String :=
  let (before, name) := splitLast path
  if isName name then
    String.ofList (((splitName name).1 ++ before).reverse) ++ "." ++ extension
  else path

/-- The path with `extension` in the place of its extension.  As many characters as the old extension has
are taken off the end first, so a path may stop to end in the name of a file: `..a` becomes `..`, which
has no extension. -/
def withExtension (path extension : String) : String :=
  let (_, name) := splitLast path
  let old := if isName name then (splitName name).2 else []
  setExtension (String.ofList (path.toList.take (path.length - old.length))) extension

/-! ### The way -/

/-- Where a path starts: at the root, or at the folder that all other paths are seen from. -/
def start (path : String) : List String := if isAbsolute path then ["/"] else []

/-- The texts between the slashes of a path. -/
def pieces (path : String) : List String := (path.toList.splitOn '/').map String.ofList

/-- The parts that a path passes; a dot that stands alone leads nowhere. -/
def parts (path : String) : List String :=
  (pieces path).filter fun part => part ≠ "" && part ≠ "."

/-- Whether a path ends in a dot that stands alone. -/
def endsInDot (path : String) : Bool :=
  ((pieces path).filter (· ≠ "")).getLast? = some "."

/-- Whether a path ends so that only a folder can stand there. -/
def asksForFolder (path : String) : Bool :=
  match (pieces path).getLast? with
  | some last => last = "" || last = "."
  | none => true

/-- The location above another one; nothing is above the start of a path. -/
def above (location : List String) : List String :=
  match location.getLast? with
  | some last => if last = "/" then location else location.dropLast
  | none => location

/-- The location that a part leads to from a folder. -/
def turn (folder : List String) (part : String) : List String :=
  if part = ".." then above folder else folder ++ [part]

/-- The locations that parts pass from a folder, one after another. -/
def wayFrom (folder : List String) : List String → List (List String)
  | [] => []
  | part :: rest => turn folder part :: wayFrom (turn folder part) rest

/-- The locations that a path passes. -/
def way (path : String) : List (List String) := wayFrom (start path) (parts path)

/-- The location that a path leads to where it can be followed. -/
def goal (path : String) : List String := (parts path).foldl turn (start path)

end Logbook.Path
