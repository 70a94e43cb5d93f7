import Logbook.Json.Record
import Logbook.Path

/-!
# Settings of diagnostics

What the program says about itself: how much, and whether on the console, in files or both.

## Main definitions

* `DiagnosticsSettings` — all of the settings, with presets for development, tests and production.
* `FileOutput` — the settings of files, with `singlePath` where one file takes everything.
* `DiagnosticsSettings.directives` — the levels of single targets.
-/

namespace Logbook

/-- When a new file is begun. -/
inductive Rotation
  /-- Every day. -/
  | daily
  /-- Every hour. -/
  | hourly
  /-- Never. -/
  | never
  deriving DecidableEq, Repr

namespace Rotation

/-- The name of a rotation in documents. -/
def name : Rotation → String
  | .daily => "Daily"
  | .hourly => "Hourly"
  | .never => "Never"

/-- The rotation with a name. -/
def named? (name : String) : Option Rotation :=
  if name = "Daily" then some .daily
  else if name = "Hourly" then some .hourly
  else if name = "Never" then some .never
  else none

/-- A rotation in documents. -/
def toJson (r : Rotation) : Json := .string r.name

/-- Reads a rotation. -/
def ofJson? (j : Json) : Option Rotation := Json.choice? named? j

end Rotation

/-- The settings of files. -/
structure FileOutput where
  /-- The folder of the files. -/
  folder : String := "./logs"
  /-- How the names of the files start. -/
  stem : String := "logd"
  /-- When a new file is begun. -/
  rotation : Rotation := .daily
  /-- How many files are kept, if not all. -/
  maxFiles : Option UInt64 := some 7
  deriving DecidableEq, Repr

namespace FileOutput

/-- The path of the file where none is ever begun anew. -/
def singlePath (f : FileOutput) : String := Path.join f.folder (f.stem ++ ".log")

/-- Settings of files in documents. -/
def toJson (f : FileOutput) : Json :=
  .ofFields [("directory", .string f.folder), ("prefix", .string f.stem),
    ("rotation", f.rotation.toJson),
    ("max_files", .ofOption (fun n => .ofNat n.toNat) f.maxFiles)]

/-- Reads settings of files. -/
def ofJson? (j : Json) : Option FileOutput := do
  let fields ← Json.Fields.of? ["directory", "prefix", "rotation", "max_files"] j
  let folder ← fields.required "directory" Json.text?
  let stem ← fields.required "prefix" Json.text?
  let rotation ← fields.required "rotation" Rotation.ofJson?
  let maxFiles ← fields.optional "max_files" Json.word?
  return { folder, stem, rotation, maxFiles }

end FileOutput

/-- The settings of the console. -/
structure ConsoleOutput where
  /-- Whether anything is shown. -/
  enabled : Bool := true
  /-- Whether lines are made for people, and not JSON. -/
  pretty : Bool := false
  /-- Whether colours are used. -/
  ansi : Bool := false
  deriving DecidableEq, Repr

namespace ConsoleOutput

/-- Settings of the console in documents. -/
def toJson (c : ConsoleOutput) : Json :=
  .ofFields [("enabled", .bool c.enabled), ("pretty", .bool c.pretty), ("ansi", .bool c.ansi)]

/-- Reads settings of the console. -/
def ofJson? (j : Json) : Option ConsoleOutput := do
  let fields ← Json.Fields.of? ["enabled", "pretty", "ansi"] j
  let enabled ← fields.required "enabled" Json.flag?
  let pretty ← fields.required "pretty" Json.flag?
  let ansi ← fields.required "ansi" Json.flag?
  return { enabled, pretty, ansi }

end ConsoleOutput

/-- What a line of JSON holds. -/
structure LineContent where
  /-- Whether the fields of an event stand beside its metadata. -/
  flattenEvents : Bool := true
  /-- Whether all spans are listed. -/
  includeSpans : Bool := true
  /-- Whether the innermost span is shown. -/
  includeCurrentSpan : Bool := true
  /-- Whether the thread is shown. -/
  includeThreadInfo : Bool := false
  /-- Whether the place in the program is shown. -/
  includeLocation : Bool := true
  deriving DecidableEq, Repr

namespace LineContent

/-- The contents of lines in documents. -/
def toJson (l : LineContent) : Json :=
  .ofFields [("flatten_events", .bool l.flattenEvents), ("include_spans", .bool l.includeSpans),
    ("include_current_span", .bool l.includeCurrentSpan),
    ("include_thread_info", .bool l.includeThreadInfo),
    ("include_location", .bool l.includeLocation)]

/-- Reads the contents of lines. -/
def ofJson? (j : Json) : Option LineContent := do
  let fields ← Json.Fields.of? ["flatten_events", "include_spans", "include_current_span",
    "include_thread_info", "include_location"] j
  let flattenEvents ← fields.required "flatten_events" Json.flag?
  let includeSpans ← fields.required "include_spans" Json.flag?
  let includeCurrentSpan ← fields.required "include_current_span" Json.flag?
  let includeThreadInfo ← fields.required "include_thread_info" Json.flag?
  let includeLocation ← fields.required "include_location" Json.flag?
  return { flattenEvents, includeSpans, includeCurrentSpan, includeThreadInfo, includeLocation }

end LineContent

/-- The settings of diagnostics. -/
structure DiagnosticsSettings where
  /-- The levels that are shown where a target has none of its own. -/
  level : String := "info"
  /-- The console. -/
  console : ConsoleOutput := {}
  /-- The files, if there are any. -/
  file : Option FileOutput := none
  /-- The lines of JSON. -/
  lines : LineContent := {}
  /-- The levels of single targets. -/
  targets : SortedMap String String := .empty
  deriving DecidableEq

namespace DiagnosticsSettings

/-- Settings in documents. -/
def toJson (s : DiagnosticsSettings) : Json :=
  .ofFields [("default_level", .string s.level), ("console", s.console.toJson),
    ("file", .ofOption FileOutput.toJson s.file), ("jsonl", s.lines.toJson),
    ("targets", .ofFields (s.targets.entries.map fun e => (e.1, .string e.2)))]

/-- Reads settings. -/
def ofJson? (j : Json) : Option DiagnosticsSettings := do
  let fields ← Json.Fields.of? ["default_level", "console", "file", "jsonl", "targets"] j
  let level ← fields.required "default_level" Json.text?
  let console ← fields.required "console" ConsoleOutput.ofJson?
  let file ← fields.optional "file" FileOutput.ofJson?
  let lines ← fields.required "jsonl" LineContent.ofJson?
  let targets ← fields.required "targets" (Json.map? Json.text?)
  return { level, console, file, lines, targets }

/-! ### Presets -/

/-- The settings for development. -/
def development : DiagnosticsSettings where
  level := "debug"
  console := { enabled := true, pretty := true, ansi := true }

/-- The settings for tests. -/
def testing : DiagnosticsSettings where
  level := "warn"
  lines := { includeLocation := false }

/-- The settings for production, with files in a folder. -/
def production (folder : String) : DiagnosticsSettings where
  file := some { folder := folder }

/-! ### Changes -/

/-- The settings with a level for a target. -/
def withTarget (s : DiagnosticsSettings) (target level : String) : DiagnosticsSettings :=
  { s with targets := s.targets.insert target level }

/-- The settings with another level. -/
def withLevel (s : DiagnosticsSettings) (level : String) : DiagnosticsSettings :=
  { s with level := level }

/-- The settings with or without the console. -/
def withConsole (s : DiagnosticsSettings) (enabled : Bool) : DiagnosticsSettings :=
  { s with console := { s.console with enabled := enabled } }

/-- The settings with lines for people, in colour, or without both. -/
def withPretty (s : DiagnosticsSettings) (pretty : Bool) : DiagnosticsSettings :=
  { s with console := { s.console with pretty := pretty, ansi := pretty } }

/-- The settings with files. -/
def withFile (s : DiagnosticsSettings) (file : FileOutput) : DiagnosticsSettings :=
  { s with file := some file }

/-- The levels of single targets, each as the target, an equals sign and the level. -/
def directives (s : DiagnosticsSettings) : List String :=
  s.targets.entries.map fun e => e.1 ++ "=" ++ e.2

end DiagnosticsSettings

end Logbook
