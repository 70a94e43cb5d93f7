import Logbook.Json.Record

/-!
# Registered logs

The collector keeps a roster of the logs that it fills, each with the path that its lines come from.

## Main definitions

* `Feed` — where the lines of a log come from.
* `Roster` — the registered logs.
* `Roster.toJson`, `Roster.ofJson?` — the roster in documents.
-/

namespace Logbook

/-- Where the lines of a log come from. -/
structure Feed where
  /-- The path of a file or of a named pipe. -/
  source : String
  deriving DecidableEq, Repr

namespace Feed

/-- A feed in documents. -/
def toJson (f : Feed) : Json := .ofFields [("source", .string f.source)]

/-- Reads a feed. -/
def ofJson? (j : Json) : Option Feed := do
  let fields ← Json.Fields.of? ["source"] j
  let source ← fields.required "source" Json.text?
  return { source }

end Feed

/-- The registered logs. -/
abbrev Roster := SortedMap String Feed

namespace Roster

/-- A roster in documents. -/
def toJson (r : Roster) : Json :=
  .ofFields [("logs", .ofFields (r.entries.map fun e => (e.1, e.2.toJson)))]

/-- Reads a roster; without logs it is empty. -/
def ofJson? (j : Json) : Option Roster := do
  let fields ← Json.Fields.of? ["logs"] j
  fields.orElse "logs" .empty (Json.map? Feed.ofJson?)

end Roster

end Logbook
