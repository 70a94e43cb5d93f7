import Logbook.Collector
import Logbook.Store.Observing

/-!
# Reading on and on

A client reads page after page, each from the text of the last page's cursor.  A page is gathered from one log after
the other, and while it is, the store may change: each log is looked at in the table as it then stands.

## Main definitions

* `Look`, `Reading` — a log and the table in which it was read, and a page with all that was read for it.
* `Gathering` — a page that is being gathered.
* `Reader` — a client, with the page that is being gathered for it and all that it has received.
* `Reader.step` — the next thing that is done for a client.
-/

namespace Logbook

/-- A log and the table in which it was read. -/
structure Look where
  /-- The name of the log. -/
  log : String
  /-- The table as it was last committed. -/
  table : Table

/-- A page that a client has received. -/
structure Reading where
  /-- Where the page was to go on from. -/
  cursor : Option Cursor
  /-- The logs as they were read for the page, one after the other. -/
  looks : List Look
  /-- The page. -/
  page : Page

/-- A page that is being gathered. -/
structure Gathering where
  /-- What is asked for. -/
  search : Collector.Search
  /-- The logs that have yet to be read. -/
  pending : List String
  /-- The logs that have been read. -/
  looks : List Look := []
  /-- What has been found in them. -/
  found : List Event := []

/-- A client that reads page after page. -/
structure Reader where
  /-- The settings of the collector. -/
  settings : CollectorSettings
  /-- The crew, which knows the registered logs. -/
  crew : Crew
  /-- What the client asks for next. -/
  request : PageRequest
  /-- Whether the client goes on when a page is empty. -/
  patient : Bool
  /-- The page that is being gathered. -/
  gathering : Option Gathering := none
  /-- The pages that have been received. -/
  readings : List Reading := []

namespace Reader

/-- Where the client goes on from. -/
def cursor? (r : Reader) : Option Cursor :=
  match Collector.checkCursor r.request.cursor with
  | .ok cursor => cursor
  | .error _ => none

/-- Whether the client has stopped at an empty page. -/
def isDone (r : Reader) : Bool :=
  !r.patient && r.readings.getLast?.any fun reading => reading.page.items.isEmpty

/-- The page when all logs have been read. -/
def reading (g : Gathering) : Reading where
  cursor := g.search.cursor
  looks := g.looks
  page := Page.ofEvents g.search.cursor g.search.limit g.found

/-- Hands a page to the client, who goes on from the text of its cursor. -/
def receive (r : Reader) (reading : Reading) : Reader :=
  { r with
    request := { r.request with cursor := some reading.page.next.text }
    gathering := none
    readings := r.readings ++ [reading] }

/-- Reads the next log for a page; where that fails, the page is given up. -/
def readLog (r : Reader) (g : Gathering) (log : String) (rest : List String) (store : Store) :
    Reader :=
  match store.table with
  | .error _ => { r with gathering := none }
  | .ok t =>
    match t.read log (Page.queryOf g.search.cursor g.search.limit g.search.filter) with
    | .error _ => { r with gathering := none }
    | .ok events => { r with gathering := some { g with
        pending := rest
        looks := g.looks ++ [⟨log, t⟩]
        found := g.found ++ events } }

/-- The next thing that is done for a client: a request is checked, a log is read, or a page is handed over. -/
def step (r : Reader) (store : Store) : Reader :=
  match r.gathering with
  | none =>
    if r.isDone then r
    else match Collector.checkRequest r.settings r.request with
      | .error _ => r
      | .ok search => { r with gathering := some { search, pending := r.crew.pageLogs search.logs } }
  | some g =>
    match g.pending with
    | [] => r.receive (reading g)
    | log :: rest => r.readLog g log rest store

/-- Each look at the store is the next thing that is done. -/
instance : Observer Reader Unit := ⟨fun r store _ => r.step store⟩

theorem look_eq (r : Reader) (store : Store) : Observer.look r store () = r.step store := rfl

end Reader

end Logbook
