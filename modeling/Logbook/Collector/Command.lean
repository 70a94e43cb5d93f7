import Logbook.Collector

/-!
# Commands

Everything that can be asked of a collector, in one type, so that runs of it can be looked at as lists.

## Main definitions

* `Command`, `Answer` — what is asked of a collector, and what it answers.
* `Collector.obey` — one command.
* `Collector.obeyAll` — commands one after another.
-/

namespace Logbook

/-- What is asked of a collector. -/
inductive Command
  /-- To start. -/
  | start
  /-- To stop. -/
  | stop
  /-- To add a log and fill it from a source. -/
  | addLog (name source : String)
  /-- To remove a log. -/
  | removeLog (name : String)
  /-- To describe some logs. -/
  | describe (names : List String)
  /-- To list the logs whose workers are still reading. -/
  | activeWorkers
  /-- To add an event. -/
  | addEvent (log : String) (timestamp : Instant) (message : Bytes)
  /-- To read a page of events. -/
  | getEvents (request : PageRequest)
  /-- To remove all events of some logs. -/
  | clear (logs : List String)
  /-- To remove the events of all logs that are too many. -/
  | evict
  deriving DecidableEq

/-- What a collector answers. -/
inductive Answer
  /-- The command is done. -/
  | done
  /-- The descriptions of logs. -/
  | described (logs : List LogDescription)
  /-- The logs whose workers are still reading. -/
  | active (logs : List String)
  /-- The identifier of a new event. -/
  | added (id : EventId)
  /-- A page of events. -/
  | page (page : Page)
  /-- The number of events that were removed. -/
  | removed (count : Nat)
  deriving DecidableEq

namespace Collector

/-- Carries out a command, to which trouble may come from the device that the disk is on. -/
def obey (c : Collector) (command : Command) (trouble : Option Disk.Trouble) (w : World) :
    Except CollectorError Answer × Collector × World :=
  match command with
  | .start =>
    let (result, c, w) := c.start trouble w
    (result.map fun _ => .done, c, w)
  | .stop =>
    let (c, w) := c.stop w
    (.ok .done, c, w)
  | .addLog name source =>
    let (result, c, w) := c.addLog name source trouble w
    (result.map fun _ => .done, c, w)
  | .removeLog name =>
    let (result, c, w) := c.removeLog name trouble w
    (result.map fun _ => .done, c, w)
  | .describe names => ((c.describe names).map .described, c, w)
  | .activeWorkers => (c.activeWorkers.map .active, c, w)
  | .addEvent log timestamp message =>
    let (result, c, w) := c.addEvent log timestamp message w
    (result.map .added, c, w)
  | .getEvents request => ((c.getEvents request).map .page, c, w)
  | .clear logs =>
    let (result, c) := c.clear logs
    (result.map .removed, c, w)
  | .evict =>
    let (result, c) := c.evict
    (result.map .removed, c, w)

/-- Carries out commands one after another, each with the trouble that comes to it. -/
def obeyAll (c : Collector) (w : World) :
    List (Command × Option Disk.Trouble) →
      List (Except CollectorError Answer) × Collector × World
  | [] => ([], c, w)
  | (command, trouble) :: rest =>
    let (answer, c, w) := c.obey command trouble w
    let (answers, c, w) := obeyAll c w rest
    (answer :: answers, c, w)

end Collector

end Logbook
