import Logbook.Collector.Command

/-!
# Runs of a collector

What happens to a collector comes one after another: commands are carried out, workers take steps, bytes come
through pipes.  Any of the operations of a command on the disk may fail.  A removal may also be seen in parts.
The log is withdrawn first, and while the caller waits for the worker anything else may happen.

## Main definitions

* `Occurrence` — what may happen.
* `Collector.undergo` — what one occurrence does to a collector and its world.
* `Collector.run` — what many do, one after another.
* `CollectorSettings.Apart` — the database is kept away from the state file.
-/

namespace Logbook

/-- What may happen to a collector. -/
inductive Occurrence
  /-- A command is carried out, with the trouble that comes to it. -/
  | command (command : Command) (trouble : Option Disk.Trouble)
  /-- A log is withdrawn for a caller who will wait for its worker. -/
  | withdrawal (name : String) (trouble : Option Disk.Trouble)
  /-- A worker takes a step. -/
  | work (number : Nat)
  /-- Bytes come through a pipe. -/
  | arrival (path : String) (bytes : Bytes)
  deriving DecidableEq

namespace Collector

/-- Lets a worker of a collector take a step, also one that was left behind. -/
def work (c : Collector) (number : Nat) (w : World) : Collector × World :=
  match c.phase, c.strays with
  | .running crew store, _ =>
    let (crew, store) := crew.step number w.disk store w.supply.head
    ({ c with phase := .running crew store }, { w with supply := w.supply.tail })
  | _, some (crew, store) =>
    let (crew, store) := crew.step number w.disk store w.supply.head
    c.leave crew store { w with supply := w.supply.tail }
  | _, none => (c, w)

/-- What an occurrence does to a collector and its world. -/
def undergo (c : Collector) (w : World) : Occurrence → Collector × World
  | .command command trouble => (c.obey command trouble w).2
  | .withdrawal name trouble => (c.withdraw name trouble w).2
  | .work number => c.work number w
  | .arrival path bytes => (c.deliver path bytes w.disk, w)

/-- What occurrences do to a collector and its world, one after another. -/
def run (c : Collector) (w : World) : List Occurrence → Collector × World
  | [] => (c, w)
  | o :: rest => (c.undergo w o).1.run (c.undergo w o).2 rest

end Collector

/-- The path of the database leads to neither the state file nor the draft of one, nor past them.  What the
path of the home folder passes is left out: where the state file should stand, a folder would be then. -/
def CollectorSettings.Apart (s : CollectorSettings) : Prop :=
  ∀ location ∈ Path.way s.store.path, location ∉ Path.way s.home →
    location ≠ Path.goal s.statePath ∧ location ≠ Path.goal (StateFile.draft s.statePath)

end Logbook
