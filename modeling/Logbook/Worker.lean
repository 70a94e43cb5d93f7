import Logbook.Line
import Logbook.Store

/-!
# Workers

A worker reads the lines of a source into a log.  It opens the source, then reads a line and appends it,
again and again, until the source ends, something fails or the worker is cancelled.  A cancelled worker
completes the append that it is at and reads no further; a line that it had only started is lost.

A file ends where it ended when it was opened.  A named pipe never ends, so a worker on a pipe waits for
more until it is cancelled.

## Main definitions

* `Worker` — a worker and what it is doing.
* `Worker.step` — one step of a worker, unless it waits or has finished.
* `Worker.settle` — all steps up to there.
* `Worker.deliver` — more bytes through the pipe that a worker reads.

## Main results

* `Worker.remaining_step_lt` — each step brings a worker closer to the point where it waits.
-/

namespace Logbook

/-- A source that has been opened. -/
structure Stream where
  /-- The buffers that have arrived and have not been read. -/
  buffers : List Bytes
  /-- Whether no more will arrive. -/
  ends : Bool
  deriving DecidableEq

/-- What a worker is doing. -/
inductive Progress
  /-- It has not opened its source yet. -/
  | opening
  /-- It reads; a line may have been started. -/
  | reading (started : Option Line) (source : Stream)
  /-- It appends a line to its log. -/
  | appending (line : Line) (source : Stream)
  /-- It has come to an end, perhaps by an error. -/
  | finished (error : Option CollectorError)
  deriving DecidableEq

/-- A worker that reads a source into a log. -/
structure Worker where
  /-- The name of the log. -/
  log : String
  /-- The path of the source. -/
  source : String
  /-- The greatest size of a message. -/
  maxSize : Nat
  /-- What the worker is doing. -/
  progress : Progress := .opening
  /-- Whether the worker is to stop. -/
  cancelled : Bool := false
  deriving DecidableEq

namespace Worker

/-- A worker that has not begun.  Messages may have one byte at least. -/
def new (log source : String) (maxSize : Nat) : Worker :=
  { log, source, maxSize := max maxSize 1 }

/-- Whether a worker has come to an end. -/
def isFinished (w : Worker) : Bool :=
  match w.progress with
  | .finished _ => true
  | _ => false

/-- Tells a worker to stop. -/
def cancel (w : Worker) : Worker := { w with cancelled := true }

/-- Bytes that come through the pipe that a worker reads. -/
def deliver (w : Worker) (bytes : Bytes) : Worker :=
  let fill (s : Stream) : Stream :=
    if s.ends then s else { s with buffers := s.buffers ++ Bytes.chunks w.maxSize bytes }
  { w with progress := match w.progress with
    | .reading started s => .reading started (fill s)
    | .appending line s => .appending line (fill s)
    | p => p }

/-! ### Steps -/

/-- The greatest size of a buffer, in bytes. -/
def largestBuffer : Nat := 0x7fffffffffffffff

/-- Starts to read what stands at the source. -/
def beginReading (w : Worker) : Node → Progress
  | .file content => .reading none ⟨Bytes.chunks w.maxSize content, true⟩
  | .device => .reading none ⟨[], true⟩
  | .pipe => .reading none ⟨[], false⟩
  | _ => .finished (some (.worker w.log "reading line: Is a directory"))

/-- Opens the source and gets a buffer that a message of the greatest size fits in. -/
def openSource (w : Worker) (d : Disk) : Progress :=
  match d.look w.source with
  | .error error => .finished (some (.worker w.log s!"opening source: {error.message}"))
  | .ok node =>
    if w.maxSize ≤ largestBuffer then w.beginReading node
    else .finished (some (.worker w.log "capacity overflow"))

/-- Reads a buffer, or finds the end of the source; `none` where the source gives nothing yet. -/
def readOn (w : Worker) (started : Option Line) (s : Stream) : Option Progress :=
  match s.buffers with
  | buffer :: rest =>
    match (started.getD .blank).absorb w.maxSize buffer with
    | (line, some left) =>
      some (.appending line.finish { s with buffers := Line.leave left rest })
    | (line, none) => some (.reading (some line) { s with buffers := rest })
  | [] =>
    if s.ends then match started with
      | some line => some (.appending line.finish s)
      | none => some (.finished none)
    else none

/-- Appends a line, with what the world supplies at that moment. -/
def append (w : Worker) (line : Line) (s : Stream) (store : Store) (draw : Draw) :
    Progress × Store :=
  match store.add w.log draw.now line.bytes draw with
  | (.ok _, store) => (.reading none s, store)
  | (.error error, store) => (.finished (some (.store error)), store)

/-- One step of a worker, with the store after it; `none` where the worker waits or has finished. -/
def step (w : Worker) (d : Disk) (store : Store) (draw : Draw) : Option (Worker × Store) :=
  match w.progress with
  | .opening => some ({ w with progress := w.openSource d }, store)
  | .reading started s =>
    if w.cancelled then some ({ w with progress := .finished none }, store)
    else match w.readOn started s with
      | some p => some ({ w with progress := p }, store)
      | none => none
  | .appending line s =>
    let (p, store) := w.append line s store draw
    some ({ w with progress := p }, store)
  | .finished _ => none

/-! ### All steps -/

/-- An upper bound on the number of steps that a worker can take. -/
def stepsOf : Progress → Nat
  | .opening => 0
  | .reading none s => 3 * Line.remaining s.buffers + 1
  | .reading (some _) s => 3 * Line.remaining s.buffers + 3
  | .appending _ s => 3 * Line.remaining s.buffers + 2
  | .finished _ => 0

/-- An upper bound on the number of steps that a worker can take. -/
def remaining (w : Worker) (d : Disk) : Nat :=
  match w.progress with
  | .opening => stepsOf (w.openSource d) + 1
  | p => stepsOf p

theorem remaining_of_ne_opening {w : Worker} (d : Disk) (h : w.progress ≠ .opening) :
    w.remaining d = stepsOf w.progress := by
  unfold remaining
  split
  · contradiction
  · rfl

theorem beginReading_ne_opening (w : Worker) (node : Node) : w.beginReading node ≠ .opening := by
  unfold beginReading
  split <;> simp

theorem openSource_ne_opening (w : Worker) (d : Disk) : w.openSource d ≠ .opening := by
  unfold openSource
  split
  · simp
  · split
    · exact w.beginReading_ne_opening _
    · simp

theorem readOn_ne_opening {w : Worker} {started : Option Line} {s : Stream} {p : Progress}
    (h : w.readOn started s = some p) : p ≠ .opening := by
  rintro rfl
  unfold readOn at h
  split at h
  · split at h <;> simp at h
  · split at h
    · split at h <;> simp at h
    · simp at h

theorem stepsOf_readOn_lt {w : Worker} {started : Option Line} {s : Stream} {p : Progress}
    (h : w.readOn started s = some p) : stepsOf p < stepsOf (.reading started s) := by
  have hstart : 3 * Line.remaining s.buffers + 1 ≤ stepsOf (.reading started s) := by
    cases started <;> simp [stepsOf]
  unfold readOn at h
  split at h
  · rename_i buffer rest hb
    split at h
    · rename_i line left habsorb
      obtain rfl := Option.some.inj h
      have := Line.remaining_leave_lt rest (Line.length_le_of_absorb habsorb)
      simp only [stepsOf, hb] at hstart ⊢
      omega
    · obtain rfl := Option.some.inj h
      simp only [stepsOf, hb, Line.remaining_cons] at hstart ⊢
      omega
  · split at h
    · split at h
      · obtain rfl := Option.some.inj h
        simp [stepsOf]
      · obtain rfl := Option.some.inj h
        simp [stepsOf]
    · simp at h

/-- Each step brings a worker closer to the point where it waits. -/
theorem remaining_step_lt {w w' : Worker} {d : Disk} {store store' : Store} {draw : Draw}
    (h : w.step d store draw = some (w', store')) : w'.remaining d < w.remaining d := by
  unfold step at h
  split at h
  · rename_i hp
    obtain ⟨rfl, -⟩ := Prod.mk.inj (Option.some.inj h)
    rw [remaining_of_ne_opening d (openSource_ne_opening w d)]
    simp [remaining, hp]
  · rename_i started s hp
    have hw : w.remaining d = stepsOf (.reading started s) := by simp [remaining, hp]
    split at h
    · obtain ⟨rfl, -⟩ := Prod.mk.inj (Option.some.inj h)
      rw [hw]
      cases started <;> simp [remaining, stepsOf]
    · split at h
      · rename_i p hread
        obtain ⟨rfl, -⟩ := Prod.mk.inj (Option.some.inj h)
        rw [hw, remaining_of_ne_opening d (readOn_ne_opening hread)]
        exact stepsOf_readOn_lt hread
      · simp at h
  · rename_i line s hp
    obtain ⟨rfl, -⟩ := Prod.mk.inj (Option.some.inj h)
    have hw : w.remaining d = 3 * Line.remaining s.buffers + 2 := by simp [remaining, hp, stepsOf]
    rw [hw]
    split <;> simp [remaining, stepsOf]
  · simp at h

/-- Takes steps until the worker waits or has finished. -/
def settle (w : Worker) (d : Disk) (store : Store) (supply : Supply) : Worker × Store × Supply :=
  match _h : w.step d store supply.head with
  | some (w', store') => settle w' d store' supply.tail
  | none => (w, store, supply)
  termination_by w.remaining d
  decreasing_by exact remaining_step_lt _h

/-- Lets each of the workers take its steps until it waits or has finished, one worker after another. -/
def settleAll (d : Disk) (store : Store) (supply : Supply) :
    List Worker → List Worker × Store × Supply
  | [] => ([], store, supply)
  | w :: rest =>
    let (w, store, supply) := w.settle d store supply
    let (rest, store, supply) := settleAll d store supply rest
    (w :: rest, store, supply)

end Worker

end Logbook
