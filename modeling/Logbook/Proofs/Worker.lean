import Logbook.Proofs.Callers
import Logbook.Proofs.Line
import Logbook.Worker.Shift

/-!
# What a worker appends

A worker that reads a file appends its lines, first to last, until it is told to stop or an append fails.  At any time
the messages that it has appended and the lines that it still owes are together the lines of the file: a line that has
been started is owed whole, so a worker that stops in the middle of one appends nothing of it.

## Main definitions

* `Progress.Owes` — the lines that a worker has still to append.
* `Shift.Pays` — the invariant.
* `Worker.todo` — how many steps are left to a worker that copies a file, at most.

## Main results

* `Worker.step_of_owes` — a step appends nothing, or the line that is owed first.
* `Shift.Pays.after`, `Shift.Pays.run` — every move keeps the invariant.
* `Shift.Pays.isFinished_run` — a worker that takes enough steps comes to an end.
* `Shift.copies_lines` — **what a worker appends of a file.**
-/

namespace Logbook

/-! ### Chunks -/

namespace Bytes

theorem buffered_chunks (size : Nat) (bytes : Bytes) : Line.Buffered (chunks size bytes) := by
  fun_induction chunks size bytes with
  | case1 => exact nofun
  | case2 b rest ih =>
    intro buffer hbuffer
    rcases List.mem_cons.1 hbuffer with rfl | hbuffer
    · exact List.cons_ne_nil _ _
    · exact ih buffer hbuffer

@[simp] theorem flatten_chunks (size : Nat) (bytes : Bytes) : (chunks size bytes).flatten = bytes := by
  fun_induction chunks size bytes with
  | case1 => rfl
  | case2 b rest ih =>
    rw [List.flatten_cons, ih, List.cons_append, List.take_append_drop]

theorem remaining_chunks_le (size : Nat) (bytes : Bytes) :
    Line.remaining (chunks size bytes) ≤ 2 * bytes.length := by
  fun_induction chunks size bytes with
  | case1 => exact Nat.le_refl 0
  | case2 b rest ih =>
    rw [List.length_drop] at ih
    simp only [Line.remaining_cons, List.length_cons, List.length_take]
    omega

end Bytes

/-! ### What is owed -/

/-- A source in buffers that ends. -/
structure Stream.Ending (s : Stream) : Prop where
  /-- No more will arrive. -/
  ends : s.ends = true
  /-- None of the buffers is empty. -/
  buffered : Line.Buffered s.buffers

/-- What is carried of a line of which some bytes have been read, if any have. -/
inductive Line.Carries (max : Nat) : Option Line → Bytes → Prop
  /-- Nothing has been read of the line. -/
  | none : Carries max none []
  /-- Some bytes have been read, and its end has not been reached. -/
  | some {part : Bytes} (hne : part ≠ []) (hfeed : feed ∉ part) : Carries max (some (started max part)) part

namespace Line

variable {max : Nat} {carried : Option Line} {part : Bytes}

theorem Carries.getD (h : Carries max carried part) : carried.getD blank = started max part := by
  cases h with
  | none => exact (started_nil max).symm
  | some hne hfeed => rfl

theorem Carries.feed_notMem (h : Carries max carried part) : feed ∉ part := by
  cases h with
  | none => exact List.not_mem_nil
  | some hne hfeed => exact hfeed

end Line

/-- The lines that a worker has still to append of a file, as far as it has come.  A worker that has come to an end
owes nothing more, unless it is excused. -/
inductive Progress.Owes (max : Nat) (content : Bytes) (excused : Prop) : Progress → List Line → Prop
  /-- A worker that has not opened the file owes all of its lines. -/
  | opening : Owes max content excused .opening (Line.linesOf max content)
  /-- What has been read of a line is owed together with the rest of it. -/
  | reading {carried : Option Line} {part : Bytes} {s : Stream} (hcarries : Line.Carries max carried part)
      (hending : s.Ending) :
      Owes max content excused (.reading carried s) (Line.linesOf max (part ++ s.buffers.flatten))
  /-- The line that is to be appended is owed first. -/
  | appending {line : Line} {s : Stream} (hending : s.Ending) :
      Owes max content excused (.appending line s) (line :: Line.linesOf max s.buffers.flatten)
  /-- At the end of the file nothing is owed. -/
  | finished : Owes max content excused (.finished none) []
  /-- A worker that is excused may come to an end whatever it owes. -/
  | excused {error : Option CollectorError} {rest : List Line} (h : excused) :
      Owes max content excused (.finished error) rest

namespace Progress

variable {max : Nat} {content : Bytes} {excused excused' : Prop} {p : Progress} {lines : List Line}

theorem Owes.mono (h : p.Owes max content excused lines) (himp : excused → excused') :
    p.Owes max content excused' lines := by
  cases h with
  | opening => exact .opening
  | reading hcarries hending => exact .reading hcarries hending
  | appending hending => exact .appending hending
  | finished => exact .finished
  | excused h => exact .excused (himp h)

/-- A worker that has come to an end without an excuse owes nothing. -/
theorem Owes.eq_nil {error : Option CollectorError} (h : Owes max content excused (.finished error) lines)
    (hno : ¬ excused) : lines = [] := by
  cases h with
  | finished => rfl
  | excused h => exact absurd h hno

end Progress

namespace Worker

variable {w : Worker} {content : Bytes} {excused : Prop}

theorem exists_finished (h : w.isFinished = true) : ∃ error, w.progress = .finished error := by
  rw [isFinished] at h
  split at h
  · next error hprogress => exact ⟨error, hprogress⟩
  · cases h

/-- A file that is opened is owed whole. -/
theorem owes_openSource {d : Disk} (hfile : d.look w.source = .ok (.file content))
    (hlarge : largestBuffer < w.maxSize → excused) :
    (w.openSource d).Owes w.maxSize content excused (Line.linesOf w.maxSize content) := by
  rw [openSource, hfile]
  by_cases hsize : w.maxSize ≤ largestBuffer
  · have howes : (Progress.reading none ⟨Bytes.chunks w.maxSize content, true⟩).Owes w.maxSize content excused
        (Line.linesOf w.maxSize ([] ++ (Bytes.chunks w.maxSize content).flatten)) :=
      .reading .none ⟨rfl, Bytes.buffered_chunks _ _⟩
    rw [List.nil_append, Bytes.flatten_chunks] at howes
    simp only [if_pos hsize]
    exact howes
  · simp only [if_neg hsize]
    exact .excused (hlarge (Nat.lt_of_not_le hsize))

/-- Reading on leaves what is owed. -/
theorem exists_readOn (content : Bytes) (excused : Prop) {carried : Option Line} {part : Bytes} {s : Stream}
    (hcarries : Line.Carries w.maxSize carried part) (hending : s.Ending) :
    ∃ p, w.readOn carried s = some p ∧
      p.Owes w.maxSize content excused (Line.linesOf w.maxSize (part ++ s.buffers.flatten)) := by
  obtain ⟨buffers, ends⟩ := s
  obtain ⟨rfl, hbuffered⟩ := hending
  cases buffers with
  | nil =>
    -- the end of the file ends the line
    cases hcarries with
    | none => exact ⟨_, rfl, .finished⟩
    | some hne hfeed =>
      refine ⟨_, rfl, ?_⟩
      rw [Line.finish_started, List.flatten_nil, List.append_nil, Line.linesOf_of_notMem w.maxSize hfeed hne]
      exact .appending ⟨rfl, hbuffered⟩
  | cons buffer more =>
    have hbuffer : buffer ≠ [] := hbuffered buffer List.mem_cons_self
    have hmore : Line.Buffered more := fun b hb => hbuffered b (List.mem_cons_of_mem _ hb)
    rcases Line.absorb_cases w.maxSize part buffer with ⟨hfeed, habsorb⟩ | ⟨piece, left, hfeed, rfl, habsorb⟩
    · -- the line goes on behind the buffer
      refine ⟨.reading (some (Line.started w.maxSize (part ++ buffer))) ⟨more, true⟩, ?_, ?_⟩
      · simp only [readOn, hcarries.getD, habsorb]
      · have hcarries' : Line.Carries w.maxSize (some (Line.started w.maxSize (part ++ buffer))) (part ++ buffer) :=
          .some (by simp [hbuffer]) (by simp [hfeed, hcarries.feed_notMem])
        rw [List.flatten_cons, ← List.append_assoc]
        exact .reading hcarries' ⟨rfl, hmore⟩
    · refine ⟨.appending (Line.cut w.maxSize (part ++ piece)) ⟨Line.leave left more, true⟩, ?_, ?_⟩
      · simp only [readOn, hcarries.getD, habsorb, Line.finish_started]
      · have hnone : Line.feed ∉ part ++ piece := by simp [hfeed, hcarries.feed_notMem]
        have hsplit : part ++ ((piece ++ Line.feed :: left) :: more).flatten =
            (part ++ piece) ++ Line.feed :: (Line.leave left more).flatten := by simp
        rw [hsplit, Line.linesOf_append _ hnone]
        exact .appending ⟨rfl, hmore.leave left⟩

/-- What a step can be.  The worker goes on and owes what it owed, or it is to append the line that it owes first, or it
has come to an end. -/
theorem step_of_owes {d : Disk} {lines : List Line} (howes : w.progress.Owes w.maxSize content excused lines)
    (hfile : d.look w.source = .ok (.file content)) (hcancelled : w.cancelled = true → excused)
    (hlarge : largestBuffer < w.maxSize → excused) (store : Store) (draw : Draw) :
    (∃ p, w.step d store draw = some ({ w with progress := p }, store) ∧ p.Owes w.maxSize content excused lines ∧
      ∀ line s, w.progress ≠ .appending line s) ∨
    (∃ line s rest, w.progress = .appending line s ∧ lines = line :: rest ∧
      (Progress.reading none s).Owes w.maxSize content excused rest) ∨
    w.isFinished = true := by
  obtain ⟨log, source, maxSize, progress, cancelled⟩ := w
  cases howes with
  | opening => exact Or.inl ⟨_, rfl, owes_openSource hfile hlarge, nofun⟩
  | reading hcarries hending =>
    left
    cases cancelled with
    | true => exact ⟨.finished none, rfl, .excused (hcancelled rfl), nofun⟩
    | false =>
      obtain ⟨p, hread, howes⟩ := exists_readOn content excused hcarries hending
      refine ⟨p, ?_, howes, nofun⟩
      rw [step]
      simp only [hread]
      rfl
  | appending hending =>
    right; left
    exact ⟨_, _, _, rfl, rfl, .reading .none hending⟩
  | finished => exact Or.inr (Or.inr rfl)
  | excused h => exact Or.inr (Or.inr rfl)

/-! ### How many steps it takes -/

/-- After a step a worker has opened its source. -/
theorem step_ne_opening {w' : Worker} {d : Disk} {store store' : Store} {draw : Draw}
    (h : w.step d store draw = some (w', store')) : w'.progress ≠ .opening := by
  rw [step] at h
  split at h
  · obtain ⟨rfl, -⟩ := Prod.mk.inj (Option.some.inj h)
    exact openSource_ne_opening w d
  · split at h
    · obtain ⟨rfl, -⟩ := Prod.mk.inj (Option.some.inj h)
      simp
    · split at h
      · next hread =>
        obtain ⟨rfl, -⟩ := Prod.mk.inj (Option.some.inj h)
        exact readOn_ne_opening hread
      · cases h
  · obtain ⟨rfl, -⟩ := Prod.mk.inj (Option.some.inj h)
    split <;> simp
  · cases h

/-- A file takes at most six steps for each byte, and one more. -/
theorem stepsOf_openSource_le {d : Disk} (hfile : d.look w.source = .ok (.file content)) :
    stepsOf (w.openSource d) ≤ 6 * content.length + 1 := by
  have hchunks := Bytes.remaining_chunks_le w.maxSize content
  rw [openSource, hfile]
  simp only []
  split
  · simp only [beginReading, stepsOf]
    omega
  · simp only [stepsOf]
    omega

/-- How many steps a worker can take at most that copies the content of a file. -/
def todo (content : Bytes) : Progress → Nat
  | .opening => 6 * content.length + 2
  | p => stepsOf p

theorem todo_of_ne_opening {p : Progress} (h : p ≠ .opening) : todo content p = stepsOf p := by
  unfold todo
  split
  · contradiction
  · rfl

/-- Each step brings a worker that copies a file closer to its end. -/
theorem todo_lt_of_step {w' : Worker} {d : Disk} {store store' : Store} {draw : Draw}
    (hfile : d.look w.source = .ok (.file content)) (h : w.step d store draw = some (w', store')) :
    todo content w'.progress < todo content w.progress := by
  have hopened := step_ne_opening h
  rw [todo_of_ne_opening hopened]
  by_cases hopening : w.progress = .opening
  · rw [step, hopening] at h
    obtain ⟨rfl, -⟩ := Prod.mk.inj (Option.some.inj h)
    rw [hopening]
    exact Nat.lt_succ_of_le (stepsOf_openSource_le hfile)
  · have hlt := remaining_step_lt h
    rw [remaining_of_ne_opening d hopened, remaining_of_ne_opening d hopening] at hlt
    rw [todo_of_ne_opening hopening]
    exact hlt

end Worker

/-! ### What the store holds of an append -/

namespace Store

/-- What is stored of an event that has been accepted is its value. -/
theorem value_of_valueOf {log : String} {timestamp : Instant} {message value : Bytes}
    (h : valueOf log timestamp message = .ok value) : Entry.value timestamp message = .ok value := by
  unfold valueOf at h
  cases hcheck : LogName.check log with
  | error error =>
    rw [hcheck] at h
    cases h
  | ok =>
    rw [hcheck] at h
    exact h

/-- An event that the store has added stands in it, with the message that was given. -/
theorem exists_event?_of_add {s s' : Store} {log : String} {timestamp : Instant} {message : Bytes} {draw : Draw}
    {id : EventId} (h : s.add log timestamp message draw = (.ok id, s')) :
    ∃ e, s'.event? log id = some e ∧ e.log = log ∧ e.message = message := by
  unfold add at h
  split at h
  · cases h
  · cases h
  · next value draft hvalue hbegin =>
    split at h
    · cases h
    · obtain ⟨stored, hdecode, -⟩ := Entry.decode_of_value log id (value_of_valueOf hvalue)
      cases h
      refine ⟨{ id, log, timestamp := stored, message }, ?_, rfl, rfl⟩
      simp only [event?, commit, Draft.insert, Option.bind_eq_bind, Option.bind_some, SortedMap.find?_insert_self,
        hdecode]
      rfl

end Store

/-! ### A worker at work -/

namespace Shift

/-- How far a worker that copies a file has come: it has appended the events `done`, and `refused` says whether an
append has failed. -/
structure Pays (log source : String) (size : Nat) (content : Bytes) (refused : Bool) (done : List Event)
    (s : Shift) : Prop where
  /-- The worker fills its log. -/
  log_eq : s.worker.log = log
  /-- It reads its source. -/
  source_eq : s.worker.source = source
  /-- It keeps to the greatest size of a message. -/
  size_eq : s.worker.maxSize = size
  /-- What has been appended is in the log. -/
  home : ∀ e ∈ done, e.log = log
  /-- What has been appended and what is owed are the lines of the file. -/
  balance : ∃ rest, s.worker.progress.Owes size content
      (s.worker.cancelled = true ∨ refused = true ∨ Worker.largestBuffer < size) rest ∧
    (Line.linesOf size content).map (·.bytes) = done.map (·.message) ++ rest.map (·.bytes)

variable {log source : String} {size : Nat} {content : Bytes} {refused : Bool} {done : List Event} {s : Shift}

theorem pays_start (log source : String) (maxSize : Nat) (content : Bytes) (store : Store) :
    (start log source maxSize store).Pays log source (max maxSize 1) content false [] where
  log_eq := rfl
  source_eq := rfl
  size_eq := rfl
  home := nofun
  balance := ⟨_, .opening, rfl⟩

theorem appends_of_none {move : Move} (h : s.answer? move = none) : s.appends move = [] := by
  rw [appends, h]

theorem refuses_of_none {move : Move} (h : s.answer? move = none) : s.refuses move = false := by
  rw [refuses, h]

/-- A move in which the store is not asked leaves the balance. -/
theorem Pays.of_none {s' : Shift} {move : Move} (h : s'.Pays log source size content refused done)
    (hanswer : s.answer? move = none) :
    s'.Pays log source size content (refused || s.refuses move) (done ++ s.appends move) := by
  rw [appends_of_none hanswer, refuses_of_none hanswer, List.append_nil, Bool.or_false]
  exact h

/-- Where no line is to be appended, the store is not asked. -/
theorem answer?_eq_none (disk : Disk) (draw : Draw) (h : ∀ line source, s.worker.progress ≠ .appending line source) :
    s.answer? (.work disk draw) = none := by
  cases hprogress : s.worker.progress with
  | appending line source => exact absurd hprogress (h line source)
  | _ => simp only [answer?, hprogress]

/-- An append that succeeds puts the line into the log. -/
theorem appends_of_add (disk : Disk) {draw : Draw} {line : Line} {stream : Stream} {id : EventId} {store : Store}
    (hprogress : s.worker.progress = .appending line stream)
    (hadd : s.store.add s.worker.log draw.now line.bytes draw = (.ok id, store)) :
    s.after (.work disk draw) = ⟨{ s.worker with progress := .reading none stream }, store⟩ ∧
      s.refuses (.work disk draw) = false ∧
      ∃ e, s.appends (.work disk draw) = [e] ∧ e.log = s.worker.log ∧ e.message = line.bytes := by
  have hafter : s.after (.work disk draw) = ⟨{ s.worker with progress := .reading none stream }, store⟩ := by
    simp only [after, Worker.step, hprogress, Worker.append, hadd]
  obtain ⟨e, hevent, hlog, hmessage⟩ := Store.exists_event?_of_add hadd
  refine ⟨hafter, ?_, e, ?_, hlog, hmessage⟩
  · simp only [refuses, answer?, hprogress, hadd]
  · simp only [appends, answer?, hprogress, hadd, hafter, hevent, Option.toList_some]

/-- An append that fails ends the work. -/
theorem refuses_of_add (disk : Disk) {draw : Draw} {line : Line} {stream : Stream} {error : StoreError}
    {store : Store} (hprogress : s.worker.progress = .appending line stream)
    (hadd : s.store.add s.worker.log draw.now line.bytes draw = (.error error, store)) :
    s.after (.work disk draw) = ⟨{ s.worker with progress := .finished (some (.store error)) }, store⟩ ∧
      s.appends (.work disk draw) = [] ∧ s.refuses (.work disk draw) = true := by
  simp [after, Worker.step, appends, refuses, answer?, hprogress, Worker.append, hadd]

/-- A move finds the content of a file at a source, if the worker takes a step in it. -/
def Move.Finds (source : String) (content : Bytes) : Move → Prop
  | .work disk _ => disk.look source = .ok (.file content)
  | _ => True

/-- A worker that has come to an end stays as it is. -/
theorem after_of_finished (hfinished : s.worker.isFinished = true) (disk : Disk) (draw : Draw) :
    s.after (.work disk draw) = s := by
  rw [after, Worker.step_of_finished hfinished]

/-- A worker that has come to an end appends nothing. -/
theorem answer?_of_finished (hfinished : s.worker.isFinished = true) (move : Move) : s.answer? move = none := by
  cases move with
  | work disk draw =>
    apply answer?_eq_none
    intro line source hprogress
    rw [Worker.isFinished, hprogress] at hfinished
    cases hfinished
  | cancel => rfl
  | change store => rfl

/-- **Every move keeps the balance.** -/
theorem Pays.after (h : s.Pays log source size content refused done) {move : Move}
    (hfile : move.Finds source content) :
    (s.after move).Pays log source size content (refused || s.refuses move) (done ++ s.appends move) := by
  have hs := h
  obtain ⟨rfl, rfl, rfl, hhome, rest, howes, hbalance⟩ := h
  cases move with
  | cancel =>
    apply Pays.of_none _ rfl
    exact ⟨rfl, rfl, rfl, hhome, rest, howes.mono fun _ => Or.inl rfl, hbalance⟩
  | change store =>
    apply Pays.of_none _ rfl
    exact ⟨rfl, rfl, rfl, hhome, rest, howes, hbalance⟩
  | work disk draw =>
    rcases Worker.step_of_owes howes hfile Or.inl (fun hlarge => Or.inr (Or.inr hlarge)) s.store draw with
      ⟨p, hstep, howes, hno⟩ | ⟨line, stream, rest, hprogress, rfl, hrest⟩ | hfinished
    · -- the worker opens its source, reads on or stops
      apply Pays.of_none _ (answer?_eq_none disk draw hno)
      rw [Shift.after, hstep]
      exact ⟨rfl, rfl, rfl, hhome, rest, howes, hbalance⟩
    · -- the store is asked to append the line that is owed first
      cases hadd : s.store.add s.worker.log draw.now line.bytes draw with
      | mk result store =>
        cases result with
        | ok id =>
          obtain ⟨hafter, hrefuses, e, happends, helog, hmessage⟩ := appends_of_add disk hprogress hadd
          rw [happends, hrefuses, hafter, Bool.or_false]
          refine ⟨rfl, rfl, rfl, ?_, rest, hrest, ?_⟩
          · intro e' he'
            rcases List.mem_append.1 he' with he' | he'
            · exact hhome e' he'
            · rw [List.mem_singleton.1 he', helog]
          · rw [hbalance, List.map_append, List.map_cons, List.map_singleton, hmessage, List.append_assoc]
            rfl
        | error error =>
          obtain ⟨hafter, happends, hrefuses⟩ := refuses_of_add disk hprogress hadd
          rw [happends, hrefuses, hafter, List.append_nil, Bool.or_true]
          exact ⟨rfl, rfl, rfl, hhome, _, .excused (Or.inr (Or.inl rfl)), hbalance⟩
    · apply Pays.of_none _ (answer?_of_finished hfinished _)
      rw [after_of_finished hfinished]
      exact hs

/-- **Every run keeps the balance.** -/
theorem Pays.run (h : s.Pays log source size content refused done) {moves : List Move}
    (hfile : ∀ move ∈ moves, move.Finds source content) :
    (s.run moves).Pays log source size content (refused || s.refused moves) (done ++ s.appended moves) := by
  induction moves generalizing s refused done with
  | nil =>
    rw [refused_nil, appended_nil, Bool.or_false, List.append_nil]
    exact h
  | cons move rest ih =>
    rw [run_cons, refused_cons, appended_cons, ← Bool.or_assoc, ← List.append_assoc]
    exact ih (h.after (hfile move List.mem_cons_self)) fun m hm => hfile m (List.mem_cons_of_mem _ hm)

/-! ### The end of the work -/

theorem isFinished_after (hfinished : s.worker.isFinished = true) (move : Move) :
    (s.after move).worker.isFinished = true := by
  cases move with
  | work disk draw =>
    rw [after_of_finished hfinished]
    exact hfinished
  | cancel => exact hfinished
  | change store => exact hfinished

/-- A worker that has come to an end appends nothing any more. -/
theorem appended_of_finished (hfinished : s.worker.isFinished = true) (moves : List Move) : s.appended moves = [] := by
  induction moves generalizing s with
  | nil => rfl
  | cons move rest ih =>
    rw [appended_cons, appends_of_none (answer?_of_finished hfinished move), ih (isFinished_after hfinished move)]
    rfl

theorem isFinished_iff_todo {w : Worker} : w.isFinished = true ↔ Worker.todo content w.progress = 0 := by
  rw [Worker.isFinished]
  cases w.progress with
  | reading started stream => cases started <;> simp [Worker.todo, Worker.stepsOf]
  | _ => simp [Worker.todo, Worker.stepsOf]

/-- A worker that copies a file goes on whenever it may, until it has come to an end. -/
theorem Pays.todo_after (h : s.Pays log source size content refused done) {disk : Disk} (draw : Draw)
    (hfile : disk.look source = .ok (.file content)) :
    Worker.todo content (s.after (.work disk draw)).worker.progress ≤ Worker.todo content s.worker.progress - 1 := by
  obtain ⟨rfl, rfl, rfl, -, rest, howes, -⟩ := h
  by_cases hfinished : s.worker.isFinished = true
  · rw [after_of_finished hfinished, isFinished_iff_todo.1 hfinished]
  · have hgoes : ∃ w store, s.worker.step disk s.store draw = some (w, store) := by
      rcases Worker.step_of_owes howes hfile Or.inl (fun hlarge => Or.inr (Or.inr hlarge)) s.store draw with
        ⟨p, hstep, -⟩ | ⟨line, stream, -, hprogress, -⟩ | hend
      · exact ⟨_, _, hstep⟩
      · simp [Worker.step, hprogress]
      · exact absurd hend hfinished
    obtain ⟨w, store, hstep⟩ := hgoes
    rw [Shift.after, hstep]
    exact Nat.le_sub_one_of_lt (Worker.todo_lt_of_step hfile hstep)

/-- A worker that copies a file comes to an end when it has taken enough steps. -/
theorem Pays.isFinished_run (h : s.Pays log source size content refused done) {moves : List Move}
    (hfile : ∀ move ∈ moves, move.Finds source content)
    (hmoves : Worker.todo content s.worker.progress ≤ moves.countP Move.isWork) :
    (s.run moves).worker.isFinished = true := by
  induction moves generalizing s refused done with
  | nil => exact isFinished_iff_todo.2 (Nat.le_zero.1 hmoves)
  | cons move rest ih =>
    have hmove := hfile move List.mem_cons_self
    refine ih (h.after hmove) (fun m hm => hfile m (List.mem_cons_of_mem _ hm)) ?_
    cases move with
    | work disk draw =>
      have hafter := h.todo_after draw hmove
      rw [List.countP_cons_of_pos rfl] at hmoves
      omega
    | cancel =>
      rw [List.countP_cons_of_neg (by simp [Move.isWork])] at hmoves
      exact hmoves
    | change store =>
      rw [List.countP_cons_of_neg (by simp [Move.isWork])] at hmoves
      exact hmoves

/-- A worker whose messages may be larger than any buffer gets none, and comes to an end. -/
theorem openSource_of_large {w : Worker} (hlarge : Worker.largestBuffer < w.maxSize) (d : Disk) :
    ∃ error, w.openSource d = .finished (some error) := by
  rw [Worker.openSource]
  split
  · exact ⟨_, rfl⟩
  · exact ⟨_, if_neg (Nat.not_le_of_lt hlarge)⟩

/-- Such a worker appends nothing. -/
theorem appended_of_large (hlarge : Worker.largestBuffer < s.worker.maxSize) (hopening : s.worker.progress = .opening)
    (moves : List Move) : s.appended moves = [] := by
  induction moves generalizing s with
  | nil => rfl
  | cons move rest ih =>
    rw [appended_cons]
    cases move with
    | work disk draw =>
      have hno : ∀ line stream, s.worker.progress ≠ .appending line stream := by simp [hopening]
      obtain ⟨error, herror⟩ := openSource_of_large hlarge disk
      have hfinished : (s.after (.work disk draw)).worker.isFinished = true := by
        simp [Shift.after, Worker.step, hopening, herror, Worker.isFinished]
      rw [appends_of_none (answer?_eq_none disk draw hno), appended_of_finished hfinished, List.append_nil]
    | cancel => exact ih hlarge hopening
    | change store => exact ih hlarge hopening

/-- **What a worker appends of a file.**  A worker takes steps while others change the store and it may be told to stop,
in any order, and each time finds the same file.  What it appends goes to its log, and the messages are the first lines
of the file, whole and in order.  Once it has come to an end nothing is appended any more; if it has not been told to
stop and no append has failed, all of the lines have been appended, unless messages may be larger than any buffer, for
then the worker ends before it reads.  It does come to an end, when it has taken enough steps. -/
theorem copies_lines (log source : String) (maxSize : Nat) (store : Store) (content : Bytes) (moves : List Move)
    (hfile : ∀ move ∈ moves, move.Finds source content) :
    let s := start log source maxSize store
    let lines := Line.linesOf (max maxSize 1) content
    (∀ e ∈ s.appended moves, e.log = log) ∧
      (s.appended moves).map (·.message) <+: lines.map (·.bytes) ∧
      ((s.run moves).worker.isFinished = true → (∀ more, (s.run moves).appended more = []) ∧
        ((s.run moves).worker.cancelled = false → s.refused moves = false → maxSize ≤ Worker.largestBuffer →
          (s.appended moves).map (·.message) = lines.map (·.bytes))) ∧
      (Worker.largestBuffer < maxSize → s.appended moves = []) ∧
      (6 * content.length + 2 ≤ moves.countP Move.isWork → (s.run moves).worker.isFinished = true) := by
  intro s lines
  have hstart := pays_start log source maxSize content store
  have hpays : (s.run moves).Pays log source (max maxSize 1) content (s.refused moves) (s.appended moves) := by
    simpa using hstart.run hfile
  obtain ⟨-, -, -, hhome, rest, howes, hbalance⟩ := hpays
  refine ⟨hhome, ⟨_, hbalance.symm⟩, fun hfinished => ⟨appended_of_finished hfinished, ?_⟩, ?_,
    fun hmoves => hstart.isFinished_run hfile hmoves⟩
  · intro hcancelled hrefused hsize
    have hno : ¬ ((s.run moves).worker.cancelled = true ∨ s.refused moves = true ∨
        Worker.largestBuffer < max maxSize 1) := by
      have hone : 1 ≤ Worker.largestBuffer := by decide
      simp [hcancelled, hrefused]
      omega
    obtain ⟨error, hend⟩ := Worker.exists_finished hfinished
    rw [hend] at howes
    rw [hbalance, howes.eq_nil hno, List.map_nil, List.append_nil]
  · intro hlarge
    exact appended_of_large (Nat.lt_of_lt_of_le hlarge (Nat.le_max_left _ _)) rfl moves

/-- Two lines are copied, of which the second is cut and has no end.  Between the steps somebody else puts an empty
table in the place of the store's. -/
theorem copies_lines_two :
    let content : Bytes := [97, 10, 98, 99, 100]
    let disk : Disk := Disk.blank.put ["f"] (.file content)
    let store : Store := { settings := {}, table? := some .empty }
    let work : Move := .work disk ⟨.ofNanos 0, .ok ⟨0, by decide⟩⟩
    let moves := List.replicate 5 work ++ .change store :: List.replicate 27 work
    let s := start "a" "f" 2 store
    (∀ move ∈ moves, move.Finds "f" content) ∧ (s.run moves).worker.isFinished = true ∧
      (s.appended moves).map (·.message) = [[97], [98, 99]] := by
  intro content disk store work moves s
  have hwork : work.Finds "f" content := show disk.look "f" = .ok (.file content) by decide +kernel
  have hfile : ∀ move ∈ moves, move.Finds "f" content := by
    intro move hmove
    rcases List.mem_append.1 hmove with hmove | hmove
    · rw [List.eq_of_mem_replicate hmove]
      exact hwork
    · rcases List.mem_cons.1 hmove with rfl | hmove
      · trivial
      · rw [List.eq_of_mem_replicate hmove]
        exact hwork
  obtain ⟨-, -, hend, -, henough⟩ := copies_lines "a" "f" 2 store content moves hfile
  have hfinished : (s.run moves).worker.isFinished = true := henough (by decide)
  have hall := (hend hfinished).2 (by decide +kernel) (by decide +kernel) (by decide)
  exact ⟨hfile, hfinished, hall⟩

/-- Where messages may be larger than any buffer, a worker ends before it reads, and nobody has stopped it. -/
theorem copies_nothing_of_large :
    let disk : Disk := Disk.blank.put ["f"] (.file [111, 110, 101, 10])
    let store : Store := { settings := {}, table? := some .empty }
    let moves : List Move := [.work disk ⟨.ofNanos 0, .ok ⟨0, by decide⟩⟩]
    let s := start "a" "f" (Worker.largestBuffer + 1) store
    (s.run moves).worker.isFinished = true ∧ (s.run moves).worker.cancelled = false ∧ s.refused moves = false ∧
      s.appended moves = [] ∧
      Line.linesOf (max (Worker.largestBuffer + 1) 1) [111, 110, 101, 10] = [⟨[111, 110, 101], false⟩] := by
  decide +kernel

end Shift

end Logbook
