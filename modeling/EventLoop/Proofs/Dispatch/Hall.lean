import EventLoop.Dispatch
import EventLoop.Lanes
import EventLoop.Proofs.Session.Waiting

/-! Many streams, one pool of workers. Each stream has an intake of its own, and all of them are
decoded by one thread, one call after the other, into lanes that workers go through at their own
pace. What can happen is cut as finely as anybody can notice: a call goes frame by frame, and
workers begin and end tasks in between, whose handlers send whenever they like on whatever
session they like. `Run.decodes` is the reason to trust the cut: a call of `decode` with nobody
coming in between is a run of such steps. -/
namespace EventLoop

variable {M : Type}

/-- A stream: its `Decoder`, the session it belongs to, and what has come and is not yet
decoded. -/
structure Line (M : Type) where
  intake : Intake M
  session : Nat
  buffer : List UInt8 := []

/-- Streams whose decoders submit to one `ThreadPool`, its workers, and the sessions. `reading`
is the stream that is being decoded, and `shut` says whether the workers have been told to
leave. -/
structure Hall (M : Type) where
  lines : Nat → Line M
  lanes : Lanes (Errand M)
  sessions : Sessions := {}
  reading : Option Nat := none
  shut : Bool := false

/-- What happens in a hall: a line of its history. -/
inductive Occasion (M : Type) where
  /-- Bytes have come on a stream, and its decoder is called. -/
  | called (line : Nat) (bytes : List UInt8)
  /-- A message of a stream has been handed to the workers. -/
  | handed (line : Nat) (task : Errand M)
  /-- A worker begins a task. -/
  | began (task : Errand M)
  /-- A task ends, in one way or another. -/
  | ended (task : Errand M) (ending : Ending)
  /-- Somebody sends, the handler of a task or somebody else. -/
  | sent (speaker : Option (Errand M)) (speech : Speech M)
  /-- What waits in a session is taken out of it. -/
  | taken (key : Nat) (bytes : List UInt8)

/-- What a step of a worker is in the history. -/
def WorkStep.occasions (ending : Ending) : WorkStep (Errand M) → List (Occasion M)
  | .began task => [.began task]
  | .ended task => [.ended task ending]
  | .left => []

/-- Where decoders hand tasks in. -/
def Lanes.sink [Message M] : Sink M (Lanes (Errand M)) where
  submit group task lanes :=
    let (taken, lanes) := lanes.submit group task
    (if taken then .ok () else .error .sinkClosed, lanes)

namespace Hall

/-- Puts a stream in the place of one. -/
def withLine (number : Nat) (line : Line M) (hall : Hall M) : Hall M :=
  { hall with lines := fun other => if other = number then line else hall.lines other }

theorem withLine_own (number : Nat) (line : Line M) (hall : Hall M) :
    (hall.withLine number line).lines number = line := if_pos rfl

theorem withLine_other {number other : Nat} (apart : other ≠ number) (line : Line M)
    (hall : Hall M) : (hall.withLine number line).lines other = hall.lines other := if_neg apart

/-- One step of a hall. -/
inductive Step [Message M] : Hall M → List (Occasion M) → Hall M → Prop where
  /-- A decoder is called when no other call goes on. A poisoned one gives up at once. -/
  | call {hall : Hall M} (idle : hall.reading = none) (serving : hall.shut = false) (number : Nat)
      (bytes : List UInt8) :
      Step hall [.called number bytes]
        { hall.withLine number { hall.lines number with
            buffer := (hall.lines number).buffer ++ bytes } with
          reading := if (hall.lines number).intake.poisoned then none else some number }
  /-- A message is handed in. The call goes on, unless its worker has left. -/
  | frame {hall : Hall M} {number : Nat} {header : Frame.Header}
      {payload rest unread : List UInt8} {message : M} (reading : hall.reading = some number)
      (seen : (hall.lines number).intake.look (hall.lines number).buffer =
        .whole header payload rest)
      (unpacked : (hall.lines number).intake.catalogue.unpack? header.type payload =
        some (.ok (message, unread)))
      {taken : Bool} {lanes : Lanes (Errand M)}
      (submitted : hall.lanes.submit (Message.group message)
        ⟨message, (hall.lines number).session⟩ = (taken, lanes)) :
      Step hall (if taken then [.handed number ⟨message, (hall.lines number).session⟩] else [])
        { hall.withLine number { hall.lines number with buffer := rest } with
          lanes
          reading := if taken then some number else none }
  /-- No whole frame is left, and the call ends. -/
  | pause {hall : Hall M} {number : Nat} (reading : hall.reading = some number)
      (seen : (hall.lines number).intake.look (hall.lines number).buffer = .partialFrame) :
      Step hall [] { hall with reading := none }
  /-- A header is rejected, and the stream is closed to all later calls. -/
  | reject {hall : Hall M} {number : Nat} {breach : Violation}
      (reading : hall.reading = some number)
      (seen : (hall.lines number).intake.look (hall.lines number).buffer = .rejected breach) :
      Step hall []
        { hall.withLine number { hall.lines number with
            intake := { (hall.lines number).intake with poisoned := true } } with
          reading := none }
  /-- A payload cannot be read, and the stream is closed to all later calls. -/
  | garble {hall : Hall M} {number : Nat} {header : Frame.Header} {payload rest : List UInt8}
      (reading : hall.reading = some number)
      (seen : (hall.lines number).intake.look (hall.lines number).buffer =
        .whole header payload rest)
      (garbled : ∀ read, (hall.lines number).intake.catalogue.unpack? header.type payload ≠
        some (.ok read)) :
      Step hall []
        { hall.withLine number { hall.lines number with
            intake := { (hall.lines number).intake with poisoned := true }
            buffer := rest } with
          reading := none }
  /-- A worker takes a step. A task may end in any way. -/
  | work {hall : Hall M} {worker : Nat} {done : WorkStep (Errand M)} {lanes : Lanes (Errand M)}
      (steps : hall.lanes.step worker = some (done, lanes)) (ending : Ending) :
      Step hall (done.occasions ending) { hall with lanes }
  /-- The handler of a task that is being run sends something on a session, or somebody else
  does. Whoever sends has looked before whether the session is closed. -/
  | send {hall : Hall M} (speaker : Option (Errand M))
      (runs : ∀ task, speaker = some task →
        ∃ worker ∈ hall.lanes.crew, worker.running = some task)
      (closed : Bool) (message : M) (key : Nat) :
      Step hall [.sent speaker ⟨key, message, (hall.sessions.sendUnder closed message key).1⟩]
        { hall with sessions := (hall.sessions.sendUnder closed message key).2 }
  | take {hall : Hall M} (key : Nat) :
      Step hall [.taken key (hall.sessions.takeOutbound key).1]
        { hall with sessions := (hall.sessions.takeOutbound key).2 }
  /-- Somebody does something else to sessions. -/
  | hush {hall : Hall M} {sessions : Sessions} (hushed : Sessions.Hushed hall.sessions sessions) :
      Step hall [] { hall with sessions }
  /-- The workers are told to leave, by whoever is the last to hold them: nobody decodes then or
  later. -/
  | close {hall : Hall M} (idle : hall.reading = none) (serving : hall.shut = false) :
      Step hall [] { hall with lanes := hall.lanes.close, shut := true }

/-- A run, with its history. -/
inductive Run [Message M] (start : Hall M) : List (Occasion M) → Hall M → Prop where
  | start : Run start [] start
  | step {history more : List (Occasion M)} {hall next : Hall M} (run : Run start history hall)
      (step : Step hall more next) : Run start (history ++ more) next

variable [Message M] {start hall late : Hall M} {history more : List (Occasion M)}

private theorem Step.run {hall next : Hall M} (step : Step hall more next) : Run hall more next :=
  Run.start.step step

private theorem Run.trans (first : Run start history hall) (second : Run hall more late) :
    Run start (history ++ more) late := by
  induction second with
  | start => rwa [List.append_nil]
  | step run step ih =>
    rw [← List.append_assoc]
    exact ih.step step

/-- A hall before anything has come: so many workers, and streams and sessions that nobody has
used. -/
structure Opens (workers : Nat) (hall : Hall M) : Prop where
  lanes : hall.lanes = Lanes.start workers
  reading : hall.reading = none
  serving : hall.shut = false
  buffers : ∀ number, (hall.lines number).buffer = []
  clean : ∀ number, (hall.lines number).intake.poisoned = false
  numbered : hall.sessions.Numbered
  silent : ∀ key session, hall.sessions.get? key = some session → session.outbound = []

/-! ## A call as a run -/

omit [Message M] in
private theorem withLine_withLine (number : Nat) (first second : Line M) (hall : Hall M) :
    (hall.withLine number first).withLine number second = hall.withLine number second := by
  simp only [withLine]
  congr
  funext other
  split <;> rfl

omit [Message M] in
private theorem withLine_same (number : Nat) (hall : Hall M) :
    hall.withLine number (hall.lines number) = hall := by
  have same : (fun other => if other = number then hall.lines number else hall.lines other) =
      hall.lines := by
    funext other
    split
    · next own => rw [own]
    · rfl
  rw [withLine, same]

/-- What a call leaves behind. -/
def decoded (number : Nat) (decoded : Decoded M (Lanes (Errand M))) (hall : Hall M) : Hall M :=
  { hall.withLine number { hall.lines number with
      intake := decoded.intake
      buffer := decoded.buffer } with
    lanes := decoded.state
    reading := none }

omit [Message M] in
/-- A call leaves the same behind if it is taken up in the middle. -/
theorem decoded_midway {number : Nat} {line : Line M} (hall : Hall M)
    (same : line.session = (hall.lines number).session) (lanes : Lanes (Errand M))
    (reading : Option Nat) (result : Decoded M (Lanes (Errand M))) :
    decoded number result { hall.withLine number line with lanes, reading } =
      decoded number result hall := by
  have lines := congrArg Hall.lines (withLine_withLine number line
    ⟨result.intake, line.session, result.buffer⟩ hall)
  simp only [decoded, withLine_own, ← same]
  exact congrArg
    (fun lines => ({ hall with lines, lanes := result.state, reading := none } : Hall M)) lines

/-- Taking frames is a run that ends where the call ends. -/
theorem run_takeFrames {number session : Nat} {intake : Intake M} (buffer : List UInt8)
    (count : Nat) (hall : Hall M) (reading : hall.reading = some number)
    (stands : hall.lines number = ⟨intake, session, buffer⟩) :
    ∃ more, Run hall more
      (hall.decoded number (intake.takeFrames Lanes.sink session buffer count hall.lanes)) := by
  induction buffer using intake.buffer_induction generalizing count hall with
  | partialFrame buffer seen =>
    have paused := Step.pause reading (by rw [stands]; exact seen)
    have kept := withLine_same number hall
    rw [stands] at kept
    rw [Intake.takeFrames_partial seen, decoded, stands, kept]
    exact ⟨_, paused.run⟩
  | rejected buffer breach seen =>
    have rejected := Step.reject reading (by rw [stands]; exact seen)
    rw [stands] at rejected
    rw [Intake.takeFrames_rejected seen, Intake.poison, decoded, stands]
    exact ⟨_, rejected.run⟩
  | whole buffer header payload rest seen ih =>
    have front : (hall.lines number).intake.look (hall.lines number).buffer =
        .whole header payload rest := by rw [stands]; exact seen
    have garbled (failed : ∀ read, intake.catalogue.unpack? header.type payload ≠ some (.ok read)) :
        Step hall [] (hall.decoded number
          ⟨.ok 0, rest, { intake with poisoned := true }, hall.lanes⟩) := by
      have step := Step.garble reading front (by rw [stands]; exact failed)
      rw [stands] at step
      rw [decoded, stands]
      exact step
    rw [Intake.takeFrames_whole seen]
    split
    · next missing => exact ⟨_, (garbled (by rw [missing]; simp)).run⟩
    · next fault failed => exact ⟨_, (garbled (by rw [failed]; simp)).run⟩
    · next message unread unpacked =>
      have framed := Step.frame reading front (by rw [stands]; exact unpacked) (Prod.eta _).symm
      rw [stands] at framed
      simp only [Lanes.sink]
      cases taken : (hall.lanes.submit (Message.group message) ⟨message, session⟩).1 with
      | false =>
        rw [taken] at framed
        rw [decoded, stands]
        exact ⟨_, framed.run⟩
      | true =>
        rw [taken] at framed
        obtain ⟨more, run⟩ := ih (count + 1)
          { hall.withLine number ⟨intake, session, rest⟩ with
            lanes := (hall.lanes.submit (Message.group message) ⟨message, session⟩).2
            reading := some number }
          rfl (withLine_own number _ hall)
        rw [decoded_midway hall (by rw [stands])] at run
        exact ⟨_, framed.run.trans run⟩

/-- **A call of a decoder is a run**, in which nobody else takes a step. -/
theorem Run.decodes {hall : Hall M} (idle : hall.reading = none) (serving : hall.shut = false)
    (number : Nat) (bytes : List UInt8) :
    ∃ history, Run hall history (hall.decoded number
      ((hall.lines number).intake.decode Lanes.sink (hall.lines number).session
        ((hall.lines number).buffer ++ bytes) hall.lanes)) := by
  have called := Step.call idle serving number bytes
  rw [Intake.decode]
  split
  · next poisoned =>
    rw [if_pos poisoned] at called
    exact ⟨_, called.run⟩
  · next usable =>
    rw [if_neg usable] at called
    obtain ⟨more, run⟩ := run_takeFrames ((hall.lines number).buffer ++ bytes) 0
      { hall.withLine number { hall.lines number with
          buffer := (hall.lines number).buffer ++ bytes } with
        lanes := hall.lanes
        reading := some number }
      rfl (withLine_own number _ hall)
    rw [decoded_midway hall (by rfl)] at run
    exact ⟨_, called.run.trans run⟩

end Hall

end EventLoop
