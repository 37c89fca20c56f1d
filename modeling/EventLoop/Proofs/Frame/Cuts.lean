import Mathlib.Algebra.GroupWithZero.Nat
import EventLoop.Frame.Intake
import EventLoop.Trial.Telegram

/-! Where a stream is cut does not matter to its intake. A buffer that grows at
its far end keeps what stood at its front, so a call on more bytes goes through
the same frames as a call on fewer and then on: `takeFrames_append_of_ok` and
`takeFrames_append_of_error` are that fact, and every run over pieces is traced
back to the one call on all of their bytes. -/
namespace EventLoop

variable {M S : Type}

/-! ## Watching a sink -/

/-- One submission: the lane, the task with its message, and what the sink
answered. -/
structure Handed (M : Type) where
  group : UInt64
  task : Errand M
  answer : Except Fault Unit

/-- The sink that answers as `sink` does and writes down whatever it is handed,
taken or not. -/
def Sink.recorded (sink : Sink M S) : Sink M (S × List (Handed M)) where
  submit group task state :=
    let answered := sink.submit group task state.1
    (answered.1, answered.2, state.2 ++ [⟨group, task, answered.1⟩])

/-! ## Feeding a stream in pieces -/

/-- What has become of a stream: what each call gave, the fault that put an end
to it, the bytes that are left, the intake and the sink's state. -/
structure Fed (M S : Type) where
  counts : List Nat := []
  fault : Option Fault := none
  buffer : List UInt8 := []
  intake : Intake M
  state : S

/-- Appends the pieces one by one and decodes after each, up to the first
fault. -/
def Intake.feed [Message M] (sink : Sink M S) (session : Nat) :
    List (List UInt8) → Fed M S → Fed M S
  | [], fed => fed
  | piece :: rest, fed =>
    let decoded := fed.intake.decode sink session (fed.buffer ++ piece) fed.state
    match decoded.outcome with
    | .ok count =>
      feed sink session rest
        { counts := fed.counts ++ [count], buffer := decoded.buffer, intake := decoded.intake,
          state := decoded.state }
    | .error fault =>
      { fed with fault := some fault, buffer := decoded.buffer, intake := decoded.intake,
                 state := decoded.state }

namespace Intake

/-! ## What stands at the front of a longer buffer -/

private theorem read?_append {buffer : List UInt8} {header : Frame.Header} (more : List UInt8)
    (found : Frame.Header.read? buffer = some header) :
    Frame.Header.read? (buffer ++ more) = some header := by
  simp only [Frame.Header.read?] at found ⊢
  have enough : Frame.headerLength ≤ buffer.length := by
    split at found
    · cases found
    · rename_i whole
      simp only [List.length_take] at whole
      omega
  rw [List.take_append_of_le_length enough]
  exact found

theorem look_append_rejected {intake : Intake M} {buffer : List UInt8} {breach : Violation}
    (more : List UInt8) (seen : intake.look buffer = .rejected breach) :
    intake.look (buffer ++ more) = .rejected breach := by
  unfold look at seen ⊢
  cases found : Frame.Header.read? buffer with
  | none => simp [found] at seen
  | some header =>
    rw [read?_append more found]
    cases checked : intake.check header with
    | error cause => simpa [found, checked] using seen
    | ok _ =>
      simp only [found, checked] at seen
      split at seen <;> cases seen

theorem look_append_whole {intake : Intake M} {buffer payload rest : List UInt8}
    {header : Frame.Header} (more : List UInt8)
    (seen : intake.look buffer = .whole header payload rest) :
    intake.look (buffer ++ more) = .whole header payload (rest ++ more) := by
  unfold look at seen ⊢
  cases found : Frame.Header.read? buffer with
  | none => simp [found] at seen
  | some front =>
    rw [read?_append more found]
    cases checked : intake.check front with
    | error cause => simp [found, checked] at seen
    | ok _ =>
      simp only [found, checked] at seen ⊢
      split at seen
      · cases seen
      · rename_i enough
        simp only [List.length_take] at enough
        have covered : Frame.length front.size ≤ buffer.length := by omega
        cases seen
        rw [List.take_append_of_le_length covered, List.drop_append_of_le_length covered,
          if_neg (by simp only [List.length_take]; exact enough)]

/-! ## One step of taking frames -/

variable [Message M] {intake : Intake M} {sink : Sink M S} {session : Nat} {buffer : List UInt8}
  {count : Nat} {state : S}

theorem takeFrames_partial (seen : intake.look buffer = .partialFrame) :
    intake.takeFrames sink session buffer count state = ⟨.ok count, buffer, intake, state⟩ := by
  rw [takeFrames]
  split
  · rfl
  · next other => rw [seen] at other; cases other
  · next other => rw [seen] at other; cases other

theorem takeFrames_rejected {breach : Violation} (seen : intake.look buffer = .rejected breach) :
    intake.takeFrames sink session buffer count state = intake.poison breach buffer state := by
  rw [takeFrames]
  split
  · next other => rw [seen] at other; cases other
  · next other =>
    rw [seen] at other
    cases other
    rfl
  · next other => rw [seen] at other; cases other

theorem takeFrames_whole {header : Frame.Header} {payload rest : List UInt8}
    (seen : intake.look buffer = .whole header payload rest) :
    intake.takeFrames sink session buffer count state =
      match intake.catalogue.unpack? header.type payload with
      | none => intake.poison (.unknownType header.type header.size) rest state
      | some (.error fault) => intake.poison (.malformed header.type fault.message) rest state
      | some (.ok (message, _)) =>
        let submitted := sink.submit (Message.group message) ⟨message, session⟩ state
        match submitted.1 with
        | .ok () => intake.takeFrames sink session rest (count + 1) submitted.2
        | .error fault => ⟨.error fault, rest, intake, submitted.2⟩ := by
  rw [takeFrames]
  split
  · next other => rw [seen] at other; cases other
  · next other => rw [seen] at other; cases other
  · next other =>
    rw [seen] at other
    cases other
    rfl

omit [Message M] in
/-- Frames are taken one by one: whatever holds where no whole frame stands in
front, where policy rejects the front, and where a frame is taken off before a
buffer of which it holds, holds of every buffer. -/
theorem buffer_induction (intake : Intake M) {motive : List UInt8 → Prop}
    (partialFrame : ∀ buffer, intake.look buffer = .partialFrame → motive buffer)
    (rejected : ∀ buffer breach, intake.look buffer = .rejected breach → motive buffer)
    (whole : ∀ buffer header payload rest, intake.look buffer = .whole header payload rest →
      motive rest → motive buffer) (buffer : List UInt8) : motive buffer := by
  induction size : buffer.length using Nat.strongRecOn generalizing buffer with
  | _ length ih =>
    cases seen : intake.look buffer with
    | partialFrame => exact partialFrame buffer seen
    | rejected breach => exact rejected buffer breach seen
    | whole header payload rest =>
      exact whole buffer header payload rest seen
        (ih rest.length (size ▸ rest_shorter intake seen) rest rfl)

/-! ## Longer buffers -/

/-- A call that ends without a fault leaves a buffer with no whole frame in
front, and leaves the intake as it was. -/
theorem takeFrames_settled {taken : Nat}
    (done : (intake.takeFrames sink session buffer count state).outcome = .ok taken) :
    intake.look (intake.takeFrames sink session buffer count state).buffer = .partialFrame ∧
      (intake.takeFrames sink session buffer count state).intake = intake := by
  induction buffer using intake.buffer_induction generalizing count state with
  | partialFrame buffer seen =>
    rw [takeFrames_partial seen]
    exact ⟨seen, rfl⟩
  | rejected buffer breach seen =>
    rw [takeFrames_rejected seen] at done
    cases done
  | whole buffer header payload rest seen ih =>
    rw [takeFrames_whole seen] at done ⊢
    split at done
    · cases done
    · cases done
    · rename_i message unread unpacked
      simp only at done ⊢
      split at done
      · exact ih done
      · cases done

/-- What comes behind the buffer waits for its turn: a call on the longer
buffer goes on where the call on the shorter one stopped. -/
theorem takeFrames_append_of_ok {taken : Nat} (more : List UInt8)
    (done : (intake.takeFrames sink session buffer count state).outcome = .ok taken) :
    intake.takeFrames sink session (buffer ++ more) count state =
      intake.takeFrames sink session
        ((intake.takeFrames sink session buffer count state).buffer ++ more) taken
        (intake.takeFrames sink session buffer count state).state := by
  induction buffer using intake.buffer_induction generalizing count state with
  | partialFrame buffer seen =>
    rw [takeFrames_partial seen] at done ⊢
    cases done
    rfl
  | rejected buffer breach seen =>
    rw [takeFrames_rejected seen] at done
    cases done
  | whole buffer header payload rest seen ih =>
    rw [takeFrames_whole (look_append_whole more seen)]
    rw [takeFrames_whole seen] at done ⊢
    split at done
    · cases done
    · cases done
    · simp only at done ⊢
      split at done
      · exact ih done
      · cases done

/-- A fault stops the call wherever the buffer ends: what comes behind is left
untouched. -/
theorem takeFrames_append_of_error {fault : Fault} (more : List UInt8)
    (stopped : (intake.takeFrames sink session buffer count state).outcome = .error fault) :
    intake.takeFrames sink session (buffer ++ more) count state =
      { intake.takeFrames sink session buffer count state with
        buffer := (intake.takeFrames sink session buffer count state).buffer ++ more } := by
  induction buffer using intake.buffer_induction generalizing count state with
  | partialFrame buffer seen =>
    rw [takeFrames_partial seen] at stopped
    cases stopped
  | rejected buffer breach seen =>
    rw [takeFrames_rejected (look_append_rejected more seen), takeFrames_rejected seen]
    rfl
  | whole buffer header payload rest seen ih =>
    rw [takeFrames_whole (look_append_whole more seen)]
    rw [takeFrames_whole seen] at stopped ⊢
    split at stopped
    · rfl
    · rfl
    · simp only at stopped ⊢
      split at stopped
      · exact ih stopped
      · rfl

/-- The count of a call is carried along and decides nothing. -/
theorem takeFrames_count (intake : Intake M) (sink : Sink M S) (session : Nat)
    (buffer : List UInt8) (count : Nat) (state : S) :
    intake.takeFrames sink session buffer count state =
      { intake.takeFrames sink session buffer 0 state with
        outcome := (intake.takeFrames sink session buffer 0 state).outcome.map (count + ·) } := by
  induction buffer using intake.buffer_induction generalizing count state with
  | partialFrame buffer seen =>
    rw [takeFrames_partial seen, takeFrames_partial seen]
    rfl
  | rejected buffer breach seen =>
    rw [takeFrames_rejected seen, takeFrames_rejected seen]
    rfl
  | whole buffer header payload rest seen ih =>
    rw [takeFrames_whole seen, takeFrames_whole seen]
    split
    · rfl
    · rfl
    · simp only
      split
      · rw [ih (count + 1), ih (0 + 1)]
        cases (intake.takeFrames sink session rest 0 _).outcome with
        | error fault => rfl
        | ok taken =>
          simp only [Except.map, Decoded.mk.injEq, Except.ok.injEq, and_true]
          omega
      · rfl

/-! ## Pieces and the whole -/

/-- A stream fed in pieces has come to what one call on all its bytes comes to.
The bytes that are left are compared only without a fault: after one, the pieces
that were never fed are in one buffer and not in the other. -/
structure CameTo (fed : Fed M S) (whole : Decoded M S) : Prop where
  state : fed.state = whole.state
  intake : fed.intake = whole.intake
  fault : ∀ fault, whole.outcome = .error fault → fed.fault = some fault
  count : ∀ count, whole.outcome = .ok count →
    fed.fault = none ∧ fed.counts.sum = count ∧ fed.buffer = whole.buffer

omit [Message M] in
private theorem CameTo.ok_of_faultless {fed : Fed M S} {whole : Decoded M S}
    (came : CameTo fed whole)
    (faultless : fed.fault = none) : ∃ count, whole.outcome = .ok count := by
  cases outcome : whole.outcome with
  | error fault =>
    rw [came.fault fault outcome] at faultless
    cases faultless
  | ok count => exact ⟨count, rfl⟩

/-- The induction is on the pieces still to come, and its invariant is that no
whole frame stands in front of what the earlier ones left. -/
theorem feed_came_to (pieces : List (List UInt8)) (counts : List Nat)
    (usable : intake.poisoned = false) (settled : intake.look buffer = .partialFrame) :
    CameTo (feed sink session pieces { counts, buffer, intake, state })
      (intake.takeFrames sink session (buffer ++ pieces.flatten) counts.sum state) := by
  induction pieces generalizing counts buffer state with
  | nil =>
    rw [List.flatten_nil, List.append_nil, takeFrames_partial settled]
    refine ⟨rfl, rfl, ?_, ?_⟩
    · intro _ stopped
      cases stopped
    · intro _ done
      cases done
      exact ⟨rfl, rfl, rfl⟩
  | cons piece pieces ih =>
    have call : intake.decode sink session (buffer ++ piece) state =
        intake.takeFrames sink session (buffer ++ piece) 0 state := by
      simp [decode, usable]
    have shifted := takeFrames_count intake sink session (buffer ++ piece) counts.sum state
    simp only [feed, call]
    rw [List.flatten_cons, ← List.append_assoc]
    cases outcome : (intake.takeFrames sink session (buffer ++ piece) 0 state).outcome with
    | error fault =>
      have stopped : (intake.takeFrames sink session (buffer ++ piece) counts.sum state).outcome =
          .error fault := by rw [shifted, outcome]; rfl
      rw [takeFrames_append_of_error _ stopped, shifted]
      refine ⟨rfl, rfl, ?_, ?_⟩
      · intro _ same
        rw [outcome] at same
        cases same
        rfl
      · intro _ done
        rw [outcome] at done
        cases done
    | ok taken =>
      obtain ⟨front, unchanged⟩ := takeFrames_settled outcome
      have done : (intake.takeFrames sink session (buffer ++ piece) counts.sum state).outcome =
          .ok (counts.sum + taken) := by rw [shifted, outcome]; rfl
      have sum : (counts ++ [taken]).sum = counts.sum + taken := by simp
      rw [takeFrames_append_of_ok _ done, shifted, unchanged, ← sum]
      exact ih (counts ++ [taken]) front

/-- Each submission that is taken counts for one, and a call that ends without
a fault has had every submission taken. -/
theorem recorded_count {state : S × List (Handed M)} {taken : Nat}
    (done : (intake.takeFrames sink.recorded session buffer count state).outcome = .ok taken) :
    (intake.takeFrames sink.recorded session buffer count state).state.2.length + count =
      state.2.length + taken := by
  induction buffer using intake.buffer_induction generalizing count state with
  | partialFrame buffer seen =>
    rw [takeFrames_partial seen] at done ⊢
    cases done
    rfl
  | rejected buffer breach seen =>
    rw [takeFrames_rejected seen] at done
    cases done
  | whole buffer header payload rest seen ih =>
    rw [takeFrames_whole seen] at done ⊢
    split at done
    · cases done
    · cases done
    · simp only at done ⊢
      split at done
      · have later := ih done
        simp only [Sink.recorded, List.length_append, List.length_singleton] at later ⊢
        omega
      · cases done

/-- What two runs over one stream share: the same tasks were handed to the sink
in the same order, the same fault ended both or none did, and both intakes are
poisoned or neither is. Without a fault the same bytes are left, and what the
calls gave adds up to the number of tasks. -/
structure Alike (one other : Fed M (S × List (Handed M))) : Prop where
  handed : one.state.2 = other.state.2
  fault : one.fault = other.fault
  poisoned : one.intake.poisoned = other.intake.poisoned
  buffer : one.fault = none → one.buffer = other.buffer
  counted : one.fault = none →
    one.counts.sum = one.state.2.length ∧ other.counts.sum = other.state.2.length

/-- A stream before its first byte. -/
def untouched (catalogue : Catalogue M) (forbidden : List UInt32) (start : S) :
    Fed M (S × List (Handed M)) :=
  { intake := { catalogue, forbidden }, state := (start, []) }

/-- **Decoding does not depend on how the stream is cut.** Any two ways of
cutting the same bytes into pieces, empty ones included, make runs that are
alike, whatever the sink answers and makes its answers depend on. -/
theorem feed_cut_independent (catalogue : Catalogue M) (forbidden : List UInt32)
    (sink : Sink M S) (session : Nat) (start : S) (first second : List (List UInt8))
    (same : first.flatten = second.flatten) :
    Alike (feed sink.recorded session first (untouched catalogue forbidden start))
      (feed sink.recorded session second (untouched catalogue forbidden start)) := by
  have fed (pieces : List (List UInt8)) :
      CameTo (feed sink.recorded session pieces (untouched catalogue forbidden start))
        (takeFrames ⟨catalogue, forbidden, false⟩ sink.recorded session pieces.flatten 0
          (start, [])) :=
    feed_came_to pieces [] rfl rfl
  have one := fed first
  have other := fed second
  rw [← same] at other
  generalize whole : takeFrames _ sink.recorded session first.flatten _ (start, []) = reached
    at one other
  refine ⟨congrArg Prod.snd (one.state.trans other.state.symm), ?_,
    congrArg Intake.poisoned (one.intake.trans other.intake.symm), ?_, ?_⟩
  · cases outcome : reached.outcome with
    | error fault => exact (one.fault fault outcome).trans (other.fault fault outcome).symm
    | ok count => exact (one.count count outcome).1.trans (other.count count outcome).1.symm
  · intro faultless
    obtain ⟨count, outcome⟩ := one.ok_of_faultless faultless
    exact (one.count count outcome).2.2.trans (other.count count outcome).2.2.symm
  · intro faultless
    obtain ⟨count, outcome⟩ := one.ok_of_faultless faultless
    have handed := recorded_count (whole ▸ outcome)
    rw [whole, List.length_nil, Nat.zero_add, Nat.add_zero] at handed
    exact ⟨(one.count count outcome).2.1.trans (one.state ▸ handed.symm),
      (other.count count outcome).2.1.trans (other.state ▸ handed.symm)⟩

/-- A frame cut inside its header, before its payload and inside it gives the
one task that it gives in one piece. -/
theorem ping_cut_independent :
    let pieces : List (List UInt8) :=
      [[0, 0, 0, 7, 0], [0, 0, 0, 0, 0, 0, 8], [], [0, 0, 0, 1, 0, 0], [0, 3]]
    let whole : List (List UInt8) := [[0, 0, 0, 7, 0, 0, 0, 0, 0, 0, 0, 8, 0, 0, 0, 1, 0, 0, 0, 3]]
    let start := untouched { listings := Keyed.ofFirst Trial.Telegram.listings } []
      (({}, {}) : Trial.Office)
    pieces.flatten = whole.flatten ∧
      ((feed Trial.sink.recorded 0 pieces start).state.2.map Handed.group = [3]) ∧
      Alike (feed Trial.sink.recorded 0 pieces start) (feed Trial.sink.recorded 0 whole start) :=
  ⟨by decide, by decide +kernel, feed_cut_independent _ _ _ _ _ _ _ (by decide)⟩

end Intake

end EventLoop
