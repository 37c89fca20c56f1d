import EventLoop.Proofs.Dispatch.Staff
import EventLoop.Proofs.Frame.Cuts

/-! From the frames of a stream to the ends of their messages. A decoder hands every message that
it unpacks to a sink, once and in the order of the frames, and with it goes the session of the call
that it was unpacked in; frames that break the rules, and whatever stands behind them, hand in
nothing. From there on the sink has the message, and its life is that of a task in custody. What
workers do while a call goes on is part of what the sink does with one submission or the next. -/
namespace EventLoop

variable {M S W : Type}

/-! ## The messages of a stream -/

/-- The messages that stand in a buffer, up to the first frame that breaks a rule, is malformed or
is not whole. -/
def Intake.messages (intake : Intake M) (buffer : List UInt8) : List M :=
  match _seen : intake.look buffer with
  | .whole header payload rest =>
    match intake.catalogue.unpack? header.type payload with
    | some (.ok (message, _)) => message :: intake.messages rest
    | _ => []
  | _ => []
termination_by buffer.length
decreasing_by exact rest_shorter intake ‹_›

/-- The messages that an intake can still hand in. A poisoned one hands in nothing. -/
def Intake.ahead (intake : Intake M) (buffer : List UInt8) : List M :=
  if intake.poisoned then [] else intake.messages buffer

namespace Intake

variable {intake : Intake M} {buffer payload rest : List UInt8} {header : Frame.Header}

private theorem messages_whole (seen : intake.look buffer = .whole header payload rest) :
    intake.messages buffer =
      match intake.catalogue.unpack? header.type payload with
      | some (.ok (message, _)) => message :: intake.messages rest
      | _ => [] := by
  rw [messages]
  split
  · next other =>
    rw [seen] at other
    cases other
    rfl
  · next other => exact absurd seen (other header payload rest)

private theorem messages_partial (seen : intake.look buffer = .partialFrame) :
    intake.messages buffer = [] := by
  rw [messages]
  split
  · next other =>
    rw [seen] at other
    cases other
  · rfl

private theorem messages_rejected {breach : Violation}
    (seen : intake.look buffer = .rejected breach) :
    intake.messages buffer = [] := by
  rw [messages]
  split
  · next other =>
    rw [seen] at other
    cases other
  · rfl

end Intake

/-! ## What a sink has been handed -/

/-- The tasks in custody are those that were handed in, taken or not as the sink said. -/
structure Custody.Covers (trade : Trade M W) (handed : List (Handed M)) (custody : Custody M W) :
    Prop where
  sound : custody.Sound trade
  tasks : custody.tasks = handed.map Handed.task
  verdicts : ∀ number one, handed[number]? = some one →
    custody.verdict number = some one.answer.isOk

private theorem Custody.Covers.size {trade : Trade M W} {handed : List (Handed M)}
    {custody : Custody M W} (covers : custody.Covers trade handed) :
    custody.charges.length = handed.length := by
  simpa [Custody.tasks] using congrArg List.length covers.tasks

/-- Nothing has been handed in to a sink to which nothing was offered. -/
theorem Custody.Covers.blank {trade : Trade M W} {custody : Custody M W}
    (unused : custody.charges = []) (blank : custody.history = []) :
    custody.Covers trade [] := by
  refine ⟨⟨?_, ?_⟩, by rw [Custody.tasks, unused]; rfl, ?_⟩
  · intro entry inside
    rw [blank] at inside
    cases inside
  · intro number charge found
    rw [unused] at found
    cases found
  · intro number one found
    cases found

/-- What has happened to a message that was handed in, by the answer that the sink gave. -/
theorem Custody.Covers.life {trade : Trade M W} {handed : List (Handed M)}
    {custody : Custody M W} (covers : custody.Covers trade handed) {number : Nat} {one : Handed M}
    (found : handed[number]? = some one) :
    (one.answer.isOk = false → custody.life number = [.refused, .destroyed one.task.message]) ∧
    (one.answer.isOk = true → ∃ world,
      let life := .taken :: .begun :: one.task.performing trade world
      custody.life number <+: life ∧ (custody.IsAtRest → custody.life number = life)) := by
  have verdict := covers.verdicts number one found
  obtain ⟨charge, there, decided⟩ := Option.bind_eq_some_iff.1 verdict
  have same : charge.task = one.task := by
    have tasks := congrArg (·[number]?) covers.tasks
    simpa [Custody.tasks, there, found] using tasks
  have life := covers.sound.lives number charge there
  have rest : custody.IsAtRest → charge.standby ≠ .waiting ∧ charge.standby ≠ .running :=
    fun rest => rest charge (List.mem_of_getElem? there)
  rw [same] at life
  generalize charge.standby = standby at life decided rest
  generalize custody.life number = past at life ⊢
  cases life with
  | offered => cases decided
  | refused =>
    refine ⟨fun _ => rfl, fun taken => ?_⟩
    rw [taken] at decided
    cases decided
  | waiting =>
    refine ⟨fun refused => ?_, fun _ => ⟨custody.world, ⟨_, rfl⟩, fun still => ?_⟩⟩
    · rw [refused] at decided
      cases decided
    · exact absurd rfl (rest still).1
  | running =>
    refine ⟨fun refused => ?_, fun _ => ⟨custody.world, ⟨_, rfl⟩, fun still => ?_⟩⟩
    · rw [refused] at decided
      cases decided
    · exact absurd rfl (rest still).2
  | done world =>
    refine ⟨fun refused => ?_, fun _ => ⟨world, List.prefix_rfl, fun _ => rfl⟩⟩
    rw [refused] at decided
    cases decided

section Serving

variable {sink : Sink M S} {trade : Trade M W} {goesOn : S → S → Prop}
  {custody : S → Custody M W} {fit : S → Prop} {state late : S} {handed : List (Handed M)}

private theorem Custody.Covers.onwards (serves : sink.Serves trade goesOn custody fit)
    (right : fit state) (covers : (custody state).Covers trade handed)
    (goes : goesOn state late) : (custody late).Covers trade handed := by
  obtain ⟨_, steps⟩ := serves.onwards state late right goes
  exact ⟨covers.sound.steps steps, steps.tasks.trans covers.tasks, fun number one found =>
    steps.verdict (covers.verdicts number one found)⟩

/-- One more is handed in. -/
theorem Custody.Covers.hand (serves : sink.Serves trade goesOn custody fit)
    (right : fit state) (covers : (custody state).Covers trade handed) (group : UInt64)
    (task : Errand M) :
    (custody (sink.submit group task state).2).Covers trade
      (handed ++ [⟨group, task, (sink.submit group task state).1⟩]) := by
  have steps := serves.submit group task state right
  have size := covers.size
  refine ⟨(covers.sound.offer task).steps steps, ?_, fun number one found => ?_⟩
  · rw [steps.tasks, List.map_append, ← covers.tasks]
    simp [Custody.tasks, Custody.offer]
  · rcases Nat.lt_or_ge number handed.length with before | beyond
    · rw [List.getElem?_append_left before] at found
      refine steps.verdict ?_
      rw [← covers.verdicts number one found, Custody.verdict, Custody.verdict, Custody.offer,
        List.getElem?_append_left (size.symm ▸ before)]
    · have own : number = handed.length := by
        have within := (List.getElem?_eq_some_iff.1 found).1
        simp only [List.length_append, List.length_singleton] at within
        omega
      subst own
      rw [List.getElem?_concat_length] at found
      cases found
      rw [← size]
      exact serves.answer group task state right

variable [Message M] {intake : Intake M} {session : Nat} {buffer : List UInt8} {count : Nat}

/-- Taking frames leaves all that was handed in covered. -/
theorem Custody.Covers.takeFrames (serves : sink.Serves trade goesOn custody fit)
    (right : fit state) (covers : (custody state).Covers trade handed) :
    let decoded := intake.takeFrames sink.recorded session buffer count (state, handed)
    fit decoded.state.1 ∧ (custody decoded.state.1).Covers trade decoded.state.2 := by
  induction buffer using intake.buffer_induction generalizing count state handed with
  | partialFrame buffer seen =>
    rw [Intake.takeFrames_partial seen]
    exact ⟨right, covers⟩
  | rejected buffer breach seen =>
    rw [Intake.takeFrames_rejected seen]
    exact ⟨right, covers⟩
  | whole buffer header payload rest seen ih =>
    rw [Intake.takeFrames_whole seen]
    split
    · exact ⟨right, covers⟩
    · exact ⟨right, covers⟩
    · next message unread unpacked =>
      have on := serves.keeps (Message.group message) ⟨message, session⟩ state right
      have more := covers.hand serves right (Message.group message) ⟨message, session⟩
      simp only [Sink.recorded]
      split
      · exact ih on more
      · exact ⟨on, more⟩

end Serving

/-! ## Each frame once -/

/-- What a call has handed in of the messages at the front of its buffer, with its own session.
Whatever comes behind the buffer stays ahead. -/
structure Intake.Hands (intake : Intake M) (session : Nat) (buffer : List UInt8)
    (handed more : List (Handed M)) (decoded : Decoded M (S × List (Handed M))) : Prop where
  grown : decoded.state.2 = handed ++ more
  sessions : ∀ one ∈ more, one.task.session = session
  policy : decoded.intake.poisoned = false → decoded.intake = intake
  frames : ∀ bytes, intake.messages (buffer ++ bytes) =
    more.map (·.task.message) ++ decoded.intake.ahead (decoded.buffer ++ bytes)

namespace Intake

variable {intake : Intake M} {session : Nat} {buffer rest payload : List UInt8}
  {handed more : List (Handed M)}

/-- A violation hands in nothing. -/
theorem Hands.poison (nothing : ∀ bytes, intake.messages (buffer ++ bytes) = [])
    (breach : Violation) (state : S) :
    intake.Hands session buffer handed [] (intake.poison breach rest (state, handed)) := by
  refine ⟨(List.append_nil _).symm, ?_, ?_, nothing⟩
  · intro one inside
    cases inside
  · intro clean
    cases clean

/-- A message at the front is handed in before those of the rest. -/
theorem Hands.cons {one : Handed M} {decoded : Decoded M (S × List (Handed M))}
    (hands : intake.Hands session rest (handed ++ [one]) more decoded)
    (first : ∀ bytes, intake.messages (buffer ++ bytes) =
      one.task.message :: intake.messages (rest ++ bytes)) (own : one.task.session = session) :
    intake.Hands session buffer handed (one :: more) decoded := by
  refine ⟨?_, List.forall_mem_cons.2 ⟨own, hands.sessions⟩, hands.policy, fun bytes => ?_⟩
  · rw [hands.grown, List.append_assoc]
    rfl
  · rw [first, hands.frames]
    rfl

/-- **A call hands in the messages at the front of its buffer**, once each and in their order, up
to the first that the sink refuses. -/
theorem takeFrames_hands [Message M] (clean : intake.poisoned = false) (sink : Sink M S)
    (session : Nat) (buffer : List UInt8) (count : Nat) (state : S) (handed : List (Handed M)) :
    ∃ more, intake.Hands session buffer handed more
      (intake.takeFrames sink.recorded session buffer count (state, handed)) := by
  have stays (rest : List UInt8) (bytes : List UInt8) :
      intake.ahead (rest ++ bytes) = intake.messages (rest ++ bytes) := by
    simp [ahead, clean]
  induction buffer using intake.buffer_induction generalizing count state handed with
  | partialFrame buffer seen =>
    rw [takeFrames_partial seen]
    exact ⟨[], (List.append_nil _).symm, by simp, fun _ => rfl, fun bytes => (stays _ _).symm⟩
  | rejected buffer breach seen =>
    rw [takeFrames_rejected seen]
    exact ⟨[], .poison (fun bytes => messages_rejected (look_append_rejected bytes seen)) _ _⟩
  | whole buffer header payload rest seen ih =>
    have first (bytes : List UInt8) := messages_whole (look_append_whole bytes seen)
    rw [takeFrames_whole seen]
    split
    · next unpacked =>
      exact ⟨[], .poison (fun bytes => by rw [first, unpacked]) _ _⟩
    · next unpacked =>
      exact ⟨[], .poison (fun bytes => by rw [first, unpacked]) _ _⟩
    · next message unread unpacked =>
      simp only [unpacked] at first
      simp only [Sink.recorded]
      split
      · obtain ⟨more, hands⟩ := ih (count + 1)
          (sink.submit (Message.group message) ⟨message, session⟩ state).2
          (handed ++ [⟨Message.group message, ⟨message, session⟩,
            (sink.submit (Message.group message) ⟨message, session⟩ state).1⟩])
        exact ⟨_, hands.cons first rfl⟩
      · refine ⟨[_], rfl, by simp, fun _ => rfl, fun bytes => ?_⟩
        rw [first, stays]
        rfl

end Intake

/-! ## Calls of a decoder -/

/-- The receiving end of one stream, a `Decoder` and its buffer: what comes in, and what has been
handed to a sink. -/
structure Inlet (M S : Type) where
  intake : Intake M
  buffer : List UInt8 := []
  state : S
  handed : List (Handed M) := []

namespace Inlet

/-- A call: the session it was made for, what had come since the call before, what it said, and
what it handed in. -/
structure Call (M : Type) where
  session : Nat
  bytes : List UInt8
  outcome : Except Fault Nat
  handed : List (Handed M)

section Calls

variable [Message M]

/-- Decodes what is in the buffer and what has come behind it. -/
def decode (sink : Sink M S) (session : Nat) (bytes : List UInt8) (inlet : Inlet M S) :
    Decoded M (S × List (Handed M)) :=
  inlet.intake.decode sink.recorded session (inlet.buffer ++ bytes) (inlet.state, inlet.handed)

def after (decoded : Decoded M (S × List (Handed M))) : Inlet M S where
  intake := decoded.intake
  buffer := decoded.buffer
  state := decoded.state.1
  handed := decoded.state.2

/-- Any number of calls, between which the sink goes on. -/
inductive Run (sink : Sink M S) (goesOn : S → S → Prop) (start : Inlet M S) :
    List (Call M) → Inlet M S → Prop where
  | start : Run sink goesOn start [] start
  | call {calls : List (Call M)} {inlet : Inlet M S} (run : Run sink goesOn start calls inlet)
      (session : Nat) (bytes : List UInt8) :
      Run sink goesOn start
        (calls ++ [⟨session, bytes, (inlet.decode sink session bytes).outcome,
          (inlet.decode sink session bytes).state.2.drop inlet.handed.length⟩])
        (after (inlet.decode sink session bytes))
  | onwards {calls : List (Call M)} {inlet : Inlet M S} {late : S}
      (run : Run sink goesOn start calls inlet) (goes : goesOn inlet.state late) :
      Run sink goesOn start calls { inlet with state := late }

/-- What came in has been handed in or is ahead. -/
structure Accounted (start : Inlet M S) (calls : List (Call M)) (inlet : Inlet M S) : Prop where
  policy : inlet.intake.poisoned = false → inlet.intake = start.intake
  frames : ∀ bytes, start.intake.messages (calls.flatMap Call.bytes ++ bytes) =
    inlet.handed.map (·.task.message) ++ inlet.intake.ahead (inlet.buffer ++ bytes)
  portions : inlet.handed = calls.flatMap Call.handed
  sessions : ∀ call ∈ calls, ∀ one ∈ call.handed, one.task.session = call.session
  settled : ∀ call, calls.getLast? = some call → call.outcome.isOk →
    inlet.intake.ahead inlet.buffer = []

variable {sink : Sink M S} {goesOn : S → S → Prop} {start inlet : Inlet M S}
  {calls : List (Call M)}

omit [Message M] in
/-- A call adds its own part to the account. -/
theorem Accounted.extend {next : Inlet M S} {call : Call M} (account : start.Accounted calls inlet)
    (policy : next.intake.poisoned = false → next.intake = start.intake)
    (frames : ∀ bytes, inlet.intake.ahead (inlet.buffer ++ (call.bytes ++ bytes)) =
      call.handed.map (·.task.message) ++ next.intake.ahead (next.buffer ++ bytes))
    (grown : next.handed = inlet.handed ++ call.handed)
    (sessions : ∀ one ∈ call.handed, one.task.session = call.session)
    (settled : call.outcome.isOk → next.intake.ahead next.buffer = []) :
    start.Accounted (calls ++ [call]) next := by
  refine ⟨policy, fun bytes => ?_, ?_, fun other inside => ?_, fun last here => ?_⟩
  · rw [List.flatMap_append, List.flatMap_singleton, List.append_assoc, account.frames, frames,
      grown, List.map_append, List.append_assoc]
  · rw [grown, account.portions, List.flatMap_append, List.flatMap_singleton]
  · rcases List.mem_append.1 inside with before | now
    · exact account.sessions other before
    · exact List.mem_singleton.1 now ▸ sessions
  · rw [List.getLast?_concat] at here
    exact Option.some.inj here ▸ settled

private theorem Accounted.call (account : start.Accounted calls inlet) (session : Nat)
    (bytes : List UInt8) :
    start.Accounted
      (calls ++ [⟨session, bytes, (inlet.decode sink session bytes).outcome,
        (inlet.decode sink session bytes).state.2.drop inlet.handed.length⟩])
      (after (inlet.decode sink session bytes)) := by
  cases broken : inlet.intake.poisoned with
  | true =>
    have refused : inlet.decode sink session bytes =
        ⟨.error (.violation .closed), inlet.buffer ++ bytes, inlet.intake, inlet.state,
          inlet.handed⟩ := by
      rw [decode, Intake.decode, if_pos broken]
    rw [refused]
    refine account.extend account.policy (fun more => ?_) ?_ ?_ fun well => ?_
    · simp [after, Intake.ahead, broken]
    · simp [after]
    · simp
    · cases well
  | false =>
    have same := account.policy broken
    have reads : inlet.decode sink session bytes =
        inlet.intake.takeFrames sink.recorded session (inlet.buffer ++ bytes) 0
          (inlet.state, inlet.handed) := by
      rw [decode, Intake.decode, broken]
      rfl
    obtain ⟨more, hands⟩ := Intake.takeFrames_hands broken sink session
      (inlet.buffer ++ bytes) 0 inlet.state inlet.handed
    rw [reads, hands.grown, List.drop_left]
    refine account.extend (fun going => (hands.policy going).trans same) (fun rest => ?_)
      hands.grown hands.sessions fun well => ?_
    · rw [← List.append_assoc, Intake.ahead, broken]
      exact hands.frames rest
    · cases outcome : (inlet.intake.takeFrames sink.recorded session (inlet.buffer ++ bytes) 0
          (inlet.state, inlet.handed)).outcome with
      | error fault =>
        rw [outcome] at well
        cases well
      | ok count =>
        obtain ⟨seen, kept⟩ := Intake.takeFrames_settled outcome
        simp only [after]
        rw [kept, Intake.ahead, Intake.messages_partial seen, ite_self]

theorem Run.accounted {intake : Intake M} {state : S} (clean : intake.poisoned = false)
    (run : Run sink goesOn { intake, state } calls inlet) :
    Accounted { intake, state } calls inlet := by
  induction run with
  | start =>
    refine ⟨fun _ => rfl, fun bytes => ?_, rfl, ?_, ?_⟩
    · simp [Intake.ahead, clean]
    · intro call inside
      cases inside
    · intro call here
      cases here
  | call run session bytes ih => exact ih.call session bytes
  | onwards run goes ih => exact ⟨ih.policy, ih.frames, ih.portions, ih.sessions, ih.settled⟩

variable {trade : Trade M W} {custody : S → Custody M W} {fit : S → Prop} {state : S}
  {intake : Intake M}

private theorem Run.covers (serves : sink.Serves trade goesOn custody fit) (fits : fit state)
    (blank : (custody state).Covers trade [])
    (run : Run sink goesOn { intake, state } calls inlet) :
    fit inlet.state ∧ (custody inlet.state).Covers trade inlet.handed := by
  induction run with
  | start => exact ⟨fits, blank⟩
  | @call calls inlet run session bytes ih =>
    simp only [decode, after, Intake.decode]
    split
    · exact ih
    · exact ih.2.takeFrames serves ih.1
  | onwards run goes ih =>
    exact ⟨(serves.onwards _ _ ih.1 goes).1, ih.2.onwards serves ih.1 goes⟩

/-- **Each message that is decoded lives once.** Whatever the bytes and how they are cut, whatever
is forbidden, and whichever sink deals properly with its tasks: what has been handed in, together
with what is still ahead, are the messages at the front of the stream, up to the first frame that
breaks a rule or is malformed, once each and in their order, each with the session of the call that
it was unpacked in. Nothing happens but to these. A message that was refused has been destroyed and
was never run. A message that was taken is run on what its own frame says and for its own session,
and what its handler leaves is destroyed after that, however the handler ends: both once, when the
sink is done with it, and neither before. -/
theorem each_message_lives_once (serves : sink.Serves trade goesOn custody fit)
    (fits : fit state) (unused : (custody state).charges = [])
    (blank : (custody state).history = []) (clean : intake.poisoned = false)
    (run : Run sink goesOn { intake, state } calls inlet) :
    (intake.messages (calls.flatMap Call.bytes) =
        inlet.handed.map (·.task.message) ++ inlet.intake.ahead inlet.buffer ∧
      ∀ call, calls.getLast? = some call → call.outcome.isOk →
        inlet.intake.ahead inlet.buffer = []) ∧
    (inlet.handed = calls.flatMap Call.handed ∧
      ∀ call ∈ calls, ∀ one ∈ call.handed, one.task.session = call.session) ∧
    (∀ entry ∈ (custody inlet.state).history, entry.1 < inlet.handed.length) ∧
    ∀ number one, inlet.handed[number]? = some one →
      let past := (custody inlet.state).life number
      (one.answer.isOk = false → past = [.refused, .destroyed one.task.message]) ∧
      (one.answer.isOk = true → ∃ world,
        let handled := trade.run one.task.message one.task.session world
        let life := [.taken, .begun,
          .handled one.task.message one.task.session handled.1 handled.2.1,
          .destroyed handled.2.1]
        past <+: life ∧ ((custody inlet.state).IsAtRest → past = life)) := by
  have account := run.accounted clean
  obtain ⟨_, covers⟩ := run.covers serves fits (.blank unused blank)
  refine ⟨⟨?_, account.settled⟩, ⟨account.portions, account.sessions⟩, ?_,
    fun number one found => ?_⟩
  · simpa using account.frames []
  · intro entry inside
    have known := covers.sound.known entry inside
    rwa [covers.size] at known
  · exact covers.life found

end Calls

/-- One worker and a stream on which telegrams come in, among which pongs are forbidden. -/
def parlour : Inlet Trial.Telegram (Staff Trial.Telegram Trial.Office) where
  intake := { catalogue := { listings := Keyed.ofFirst Trial.Telegram.listings }, forbidden := [8] }
  state := { lanes := Lanes.start 1, custody := { world := ({}, {}) } }

/-- A worker runs three telegrams, two of them alike and one that breaks off in between, and leaves.
The next is refused, and one that stands behind a forbidden frame is never handed in. -/
theorem like_messages_live_apart :
    ∃ calls inlet,
      Run (Staff.sink Trial.telegrams) (Staff.GoesOn Trial.telegrams) parlour calls inlet ∧
      inlet.handed.map (fun one => (one.task.message, one.task.session, one.answer.isOk)) =
        [(.tally 5, 4, true), (.boom, 4, true), (.tally 5, 4, true), (.tally 7, 9, false)] ∧
      inlet.state.custody.life 0 =
        [.taken, .begun, .handled (.tally 5) 4 .done (.tally 105), .destroyed (.tally 105)] ∧
      inlet.state.custody.life 1 =
        [.taken, .begun, .handled .boom 4 .brokeOff .boom, .destroyed .boom] ∧
      inlet.state.custody.life 2 =
        [.taken, .begun, .handled (.tally 5) 4 .done (.tally 105), .destroyed (.tally 105)] ∧
      inlet.state.custody.life 3 = [.refused, .destroyed (.tally 7)] := by
  obtain ⟨calls, inlet, run, handed, rest⟩ : ∃ calls inlet,
      Run (Staff.sink Trial.telegrams) (Staff.GoesOn Trial.telegrams) parlour calls inlet ∧
      inlet.handed.map (fun one => (one.task.message, one.task.session, one.answer.isOk)) =
        [(.tally 5, 4, true), (.boom, 4, true), (.tally 5, 4, true), (.tally 7, 9, false)] ∧
      inlet.state.custody.charges.all (fun charge =>
        charge.standby ≠ .waiting ∧ charge.standby ≠ .running) = true :=
    ⟨_, _, Run.start
      |>.call 4 (Frame.bytes 20 [0, 0, 0, 5] ++ Frame.bytes 41 [] ++ Frame.bytes 20 [0, 0, 0, 5])
      |>.onwards (.work 0) |>.onwards (.work 0) |>.onwards (.work 0) |>.onwards (.work 0)
      |>.onwards (.work 0) |>.onwards (.work 0) |>.onwards .close |>.onwards (.work 0)
      |>.call 9 (Frame.bytes 20 [0, 0, 0, 7])
      |>.call 9 (Frame.bytes 8 [0, 0, 0, 1] ++ Frame.bytes 20 [0, 0, 0, 9]),
      by decide +kernel, by decide +kernel⟩
  have still : inlet.state.custody.IsAtRest := by
    intro charge inside
    simpa using List.all_eq_true.1 rest charge inside
  obtain ⟨_, _, _, lives⟩ := each_message_lives_once (Staff.serves Trial.telegrams)
    (Staff.fit_start 1 (({}, {}) : Trial.Office)) rfl rfl rfl run
  have found (number : Nat) {fact : Trial.Telegram × Nat × Bool}
      (listed : (inlet.handed.map fun one =>
        (one.task.message, one.task.session, one.answer.isOk))[number]? = some fact) :
      ∃ one, inlet.handed[number]? = some one ∧
        (one.task.message, one.task.session, one.answer.isOk) = fact := by
    rw [List.getElem?_map] at listed
    exact Option.map_eq_some_iff.1 listed
  rw [handed] at found
  have ran (number : Nat) {message : Trial.Telegram} {session : Nat}
      (listed : [(Trial.Telegram.tally 5, 4, true), (.boom, 4, true), (.tally 5, 4, true),
        (.tally 7, 9, false)][number]? = some (message, session, true)) :
      ∃ world, inlet.state.custody.life number = .taken :: .begun ::
        Errand.performing Trial.telegrams ⟨message, session⟩ world := by
    obtain ⟨⟨group, ⟨message, session⟩, answer⟩, here, fact⟩ := found number listed
    simp only [Prod.mk.injEq] at fact
    obtain ⟨rfl, rfl, taken⟩ := fact
    obtain ⟨world, _, life⟩ := (lives number _ here).2 taken
    exact ⟨world, life still⟩
  refine ⟨calls, inlet, run, handed, ?_, ?_, ?_, ?_⟩
  · obtain ⟨world, life⟩ := ran 0 rfl
    exact life
  · obtain ⟨world, life⟩ := ran 1 rfl
    exact life
  · obtain ⟨world, life⟩ := ran 2 rfl
    exact life
  · obtain ⟨⟨group, ⟨message, session⟩, answer⟩, here, fact⟩ := found 3 rfl
    simp only [Prod.mk.injEq] at fact
    obtain ⟨rfl, rfl, refused⟩ := fact
    exact (lives 3 _ here).1 refused

end Inlet

end EventLoop
