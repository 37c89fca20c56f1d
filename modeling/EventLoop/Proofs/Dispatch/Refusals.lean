import EventLoop.Proofs.Dispatch.Lives

/-! What a refusal costs. A frame is taken off the buffer before the sink is asked for its message,
and a refusal, unlike a violation, leaves the intake open. So the message that is refused is gone,
and a later call goes on with the frame behind it: if the sink takes that one, the stream has lost
a message in its middle (`refused_message_is_skipped`). That one message is all that a refusal
costs, and behind a sink that has closed for good nothing is ever skipped. -/
namespace EventLoop

variable {M S : Type}

/-! ## Answers in their order -/

/-- The messages that the sink took, of all that were handed in. -/
def messagesTaken (handed : List (Handed M)) : List M :=
  (handed.filter (·.answer.isOk)).map (·.task.message)

/-- Nothing was taken after a refusal. -/
def RefusalsLast (handed : List (Handed M)) : Prop :=
  handed.Pairwise fun one later => one.answer.isOk = false → later.answer.isOk = false

/-- As long as refusals last, what was taken comes before all that was refused. -/
theorem messagesTaken_come_first {handed : List (Handed M)} (lasting : RefusalsLast handed) :
    messagesTaken handed <+: handed.map (·.task.message) := by
  induction handed with
  | nil => exact List.prefix_rfl
  | cons one rest ih =>
    obtain ⟨first, others⟩ := List.pairwise_cons.1 lasting
    cases answer : one.answer.isOk with
    | true =>
      simp only [messagesTaken, List.filter_cons, answer, ↓reduceIte, List.map_cons]
      exact List.cons_prefix_cons.2 ⟨rfl, ih others⟩
    | false =>
      have none_taken : (one :: rest).filter (·.answer.isOk) = [] := by
        refine List.filter_eq_nil_iff.2 fun other inside => ?_
        rcases List.mem_cons.1 inside with here | later
        · simp [here, answer]
        · simp [first other later answer]
      rw [messagesTaken, none_taken]
      exact List.nil_prefix

/-- Whoever hands these in stops at the first refusal, and gives its fault. -/
def StopsAtRefusal (handed : List (Handed M)) (outcome : Except Fault Nat) : Prop :=
  ∀ before one after fault, handed = before ++ one :: after → one.answer = .error fault →
    after = [] ∧ outcome = .error fault

private theorem StopsAtRefusal.nil (outcome : Except Fault Nat) :
    StopsAtRefusal (M := M) [] outcome := by
  intro before one after fault split
  simp at split

private theorem StopsAtRefusal.cons {one : Handed M} {handed : List (Handed M)}
    {outcome : Except Fault Nat} (took : one.answer = .ok ())
    (stops : StopsAtRefusal handed outcome) : StopsAtRefusal (one :: handed) outcome := by
  intro before other after fault split refused
  cases before with
  | nil =>
    obtain ⟨rfl, -⟩ := List.cons.inj split
    rw [took] at refused
    cases refused
  | cons first before => exact stops before other after fault (List.cons.inj split).2 refused

/-- A call stops at the first refusal, and what it gives is that refusal. -/
theorem Intake.takeFrames_stops [Message M] (intake : Intake M) (sink : Sink M S)
    (session : Nat) (buffer : List UInt8) (count : Nat) (state : S) (handed : List (Handed M)) :
    let decoded := intake.takeFrames sink.recorded session buffer count (state, handed)
    ∃ more, decoded.state.2 = handed ++ more ∧ StopsAtRefusal more decoded.outcome := by
  induction buffer using intake.buffer_induction generalizing count state handed with
  | partialFrame buffer seen =>
    rw [takeFrames_partial seen]
    exact ⟨[], (List.append_nil _).symm, .nil _⟩
  | rejected buffer breach seen =>
    rw [takeFrames_rejected seen]
    exact ⟨[], (List.append_nil _).symm, .nil _⟩
  | whole buffer header payload rest seen ih =>
    rw [takeFrames_whole seen]
    split
    · exact ⟨[], (List.append_nil _).symm, .nil _⟩
    · exact ⟨[], (List.append_nil _).symm, .nil _⟩
    · next message unread unpacked =>
      simp only [Sink.recorded]
      split
      · next took =>
        let one : Handed M := ⟨Message.group message, ⟨message, session⟩,
          (sink.submit (Message.group message) ⟨message, session⟩ state).1⟩
        obtain ⟨more, grown, stops⟩ := ih (count + 1)
          (sink.submit (Message.group message) ⟨message, session⟩ state).2 (handed ++ [one])
        refine ⟨one :: more, ?_, stops.cons took⟩
        exact grown.trans (List.append_assoc _ _ _)
      · next fault refused =>
        refine ⟨[_], rfl, fun before one after other split answer => ?_⟩
        cases before with
        | nil =>
          obtain ⟨rfl, rfl⟩ := List.cons.inj split
          cases refused.symm.trans answer
          exact ⟨rfl, rfl⟩
        | cons first before => simp at split

namespace Inlet

variable [Message M] {sink : Sink M S} {goesOn : S → S → Prop} {start inlet : Inlet M S}
  {calls : List (Call M)}

private theorem Run.stops (run : Run sink goesOn start calls inlet) :
    ∀ call ∈ calls, StopsAtRefusal call.handed call.outcome := by
  induction run with
  | start =>
    intro call inside
    cases inside
  | @call calls inlet run session bytes ih =>
    refine List.forall_mem_append.2 ⟨ih, List.forall_mem_singleton.2 ?_⟩
    simp only [decode, Intake.decode]
    split
    · rw [List.drop_length]
      exact .nil _
    · obtain ⟨more, grown, stops⟩ := inlet.intake.takeFrames_stops sink session
        (inlet.buffer ++ bytes) 0 inlet.state inlet.handed
      rw [grown, List.drop_left]
      exact stops
  | onwards run goes ih => exact ih

/-- **A refusal costs the one message that was refused.** Whatever the bytes and how they are cut,
whichever sink and whatever it does between the calls: each message of the stream, up to the first
frame that breaks a rule or is malformed, has been handed in once and in its order or is still
ahead. A call hands in nothing more after a refusal, and gives the fault of the sink. So while
refusals last, the messages that the sink has taken are those at the front of the stream. -/
theorem refusal_costs_one_message {intake : Intake M} {state : S} (clean : intake.poisoned = false)
    (run : Run sink goesOn { intake, state } calls inlet) :
    (intake.messages (calls.flatMap Call.bytes) =
        inlet.handed.map (·.task.message) ++ inlet.intake.ahead inlet.buffer ∧
      inlet.handed = calls.flatMap Call.handed) ∧
    (∀ call ∈ calls, ∀ before one after fault, call.handed = before ++ one :: after →
      one.answer = .error fault → after = [] ∧ call.outcome = .error fault) ∧
    (RefusalsLast inlet.handed →
      messagesTaken inlet.handed <+: intake.messages (calls.flatMap Call.bytes)) := by
  have account := run.accounted clean
  have frames : intake.messages (calls.flatMap Call.bytes) =
      inlet.handed.map (·.task.message) ++ inlet.intake.ahead inlet.buffer := by
    simpa using account.frames []
  refine ⟨⟨frames, account.portions⟩, run.stops, fun lasting => ?_⟩
  rw [frames]
  exact (messagesTaken_come_first lasting).trans (List.prefix_append _ _)

end Inlet

/-! ## A sink with moods -/

/-- Answers as laid down, and takes everything when nothing is laid down any more. -/
def moody : Sink M (List Bool) where
  submit _ _ moods := (if moods.headD true then .ok () else .error .sinkClosed, moods.tail)

/-- A stream of telegrams, before its first byte, whose sink has these moods. -/
def beforeMoods (moods : List Bool) : Inlet Trial.Telegram (List Bool) where
  intake := { catalogue := { listings := Keyed.ofFirst Trial.Telegram.listings } }
  state := moods

namespace Inlet

/-- Of three tallies the second is refused, and from then on the sink is closed: the third is
refused by a call of its own. -/
theorem closed_sink_skips_nothing :
    ∃ calls inlet, Run (moody (M := Trial.Telegram)) (fun _ _ => False)
        (beforeMoods [true, false, false]) calls inlet ∧
      RefusalsLast inlet.handed ∧
      messagesTaken inlet.handed <+:
        (beforeMoods []).intake.messages (calls.flatMap Call.bytes) := by
  obtain ⟨calls, inlet, run, answers⟩ : ∃ calls inlet,
      Run (moody (M := Trial.Telegram)) (fun _ _ => False) (beforeMoods [true, false, false])
        calls inlet ∧
      inlet.handed.map (·.answer.isOk) = [true, false, false] :=
    ⟨_, _, Run.start
      |>.call 4 (Frame.bytes 20 [0, 0, 0, 1] ++ Frame.bytes 20 [0, 0, 0, 2])
      |>.call 4 (Frame.bytes 20 [0, 0, 0, 3]), by decide +kernel⟩
  have lasting : RefusalsLast inlet.handed := by
    have closed : (inlet.handed.map (·.answer.isOk)).Pairwise
        fun one later => one = false → later = false := by
      rw [answers]
      decide
    exact List.pairwise_map.1 closed
  obtain ⟨_, _, front⟩ := refusal_costs_one_message rfl run
  exact ⟨calls, inlet, run, lasting, front lasting⟩

/-- The first of two tallies is refused, and a later call hands in the second, which is taken. What
the sink has taken is no longer the front of the stream. -/
theorem refused_message_is_skipped :
    ¬ ∀ calls inlet, Run (moody (M := Trial.Telegram)) (fun _ _ => False) (beforeMoods [false])
        calls inlet →
      messagesTaken inlet.handed <+:
        (beforeMoods []).intake.messages (calls.flatMap Call.bytes) := by
  intro always
  have skipped := always _ _ (Run.start
    |>.call 4 (Frame.bytes 20 [0, 0, 0, 1] ++ Frame.bytes 20 [0, 0, 0, 2])
    |>.call 4 [])
  revert skipped
  decide +kernel

end Inlet

end EventLoop
