import EventLoop.Proofs.Dispatch.Turns
import EventLoop.Trial.Telegram

/-! From the bytes of a stream to the bytes of an answer, nothing changes its order. What a decoder
has handed in so far is what one call on all the bytes so far would hand in, up to the frame it is
at; what waits for a worker is what it will run, in that order; and what waits in a session is what
was sent there, in the order in which it was sent. -/
namespace EventLoop

variable {M : Type}

/-! ## Streams -/

/-- A sink that takes everything. -/
def Sink.gathering : Sink M (List (Errand M)) where
  submit _ task tasks := (.ok (), tasks ++ [task])

section Lines

variable [Message M]

/-- One call on all the bytes of a stream that nobody has used. -/
def Line.whole (bytes : List UInt8) (fresh : Line M) : Decoded M (List (Errand M)) :=
  fresh.intake.decode Sink.gathering fresh.session bytes []

/-- What has become of a stream that was fresh, on which these bytes have come and of which these
tasks have been handed in. `reading` says whether a call of its decoder goes on. -/
inductive Line.Course (fresh : Line M) (bytes : List UInt8) (tasks : List (Errand M)) :
    Bool → Line M → Prop where
  | going {reading : Bool} (buffer : List UInt8)
      (same : fresh.whole bytes =
        fresh.intake.takeFrames Sink.gathering fresh.session buffer tasks.length tasks)
      (settled : reading = false → fresh.intake.look buffer = .partialFrame) :
      Course fresh bytes tasks reading { fresh with buffer }
  | broken {fault : Fault} (buffer : List UInt8)
      (stopped : (fresh.whole bytes).outcome = .error fault)
      (same : (fresh.whole bytes).state = tasks) :
      Course fresh bytes tasks false
        { fresh with intake := { fresh.intake with poisoned := true }, buffer }

namespace Line.Course

variable {fresh line : Line M} {bytes : List UInt8} {tasks : List (Errand M)} {reading : Bool}

private theorem feed (clean : fresh.intake.poisoned = false)
    (course : Course fresh bytes tasks false line) (more : List UInt8) :
    Course fresh (bytes ++ more) tasks (!line.intake.poisoned)
      { line with buffer := line.buffer ++ more } := by
  have whole (bytes : List UInt8) : fresh.whole bytes =
      fresh.intake.takeFrames Sink.gathering fresh.session bytes 0 [] := by
    simp [Line.whole, Intake.decode, clean]
  cases course with
  | going buffer same settled =>
    rw [Intake.takeFrames_partial (settled rfl), whole] at same
    have longer := Intake.takeFrames_append_of_ok more (congrArg Decoded.outcome same)
    rw [same] at longer
    rw [clean]
    exact .going _ ((whole _).trans longer) fun stopped => by cases stopped
  | broken buffer stopped same =>
    rw [whole] at stopped same
    have longer := Intake.takeFrames_append_of_error more stopped
    exact .broken _ (by rw [whole, longer]; exact stopped) (by rw [whole, longer]; exact same)

private theorem frame {header : Frame.Header} {payload rest unread : List UInt8} {message : M}
    (course : Course fresh bytes tasks true line)
    (seen : line.intake.look line.buffer = .whole header payload rest)
    (unpacked : line.intake.catalogue.unpack? header.type payload = some (.ok (message, unread))) :
    Course fresh bytes (tasks ++ [⟨message, line.session⟩]) true { line with buffer := rest } := by
  cases course with
  | going buffer same =>
    rw [Intake.takeFrames_whole seen, unpacked] at same
    refine .going rest ?_ fun stopped => by cases stopped
    rw [List.length_append]
    exact same

private theorem pause (course : Course fresh bytes tasks true line)
    (seen : line.intake.look line.buffer = .partialFrame) :
    Course fresh bytes tasks false line := by
  cases course with
  | going buffer same => exact .going buffer same fun _ => seen

private theorem reject {breach : Violation} (course : Course fresh bytes tasks true line)
    (seen : line.intake.look line.buffer = .rejected breach) :
    Course fresh bytes tasks false
      { line with intake := { line.intake with poisoned := true } } := by
  cases course with
  | going buffer same =>
    rw [Intake.takeFrames_rejected seen] at same
    exact .broken buffer (congrArg Decoded.outcome same) (congrArg Decoded.state same)

private theorem garble {header : Frame.Header} {payload rest : List UInt8}
    (course : Course fresh bytes tasks true line)
    (seen : line.intake.look line.buffer = .whole header payload rest)
    (garbled : ∀ read, line.intake.catalogue.unpack? header.type payload ≠ some (.ok read)) :
    Course fresh bytes tasks false
      { line with intake := { line.intake with poisoned := true }, buffer := rest } := by
  cases course with
  | going buffer same =>
    rw [Intake.takeFrames_whole seen] at same
    split at same
    · exact .broken rest (congrArg Decoded.outcome same) (congrArg Decoded.state same)
    · exact .broken rest (congrArg Decoded.outcome same) (congrArg Decoded.state same)
    · next read => exact absurd read (garbled _)

end Line.Course

/-- A call hands in what it hands in behind what was handed in before. -/
theorem Intake.gathered (intake : Intake M) (session count : Nat) (buffer : List UInt8)
    (tasks : List (Errand M)) :
    tasks <+: (intake.takeFrames Sink.gathering session buffer count tasks).state := by
  induction buffer using intake.buffer_induction generalizing count tasks with
  | partialFrame buffer seen => simp only [takeFrames_partial seen, List.prefix_refl]
  | rejected buffer breach seen => simp only [takeFrames_rejected seen, poison, List.prefix_refl]
  | whole buffer header payload rest seen ih =>
    rw [takeFrames_whole seen]
    split
    · exact List.prefix_refl tasks
    · exact List.prefix_refl tasks
    · exact (List.prefix_append tasks _).trans (ih (count + 1) _)

/-- Whatever has been handed in is the beginning of what there is to hand in, and all of it unless
a call goes on. -/
theorem Line.Course.handed {fresh line : Line M} {bytes : List UInt8} {tasks : List (Errand M)}
    {reading : Bool} (course : Line.Course fresh bytes tasks reading line) :
    tasks <+: (fresh.whole bytes).state ∧
      (reading = false → tasks = (fresh.whole bytes).state) := by
  cases course with
  | going buffer same settled =>
    rw [same]
    refine ⟨Intake.gathered _ _ _ _ _, fun stopped => ?_⟩
    rw [Intake.takeFrames_partial (settled stopped)]
  | broken buffer stopped same =>
    rw [same]
    exact ⟨List.prefix_refl tasks, fun _ => rfl⟩

end Lines

/-! ## More of a history -/

namespace Occasion

/-- The tasks of one stream that were handed to the workers. -/
def tasksFrom (number : Nat) (history : List (Occasion M)) : List (Errand M) :=
  history.filterMap fun
    | .handed line task => if line = number then some task else none
    | _ => none

/-- All that has come on one stream. -/
def bytesOn (number : Nat) (history : List (Occasion M)) : List UInt8 :=
  history.flatMap fun
    | .called line bytes => if line = number then bytes else []
    | _ => []

/-- Whose message an occasion writes into a session, and which. -/
def write? (key : Nat) : Occasion M → Option (Option (Errand M) × M)
  | .sent speaker speech =>
    if speech.key = key ∧ Sessions.isWritten speech.outcome then some (speaker, speech.message)
    else none
  | _ => none

/-- The messages whose frames were written into a session, with the tasks that sent them. -/
def written (key : Nat) (history : List (Occasion M)) : List (Option (Errand M) × M) :=
  history.filterMap (write? key)

/-- All that was taken out of a session. -/
def drawn (key : Nat) (history : List (Occasion M)) : List UInt8 :=
  history.flatMap fun
    | .taken other bytes => if other = key then bytes else []
    | _ => []

section Append

variable (history more : List (Occasion M)) (number key : Nat)

private theorem tasksFrom_append :
    tasksFrom number (history ++ more) = tasksFrom number history ++ tasksFrom number more :=
  List.filterMap_append

private theorem bytesOn_append :
    bytesOn number (history ++ more) = bytesOn number history ++ bytesOn number more :=
  List.flatMap_append

private theorem written_append :
    written key (history ++ more) = written key history ++ written key more :=
  List.filterMap_append

private theorem drawn_append : drawn key (history ++ more) = drawn key history ++ drawn key more :=
  List.flatMap_append

end Append

/-- Of what was written into a session, the part of some tasks is what their handlers wrote. -/
theorem written_filter (p : Errand M → Bool) (key : Nat) (history : List (Occasion M)) :
    (written key history).filter (fun entry => entry.1.any p) =
      written key (history.filter (upon p)) := by
  rw [written, written, List.filter_filterMap, List.filterMap_filter]
  congr 1
  funext occasion
  cases occasion with
  | sent speaker speech =>
    by_cases here : speech.key = key ∧ Sessions.isWritten speech.outcome
    · simp [write?, here, upon, Option.filter]
    · simp [write?, here]
  | began task => simp [write?]
  | ended task ending => simp [write?]
  | called line bytes => rfl
  | handed line task => rfl
  | taken other bytes => rfl

end Occasion

namespace Hall

variable [Message M] {opening hall next : Hall M} {history more : List (Occasion M)} {workers : Nat}

/-! ## Streams in a hall -/

/-- Every stream of a hall has taken its course. -/
def Lined (opening : Hall M) (history : List (Occasion M)) (hall : Hall M) : Prop :=
  ∀ number, Line.Course (opening.lines number) (Occasion.bytesOn number history)
    (Occasion.tasksFrom number history) (hall.reading = some number) (hall.lines number)

private theorem Lined.aside (lined : Lined opening history hall) (lines : next.lines = hall.lines)
    (reading : next.reading = hall.reading) (bytes : ∀ number, Occasion.bytesOn number more = [])
    (tasks : ∀ number, Occasion.tasksFrom number more = []) :
    Lined opening (history ++ more) next := by
  intro number
  rw [lines, reading, Occasion.bytesOn_append, bytes, List.append_nil, Occasion.tasksFrom_append,
    tasks, List.append_nil]
  exact lined number

/-- What happens on one stream is nothing to the others, of which none is being decoded. -/
theorem Lined.one (lined : Lined opening history hall) (number : Nat)
    (lines : ∀ other ≠ number, next.lines other = hall.lines other)
    (before : ∀ other, hall.reading = some other → other = number)
    (after : ∀ other, next.reading = some other → other = number)
    (bytes : ∀ other ≠ number, Occasion.bytesOn other more = [])
    (tasks : ∀ other ≠ number, Occasion.tasksFrom other more = [])
    (own : Line.Course (opening.lines number) (Occasion.bytesOn number (history ++ more))
      (Occasion.tasksFrom number (history ++ more)) (next.reading = some number)
      (next.lines number)) : Lined opening (history ++ more) next := by
  intro other
  by_cases here : other = number
  · exact here ▸ own
  · have course := lined other
    rw [decide_eq_false fun read => here (before other read)] at course
    rw [lines other here, decide_eq_false fun read => here (after other read),
      Occasion.bytesOn_append,
      bytes other here, List.append_nil, Occasion.tasksFrom_append, tasks other here,
      List.append_nil]
    exact course

/-- A stream whose decoder goes on with a call. -/
theorem Lined.reading (lined : Lined opening history hall) {number : Nat}
    (reading : hall.reading = some number) :
    Line.Course (opening.lines number) (Occasion.bytesOn number history)
      (Occasion.tasksFrom number history) true (hall.lines number) := by
  have course := lined number
  rwa [decide_eq_true reading] at course

private theorem Lined.call (clean : ∀ number, (opening.lines number).intake.poisoned = false)
    (lined : Lined opening history hall) (idle : hall.reading = none) (number : Nat)
    (bytes : List UInt8) :
    Lined opening (history ++ [.called number bytes])
      { hall.withLine number { hall.lines number with
          buffer := (hall.lines number).buffer ++ bytes } with
        reading := if (hall.lines number).intake.poisoned then none else some number } := by
  refine lined.one number (fun other apart => withLine_other apart _ hall)
    (fun other here => by cases idle.symm.trans here) (fun other here => ?_)
    (fun other apart => ?_) (fun _ _ => rfl) ?_
  · simp only at here
    split at here
    · cases here
    · exact (Option.some.inj here).symm
  · simp [Occasion.bytesOn, Ne.symm apart]
  · have course := lined number
    rw [idle] at course
    have came : Occasion.bytesOn number (history ++ [.called number bytes]) =
        Occasion.bytesOn number history ++ bytes := by
      rw [Occasion.bytesOn_append]
      simp [Occasion.bytesOn]
    have same : Occasion.tasksFrom number (history ++ [.called number bytes]) =
        Occasion.tasksFrom number history := by
      rw [Occasion.tasksFrom_append]
      exact List.append_nil _
    have reads : decide ((if (hall.lines number).intake.poisoned then none else some number) =
        some number) = !(hall.lines number).intake.poisoned := by
      cases (hall.lines number).intake.poisoned <;> simp
    rw [came, same, reads]
    exact (withLine_own number _ hall).symm ▸ course.feed (clean number) bytes

theorem Lined.frame (lined : Lined opening history hall) {number : Nat} {header : Frame.Header}
    {payload rest unread : List UInt8} {message : M} (reading : hall.reading = some number)
    (seen : (hall.lines number).intake.look (hall.lines number).buffer =
      .whole header payload rest)
    (unpacked : (hall.lines number).intake.catalogue.unpack? header.type payload =
      some (.ok (message, unread))) (lanes : Lanes (Errand M)) :
    Lined opening (history ++ [.handed number ⟨message, (hall.lines number).session⟩])
      { hall.withLine number { hall.lines number with buffer := rest } with
        lanes
        reading := some number } := by
  refine lined.one number (fun other apart => withLine_other apart _ hall)
    (fun other here => Option.some.inj (here.symm.trans reading))
    (fun other here => (Option.some.inj here).symm) (fun _ _ => rfl) (fun other apart => ?_) ?_
  · simp [Occasion.tasksFrom, Ne.symm apart]
  · have same : Occasion.bytesOn number
        (history ++ [.handed number ⟨message, (hall.lines number).session⟩]) =
        Occasion.bytesOn number history := by
      rw [Occasion.bytesOn_append]
      exact List.append_nil _
    have handed : Occasion.tasksFrom number
        (history ++ [.handed number ⟨message, (hall.lines number).session⟩]) =
        Occasion.tasksFrom number history ++ [⟨message, (hall.lines number).session⟩] := by
      rw [Occasion.tasksFrom_append]
      simp [Occasion.tasksFrom]
    rw [same, handed, decide_eq_true rfl]
    exact (withLine_own number _ hall).symm ▸ (lined.reading reading).frame seen unpacked

/-- A call ends without a frame. -/
theorem Lined.stop (lined : Lined opening history hall) {number : Nat}
    (reading : hall.reading = some number)
    (lines : ∀ other ≠ number, next.lines other = hall.lines other) (stopped : next.reading = none)
    (course : Line.Course (opening.lines number) (Occasion.bytesOn number history)
      (Occasion.tasksFrom number history) false (next.lines number)) :
    Lined opening (history ++ []) next := by
  refine lined.one number lines (fun other here => Option.some.inj (here.symm.trans reading))
    (fun other here => by cases stopped.symm.trans here) (fun _ _ => rfl) (fun _ _ => rfl) ?_
  rw [List.append_nil, stopped]
  exact course

/-- Nothing is handed in but in the order in which it stands on its stream. -/
theorem Lined.step (clean : ∀ number, (opening.lines number).intake.poisoned = false)
    (lined : Lined opening history hall) (tidy : hall.Tidy workers history)
    (step : Step hall more next) : Lined opening (history ++ more) next := by
  cases step with
  | call idle serving number bytes => exact lined.call clean idle number bytes
  | @frame number header payload rest unread message reading seen unpacked taken lanes submitted =>
    -- While a decoder is called the workers are there, so the task has been taken.
    cases (tidy.submits (tidy.serving number reading) _ _).symm.trans submitted
    exact lined.frame reading seen unpacked _
  | pause reading seen =>
    exact lined.stop reading (fun _ _ => rfl) rfl ((lined.reading reading).pause seen)
  | reject reading seen =>
    exact lined.stop reading (fun _ apart => withLine_other apart _ hall) rfl
      ((withLine_own _ _ hall).symm ▸ (lined.reading reading).reject seen)
  | garble reading seen garbled =>
    exact lined.stop reading (fun _ apart => withLine_other apart _ hall) rfl
      ((withLine_own _ _ hall).symm ▸ (lined.reading reading).garble seen garbled)
  | @work worker done lanes steps ending =>
    refine lined.aside rfl rfl (fun _ => ?_) fun _ => ?_ <;> cases done <;> rfl
  | send speaker runs closed message key =>
    exact lined.aside rfl rfl (fun _ => rfl) fun _ => rfl
  | take key => exact lined.aside rfl rfl (fun _ => rfl) fun _ => rfl
  | hush hushed => exact lined.aside rfl rfl (fun _ => rfl) fun _ => rfl
  | close idle serving => exact lined.aside rfl rfl (fun _ => rfl) fun _ => rfl

/-! ## Sessions in a hall -/

/-- What was taken out of each session and what waits in it are, one behind the other, the frames
of all that was written into it. -/
structure Flowing (history : List (Occasion M)) (hall : Hall M) : Prop where
  numbered : hall.sessions.Numbered
  exact : ∀ key, Occasion.drawn key history ++ hall.sessions.waiting key =
    Frame.stream ((Occasion.written key history).map Prod.snd)

private theorem Flowing.aside (flowing : Flowing history hall) (numbered : next.sessions.Numbered)
    (waiting : ∀ key, next.sessions.waiting key = hall.sessions.waiting key)
    (drawn : ∀ key, Occasion.drawn key more = [])
    (written : ∀ key, Occasion.written key more = []) : Flowing (history ++ more) next := by
  refine ⟨numbered, fun key => ?_⟩
  rw [Occasion.drawn_append, drawn, List.append_nil, waiting, Occasion.written_append, written,
    List.append_nil]
  exact flowing.exact key

private theorem Flowing.step (flowing : Flowing history hall) (step : Step hall more next) :
    Flowing (history ++ more) next := by
  cases step with
  | send speaker runs closed message key =>
    have leaves := Sessions.sendUnder_leaves flowing.numbered closed message key
    refine ⟨leaves.numbered, fun probe => ?_⟩
    rw [Occasion.drawn_append, Occasion.written_append, List.map_append, Frame.stream_append,
      ← flowing.exact probe, leaves.waiting]
    by_cases own : probe = key
    · subst own
      cases written : Sessions.isWritten (hall.sessions.sendUnder closed message probe).1 <;>
        simp [Occasion.drawn, Occasion.written, Occasion.write?, written, Frame.stream,
          Frame.encode]
    · simp [Occasion.drawn, Occasion.written, Occasion.write?, own, Ne.symm own, Frame.stream]
  | take key =>
    obtain ⟨taken, leaves⟩ := Sessions.takeOutbound_leaves flowing.numbered key
    refine ⟨leaves.numbered, fun probe => ?_⟩
    have nothing : Occasion.written probe
        [.taken key (hall.sessions.takeOutbound key).1] = ([] : List (Option (Errand M) × M)) := rfl
    rw [Occasion.drawn_append, Occasion.written_append, nothing, List.append_nil,
      ← flowing.exact probe, leaves.waiting, taken]
    by_cases own : probe = key
    · subst own
      simp [Occasion.drawn]
    · simp [Occasion.drawn, own, Ne.symm own]
  | hush hushed =>
    obtain ⟨numbered, waiting⟩ := hushed.quiet flowing.numbered
    exact flowing.aside numbered waiting (fun _ => rfl) fun _ => rfl
  | @work worker done lanes steps ending =>
    refine flowing.aside flowing.numbered (fun _ => rfl) (fun _ => ?_) fun _ => ?_ <;>
      cases done <;> rfl
  | @frame number header payload rest unread message reading seen unpacked taken lanes submitted =>
    refine flowing.aside flowing.numbered (fun _ => rfl) (fun _ => ?_) fun _ => ?_ <;>
      cases taken <;> rfl
  | call idle serving number bytes =>
    exact flowing.aside flowing.numbered (fun _ => rfl) (fun _ => rfl) fun _ => rfl
  | pause reading seen =>
    exact flowing.aside flowing.numbered (fun _ => rfl) (fun _ => rfl) fun _ => rfl
  | reject reading seen =>
    exact flowing.aside flowing.numbered (fun _ => rfl) (fun _ => rfl) fun _ => rfl
  | garble reading seen garbled =>
    exact flowing.aside flowing.numbered (fun _ => rfl) (fun _ => rfl) fun _ => rfl
  | close idle serving =>
    exact flowing.aside flowing.numbered (fun _ => rfl) (fun _ => rfl) fun _ => rfl

/-! ## Runs -/

private theorem Run.lined (opens : opening.Opens workers) (run : Run opening history hall) :
    Lined opening history hall := by
  induction run with
  | start =>
    intro number
    have fresh : opening.lines number = { opening.lines number with buffer := [] } := by
      rw [← opens.buffers number]
    rw [decide_eq_false (by rw [opens.reading]; simp)]
    conv => rhs; rw [fresh]
    refine .going [] ?_ fun _ => rfl
    simp [Line.whole, Intake.decode, opens.clean, Occasion.bytesOn, Occasion.tasksFrom]
  | step run step ih => exact ih.step opens.clean (run.tidy opens) step

private theorem Run.flowing (opens : opening.Opens workers) (run : Run opening history hall) :
    Flowing history hall := by
  induction run with
  | start =>
    refine ⟨opens.numbered, fun key => ?_⟩
    cases found : opening.sessions.get? key with
    | none => exact Sessions.waiting_of_missing found
    | some session =>
      exact (Sessions.waiting_of_found found).trans (opens.silent key session found)
  | step run step ih => exact ih.step step

/-- Whether a task belongs to a group. -/
def inGroup (group : UInt64) (task : Errand M) : Bool := Message.group task.message == group

/-- **Messages of one group are handled one after the other, in the order in which their frames
were decoded.** However many workers there are, however streams are cut and their calls follow each
other, and however workers go on and handlers end: no two turns of a group overlap, and they are
those of the tasks that were handed in, in that order, none left out; if the group's worker has
nothing to do, they are all of them. What each stream has handed in is in stream order, as one call
on all its bytes would have it. And what the handlers of the group have written into a session is
their turns' frames in the order of the turns, in a stream that leaves the session as it was
written. -/
theorem group_is_handled_in_order (opens : opening.Opens workers)
    (run : Run opening history hall) (group : UInt64) :
    ∃ past present,
      OneByOne (inGroup group) history past present ∧
      (past ++ present.toList).map Turn.task <+:
        (Occasion.tasks history).filter (inGroup group) ∧
      (hall.lanes.step (hall.lanes.workerOf group) = none →
        present = none ∧
          past.map Turn.task = (Occasion.tasks history).filter (inGroup group)) ∧
      (∀ number,
        Occasion.tasksFrom number history <+:
          ((opening.lines number).whole (Occasion.bytesOn number history)).state ∧
        (hall.reading ≠ some number → Occasion.tasksFrom number history =
          ((opening.lines number).whole (Occasion.bytesOn number history)).state)) ∧
      ∀ key,
        (Occasion.written key history).filter (fun entry => entry.1.any (inGroup group)) =
          (past ++ present.toList).flatMap (fun turn => Occasion.written key turn.occasions) ∧
        Occasion.drawn key history ++ hall.sessions.waiting key =
          Frame.stream ((Occasion.written key history).map Prod.snd) := by
  have tidy := run.tidy opens
  have bound := tidy.crew ▸ hall.lanes.workerOf_lt group
  obtain ⟨past, present, waiting, laned⟩ := tidy.laned _ bound
  obtain ⟨member, there, tends, runs⟩ := laned.member
  have within (task : Errand M) (kind : inGroup group task = true) :
      onLane (max workers 1) (hall.lanes.workerOf group) task = true := by
    rw [inGroup, beq_iff_eq] at kind
    rw [onLane, kind, ← tidy.crew]
    exact beq_self_eq_true _
  have order := laned.narrow within
  refine ⟨_, _, laned.turns.narrow within, ?_, fun stuck => ?_, fun number => ?_, fun key => ?_⟩
  · rw [order]
    exact List.prefix_append _ _
  · obtain ⟨rested, nothing⟩ := tends.idle (Lanes.step_none there stuck)
    have idle : present = none := Option.map_eq_none_iff.1 (runs.symm.trans rested)
    rw [idle, nothing] at order
    rw [idle, order]
    simp
  · obtain ⟨first, all⟩ := (run.lined opens number).handed
    exact ⟨first, fun stopped => all (decide_eq_false stopped)⟩
  · refine ⟨?_, (run.flowing opens).exact key⟩
    rw [Occasion.written_filter, (laned.turns.narrow within).told]
    exact List.filterMap_flatMap

/-- A hall with two workers in which telegrams are received. -/
def firm : Hall Trial.Telegram where
  lines number :=
    { intake := { catalogue := { listings := Keyed.ofFirst Trial.Telegram.listings } }
      session := number }
  lanes := Lanes.start 2

private theorem firm_opens : firm.Opens 2 where
  lanes := rfl
  reading := rfl
  serving := rfl
  buffers _ := rfl
  clean _ := rfl
  numbered _ _ found := by cases found
  silent _ _ found := by cases found

/-- A handler that breaks off does not keep the next task of its group, which came on another
stream in two pieces, from being run and from answering. -/
theorem next_of_group_is_handled :
    let boom : Errand Trial.Telegram := ⟨.boom, 0⟩
    let ping : Errand Trial.Telegram := ⟨.ping 1 3, 1⟩
    ∃ history hall past, firm.Opens 2 ∧ firm.Run history hall ∧
      .ended boom .brokeOff ∈ history ∧ past.map Turn.task = [boom, ping] ∧
      OneByOne (inGroup 3) history past none ∧
      Occasion.drawn 1 history = Frame.stream [Trial.Telegram.pong 1] := by
  intro boom ping
  have run := (Run.start : Run firm [] firm)
    |>.step (.hush (.open (.detached 5) rfl _))
    |>.step (.hush (.open (.detached 6) rfl _))
    |>.step (.call rfl rfl 0 [0, 0, 0, 41, 0, 0, 0, 0, 0, 0, 0, 0])
    |>.step (.frame rfl rfl rfl rfl)
    |>.step (.pause rfl rfl)
    |>.step (.call rfl rfl 1 [0, 0, 0, 7, 0, 0, 0, 0, 0, 0, 0, 8, 0, 0, 0])
    |>.step (.pause rfl rfl)
    |>.step (.call rfl rfl 1 [1, 0, 0, 0, 3])
    |>.step (.frame rfl rfl rfl rfl)
    |>.step (.pause rfl rfl)
    |>.step (.work (show Lanes.step 1 _ = _ from rfl) .done)
    |>.step (.work (show Lanes.step 1 _ = _ from rfl) .brokeOff)
    |>.step (.work (show Lanes.step 1 _ = _ from rfl) .done)
    |>.step (.send (some ping) (fun _ here => ⟨_, .tail _ (.head _), here⟩) false (.pong 1) 1)
    |>.step (.work (show Lanes.step 1 _ = _ from rfl) .done)
    |>.step (.take 1)
  obtain ⟨past, present, turns, _, idle, _, sent⟩ := group_is_handled_in_order firm_opens run 3
  obtain ⟨rfl, tasks⟩ := idle rfl
  exact ⟨_, _, past, firm_opens, run, List.mem_of_getElem? (i := 6) rfl, tasks, turns, (sent 1).2⟩

end Hall

end EventLoop
