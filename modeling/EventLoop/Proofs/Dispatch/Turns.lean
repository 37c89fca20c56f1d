import EventLoop.Proofs.Dispatch.Crew
import EventLoop.Proofs.Dispatch.Hall

/-! Tasks take turns. A worker begins a task when the one before has ended, and whatever a handler
sends it sends between the two, so what a worker has done is one turn after the other, in the order
in which the tasks came into its queue. That is the invariant, for each worker; the tasks of a
group are some of those of one worker. -/
namespace EventLoop

variable {M : Type}

/-! ## Reading a history -/

namespace Occasion

/-- The tasks that were handed to the workers, in order. -/
def tasks (history : List (Occasion M)) : List (Errand M) :=
  history.filterMap fun
    | .handed _ task => some task
    | _ => none

/-- Whether an occasion belongs to the running of a task of the kind `p`. -/
def upon (p : Errand M → Bool) : Occasion M → Bool
  | .began task => p task
  | .ended task _ => p task
  | .sent speaker _ => speaker.any p
  | _ => false

/-- What belongs to tasks of a narrower kind belongs to tasks of the wider one. -/
theorem upon_narrow {p q : Errand M → Bool} (within : ∀ task, q task = true → p task = true)
    (occasion : Occasion M) : (occasion.upon q && occasion.upon p) = occasion.upon q := by
  have task (task : Errand M) : (q task && p task) = q task :=
    Bool.and_eq_left_iff_imp.2 (within task)
  cases occasion with
  | began => exact task _
  | ended => exact task _
  | sent speaker =>
    cases speaker with
    | none => rfl
    | some speaker => exact task speaker
  | called => rfl
  | handed => rfl
  | taken => rfl

private theorem tasks_append (history more : List (Occasion M)) :
    tasks (history ++ more) = tasks history ++ tasks more := List.filterMap_append

end Occasion

/-- A task being run: what its handler has sent, and how it has ended, if it has. -/
structure Turn (M : Type) where
  task : Errand M
  speeches : List (Speech M) := []
  ending : Option Ending := none

/-- What a turn is in the history. -/
def Turn.occasions (turn : Turn M) : List (Occasion M) :=
  .began turn.task :: turn.speeches.map (.sent (some turn.task)) ++
    (turn.ending.map (.ended turn.task)).toList

/-- Of a number of turns, the occasions that belong to some tasks are the turns of these tasks. -/
theorem Turn.filter_occasions (p : Errand M → Bool) (turns : List (Turn M)) :
    (turns.flatMap Turn.occasions).filter (Occasion.upon p) =
      (turns.filter (p ·.task)).flatMap Turn.occasions := by
  induction turns with
  | nil => rfl
  | cons turn rest ih =>
    have alike : ∀ occasion ∈ turn.occasions, occasion.upon p = p turn.task := by
      intro occasion inside
      simp only [Turn.occasions, List.cons_append, List.mem_cons, List.mem_append, List.mem_map,
        Option.mem_toList, Option.map_eq_some_iff] at inside
      rcases inside with rfl | ⟨_, _, rfl⟩ | ⟨_, _, rfl⟩ <;> rfl
    rw [List.flatMap_cons, List.filter_append, ih]
    cases kind : p turn.task with
    | true =>
      have kept : (turn :: rest).filter (p ·.task) = turn :: rest.filter (p ·.task) :=
        List.filter_cons_of_pos kind
      rw [List.filter_eq_self.2 fun occasion inside => (alike occasion inside).trans kind, kept,
        List.flatMap_cons]
    | false =>
      have dropped : (turn :: rest).filter (p ·.task) = rest.filter (p ·.task) :=
        List.filter_cons_of_neg (by simp [kind])
      rw [List.filter_eq_nil_iff.2 fun occasion inside => by simp [alike occasion inside, kind],
        dropped, List.nil_append]

/-- Tasks of the kind `p` are run one after the other: each of `past` has ended before the next was
begun, and `present` is being run. -/
structure OneByOne (p : Errand M → Bool) (history : List (Occasion M)) (past : List (Turn M))
    (present : Option (Turn M)) : Prop where
  told : history.filter (Occasion.upon p) = (past ++ present.toList).flatMap Turn.occasions
  ended : ∀ turn ∈ past, turn.ending.isSome
  unended : ∀ turn ∈ present, turn.ending = none

namespace OneByOne

variable {p q : Errand M → Bool} {history more : List (Occasion M)} {past : List (Turn M)}
  {present : Option (Turn M)}

/-- What does not belong to any task of the kind changes nothing. -/
theorem aside (turns : OneByOne p history past present)
    (aside : more.filter (Occasion.upon p) = []) : OneByOne p (history ++ more) past present := by
  refine ⟨?_, turns.ended, turns.unended⟩
  rw [List.filter_append, aside, List.append_nil, turns.told]

private theorem begin {task : Errand M} (turns : OneByOne p history past none)
    (kind : p task = true) :
    OneByOne p (history ++ [.began task]) past (some { task }) := by
  refine ⟨?_, turns.ended, fun turn here => by cases here; rfl⟩
  have told := turns.told
  rw [Option.toList_none, List.append_nil] at told
  rw [List.filter_append, told, List.flatMap_append]
  simp [Occasion.upon, kind, Turn.occasions]

private theorem say {turn : Turn M} (turns : OneByOne p history past (some turn))
    (kind : p turn.task = true) (speech : Speech M) :
    OneByOne p (history ++ [.sent (some turn.task) speech]) past
      (some { turn with speeches := turn.speeches ++ [speech] }) := by
  have unended := turns.unended turn rfl
  refine ⟨?_, turns.ended, fun later here => by cases here; exact unended⟩
  rw [List.filter_append, turns.told, List.flatMap_append, List.flatMap_append]
  simp [Occasion.upon, kind, Turn.occasions, unended]

private theorem finish {turn : Turn M} (turns : OneByOne p history past (some turn))
    (kind : p turn.task = true) (ending : Ending) :
    OneByOne p (history ++ [.ended turn.task ending])
      (past ++ [{ turn with ending := some ending }]) none := by
  have unended := turns.unended turn rfl
  refine ⟨?_, ?_, fun later here => by cases here⟩
  · rw [List.filter_append, turns.told, List.flatMap_append, List.flatMap_append,
      List.flatMap_append]
    simp [Occasion.upon, kind, Turn.occasions, unended]
  · intro other inside
    rcases List.mem_append.1 inside with earlier | last
    · exact turns.ended other earlier
    · cases List.mem_singleton.1 last
      rfl

/-- The turns of fewer tasks. -/
theorem narrow (turns : OneByOne p history past present)
    (within : ∀ task, q task = true → p task = true) :
    OneByOne q history (past.filter (q ·.task)) (present.filter (q ·.task)) := by
  refine ⟨?_, fun turn inside => turns.ended turn (List.mem_filter.1 inside).1, ?_⟩
  · have told := congrArg (List.filter (Occasion.upon q)) turns.told
    rw [List.filter_filter, funext (Occasion.upon_narrow within), Turn.filter_occasions,
      List.filter_append] at told
    rw [told, Option.toList_filter]
  · intro turn inside
    exact turns.unended turn (Option.mem_filter_iff.1 inside).1

end OneByOne

/-! ## Workers -/

variable [Message M]

/-- Whether a task belongs to one of so many workers. -/
def onLane (workers lane : Nat) (task : Errand M) : Bool :=
  (Message.group task.message).toNat % workers == lane

namespace Hall

/-- What one worker has done, and what waits for it. -/
structure Laned (workers : Nat) (history : List (Occasion M)) (hall : Hall M) (lane : Nat)
    (past : List (Turn M)) (present : Option (Turn M)) (waiting : List (Errand M)) : Prop where
  turns : OneByOne (onLane workers lane) history past present
  tasks : (Occasion.tasks history).filter (onLane workers lane) =
    (past ++ present.toList).map Turn.task ++ waiting
  member : ∃ member, hall.lanes.crew[lane]? = some member ∧ member.Tends hall.shut waiting ∧
    member.running = present.map Turn.task

/-- Every worker goes through its tasks in turn, and while a decoder is called nobody has been told
to leave. -/
structure Tidy (workers : Nat) (history : List (Occasion M)) (hall : Hall M) : Prop where
  crew : hall.lanes.workers = workers
  serving : ∀ number, hall.reading = some number → hall.shut = false
  laned : ∀ lane < workers, ∃ past present waiting,
    hall.Laned workers history lane past present waiting

variable {workers lane : Nat} {history more : List (Occasion M)} {hall next : Hall M}
  {past : List (Turn M)} {present : Option (Turn M)} {waiting : List (Errand M)}

/-- The tasks that wait for a worker are its own. -/
theorem Laned.own_waiting (laned : hall.Laned workers history lane past present waiting) :
    ∀ task ∈ waiting, onLane workers lane task = true := by
  intro task waits
  have inside : task ∈ (Occasion.tasks history).filter (onLane workers lane) :=
    laned.tasks ▸ List.mem_append_right _ waits
  exact (List.mem_filter.1 inside).2

/-- So is the task that it runs. -/
theorem Laned.own_present (laned : hall.Laned workers history lane past present waiting) :
    ∀ turn ∈ present, onLane workers lane turn.task = true := by
  intro turn here
  have inside : turn.task ∈ (Occasion.tasks history).filter (onLane workers lane) := by
    rw [laned.tasks, List.map_append]
    exact List.mem_append_left _ (List.mem_append_right _
      (List.mem_map.2 ⟨turn, Option.mem_toList.2 here, rfl⟩))
  exact (List.mem_filter.1 inside).2

/-- Tasks of a narrower kind come up in the order in which they were handed in. -/
theorem Laned.narrow (laned : hall.Laned workers history lane past present waiting)
    {q : Errand M → Bool} (within : ∀ task, q task = true → onLane workers lane task = true) :
    (Occasion.tasks history).filter q =
      (past.filter (q ·.task) ++ (present.filter (q ·.task)).toList).map Turn.task ++
        waiting.filter q := by
  have both (task : Errand M) : (q task && onLane workers lane task) = q task :=
    Bool.and_eq_left_iff_imp.2 (within task)
  have tasks := congrArg (List.filter q) laned.tasks
  rw [List.filter_filter, funext both, List.filter_append, List.filter_map, List.filter_append]
    at tasks
  rw [tasks, Option.toList_filter]
  rfl

/-- What leaves a worker alone and is about tasks of others changes nothing for it. -/
theorem Laned.aside (laned : hall.Laned workers history lane past present waiting)
    (alone : next.lanes.crew[lane]? = hall.lanes.crew[lane]?) (shut : next.shut = hall.shut)
    (quiet : more.filter (Occasion.upon (onLane workers lane)) = [])
    (nothing : (Occasion.tasks more).filter (onLane workers lane) = []) :
    next.Laned workers (history ++ more) lane past present waiting := by
  refine ⟨laned.turns.aside quiet, ?_, ?_⟩
  · rw [Occasion.tasks_append, List.filter_append, nothing, List.append_nil, laned.tasks]
  · obtain ⟨member, there, tends, runs⟩ := laned.member
    exact ⟨member, alone.trans there, shut ▸ tends, runs⟩

/-- So it is for all workers, if nothing has come of what happened to any of them. -/
theorem Tidy.aside (tidy : hall.Tidy workers history) (lanes : next.lanes = hall.lanes)
    (shut : next.shut = hall.shut) (serving : ∀ number, next.reading = some number →
      next.shut = false)
    (quiet : ∀ p, more.filter (Occasion.upon p) = []) (nothing : Occasion.tasks more = []) :
    next.Tidy workers (history ++ more) := by
  refine ⟨lanes ▸ tidy.crew, serving, fun lane bound => ?_⟩
  obtain ⟨past, present, waiting, laned⟩ := tidy.laned lane bound
  exact ⟨past, present, waiting, laned.aside (by rw [lanes]) shut (quiet _) (by rw [nothing]; rfl)⟩

/-- While the workers serve, each group has its worker, and it is there. -/
theorem Tidy.submits (tidy : hall.Tidy workers history) (serving : hall.shut = false)
    (group : UInt64) (task : Errand M) :
    hall.lanes.submit group task =
      (true, hall.lanes.modify (hall.lanes.workerOf group) (Worker.give (.task task))) := by
  obtain ⟨past, present, waiting, laned⟩ :=
    tidy.laned _ (tidy.crew ▸ hall.lanes.workerOf_lt group)
  obtain ⟨member, there, tends, runs⟩ := laned.member
  rw [serving] at tends
  exact Lanes.submit_taken there tends.present task

/-- A task that is handed in waits for the worker of its group behind all that waited before. -/
theorem Tidy.hand (tidy : hall.Tidy workers history) (serving : hall.shut = false)
    (task : Errand M) (number : Nat)
    (lanes : next.lanes = (hall.lanes.submit (Message.group task.message) task).2)
    (shut : next.shut = hall.shut) : next.Tidy workers (history ++ [.handed number task]) := by
  rw [tidy.submits serving] at lanes
  refine ⟨?_, fun _ _ => shut.trans serving, fun lane within => ?_⟩
  · rw [lanes, Lanes.workers_modify, tidy.crew]
  obtain ⟨past, present, waiting, laned⟩ := tidy.laned lane within
  by_cases here : hall.lanes.workerOf (Message.group task.message) = lane
  · obtain ⟨member, there, tends, runs⟩ := laned.member
    have own : onLane workers lane task = true := by
      rw [onLane, ← tidy.crew]
      exact beq_iff_eq.2 here
    refine ⟨past, present, waiting ++ [task], laned.turns.aside rfl, ?_, member.give (.task task),
      ?_, ?_, runs⟩
    · rw [Occasion.tasks_append, List.filter_append, laned.tasks, List.append_assoc]
      simp [Occasion.tasks, own]
    · rw [lanes, here, Lanes.crew_modify_own there]
    · rw [shut, serving]
      exact (serving ▸ tends).give task
  · have other : onLane workers lane task = false := by
      rw [onLane, ← tidy.crew]
      exact beq_false_of_ne here
    refine ⟨past, present, waiting, laned.aside ?_ shut rfl ?_⟩
    · rw [lanes, Lanes.crew_modify_other here]
    · simp [Occasion.tasks, other]

/-- Whatever step a worker takes, it goes on with its turn or comes to the next. -/
theorem Laned.work (laned : hall.Laned workers history lane past present waiting)
    {done : WorkStep (Errand M)} {lanes : Lanes (Errand M)}
    (steps : hall.lanes.step lane = some (done, lanes)) (ending : Ending) :
    Occasion.tasks (done.occasions ending) = [] ∧
    (∀ other, lane ≠ other →
      (done.occasions ending).filter (Occasion.upon (onLane workers other)) = []) ∧
    ∃ past present waiting, ({ hall with lanes } : Hall M).Laned workers
      (history ++ done.occasions ending) lane past present waiting := by
  obtain ⟨member, there, tends, runs⟩ := laned.member
  obtain ⟨same, after, found, step, rfl⟩ := Lanes.step_cases steps
  cases there.symm.trans found
  obtain ⟨rest, tendsOn, moves⟩ := tends.step step
  have later := Lanes.crew_modify_own there fun _ => after
  have elsewhere (task : Errand M) (own : onLane workers lane task = true) {other : Nat}
      (apart : lane ≠ other) : onLane workers other task = false := by
    rw [onLane, beq_iff_eq] at own
    rw [onLane, own]
    exact beq_false_of_ne apart
  have kept (nothing : Occasion.tasks (done.occasions ending) = []) :
      (Occasion.tasks (history ++ done.occasions ending)).filter (onLane workers lane) =
        (past ++ present.toList).map Turn.task ++ waiting := by
    rw [Occasion.tasks_append, nothing, List.append_nil, laned.tasks]
  generalize ran : after.running = running at moves
  -- Whether a turn goes on decides what the worker can do: end it, or else begin the next or leave.
  cases present with
  | none =>
    rw [runs] at moves
    cases moves with
    | began task =>
      have own := laned.own_waiting task List.mem_cons_self
      refine ⟨rfl, fun other apart => ?_, past, some { task }, rest, laned.turns.begin own, ?_,
        after, later, tendsOn, ran⟩
      · simp [WorkStep.occasions, Occasion.upon, elsewhere task own apart]
      · rw [kept rfl]
        simp
    | left =>
      refine ⟨rfl, fun _ _ => rfl, past, none, [], laned.turns.aside rfl, kept rfl, after, later,
        tendsOn, ran⟩
  | some turn =>
    rw [runs] at moves
    cases moves with
    | ended =>
      have own := laned.own_present turn rfl
      refine ⟨rfl, fun other apart => ?_, _, none, waiting, laned.turns.finish own ending, ?_,
        after, later, tendsOn, ran⟩
      · simp [WorkStep.occasions, Occasion.upon, elsewhere turn.task own apart]
      · rw [kept rfl]
        simp

/-- A handler sends within its turn. -/
theorem Laned.say {turn : Turn M}
    (laned : hall.Laned workers history lane past (some turn) waiting) (speech : Speech M)
    (lanes : next.lanes = hall.lanes) (shut : next.shut = hall.shut) :
    next.Laned workers (history ++ [.sent (some turn.task) speech]) lane past
      (some { turn with speeches := turn.speeches ++ [speech] }) waiting := by
  refine ⟨laned.turns.say (laned.own_present turn rfl) speech, ?_, ?_⟩
  · rw [Occasion.tasks_append, List.filter_append, laned.tasks]
    simp [Occasion.tasks]
  · obtain ⟨member, there, tends, runs⟩ := laned.member
    exact ⟨member, lanes ▸ there, shut ▸ tends, runs⟩

/-- Each worker has a number. -/
theorem Tidy.bound (tidy : hall.Tidy workers history) {worker : Nat} {member : Worker (Errand M)}
    (there : hall.lanes.crew[worker]? = some member) : worker < workers :=
  tidy.crew ▸ (List.getElem?_eq_some_iff.1 there).1

/-- Who sends is either nobody's handler or in its turn. -/
theorem Tidy.say (tidy : hall.Tidy workers history) (speaker : Option (Errand M))
    (runs : ∀ task, speaker = some task →
      ∃ worker ∈ hall.lanes.crew, worker.running = some task)
    (speech : Speech M) (lanes : next.lanes = hall.lanes) (shut : next.shut = hall.shut)
    (reading : next.reading = hall.reading) :
    next.Tidy workers (history ++ [.sent speaker speech]) := by
  have serving (number : Nat) (here : next.reading = some number) : next.shut = false :=
    shut.trans (tidy.serving number (reading ▸ here))
  cases speaker with
  | none => exact tidy.aside lanes shut serving (fun _ => rfl) rfl
  | some task =>
    obtain ⟨member, inside, running⟩ := runs task rfl
    obtain ⟨worker, there⟩ := List.getElem?_of_mem inside
    refine ⟨lanes ▸ tidy.crew, serving, fun lane within => ?_⟩
    obtain ⟨past, present, waiting, laned⟩ := tidy.laned worker (tidy.bound there)
    -- Who runs the task is the worker whose turn it is, so the message belongs to that turn.
    obtain ⟨same, found, tends, ran⟩ := laned.member
    cases there.symm.trans found
    obtain ⟨turn, rfl, rfl⟩ := Option.map_eq_some_iff.1 (ran.symm.trans running)
    by_cases here : worker = lane
    · subst here
      exact ⟨past, _, waiting, laned.say speech lanes shut⟩
    · have own := laned.own_present turn rfl
      rw [onLane, beq_iff_eq] at own
      obtain ⟨past, present, waiting, laned⟩ := tidy.laned lane within
      refine ⟨past, present, waiting, laned.aside (by rw [lanes]) shut ?_ rfl⟩
      simp [Occasion.upon, onLane, own, here]

/-- Nobody gets out of turn, whatever happens. -/
theorem Tidy.step (tidy : hall.Tidy workers history) (step : Step hall more next) :
    next.Tidy workers (history ++ more) := by
  cases step with
  | call idle serving number bytes =>
    exact tidy.aside rfl rfl (fun _ _ => serving) (fun _ => rfl) rfl
  | @frame number header payload rest unread message reading seen unpacked taken lanes submitted =>
    have serving := tidy.serving number reading
    cases (tidy.submits serving _ _).symm.trans submitted
    exact tidy.hand serving ⟨message, (hall.lines number).session⟩ number
      (by rw [tidy.submits serving]) rfl
  | pause reading seen => exact tidy.aside rfl rfl (fun _ here => by cases here) (fun _ => rfl) rfl
  | reject reading seen => exact tidy.aside rfl rfl (fun _ here => by cases here) (fun _ => rfl) rfl
  | garble reading seen garbled =>
    exact tidy.aside rfl rfl (fun _ here => by cases here) (fun _ => rfl) rfl
  | @work worker done lanes steps ending =>
    obtain ⟨member, after, there, _, rfl⟩ := Lanes.step_cases steps
    obtain ⟨past, present, waiting, laned⟩ := tidy.laned worker (tidy.bound there)
    obtain ⟨nothing, quiet, own⟩ := laned.work steps ending
    refine ⟨(Lanes.workers_modify _ _ _).trans tidy.crew, tidy.serving, fun lane within => ?_⟩
    by_cases here : worker = lane
    · exact here ▸ own
    · obtain ⟨past, present, waiting, laned⟩ := tidy.laned lane within
      exact ⟨past, present, waiting, laned.aside (Lanes.crew_modify_other here _) rfl
        (quiet lane here) (by rw [nothing]; rfl)⟩
  | send speaker runs closed message key => exact tidy.say speaker runs _ rfl rfl rfl
  | take key => exact tidy.aside rfl rfl tidy.serving (fun _ => rfl) rfl
  | hush hushed => exact tidy.aside rfl rfl tidy.serving (fun _ => rfl) rfl
  | close idle serving =>
    refine ⟨(List.length_map _).trans tidy.crew, fun number here => ?_, fun lane within => ?_⟩
    · cases idle.symm.trans here
    obtain ⟨past, present, waiting, laned⟩ := tidy.laned lane within
    obtain ⟨member, there, tends, runs⟩ := laned.member
    refine ⟨past, present, waiting, laned.turns.aside rfl, ?_, member.give .leave, ?_,
      (serving ▸ tends).dismiss, runs⟩
    · rw [List.append_nil, laned.tasks]
    · simp [Lanes.close, there]

/-- At first every worker is idle. -/
theorem Opens.tidy (opens : hall.Opens workers) : hall.Tidy (max workers 1) [] := by
  refine ⟨?_, fun _ _ => opens.serving, fun lane within => ?_⟩
  · rw [opens.lanes]
    exact List.length_replicate
  refine ⟨[], none, [], ⟨rfl, by simp, by simp⟩, rfl, {}, ?_, opens.serving ▸ .serving [] none, rfl⟩
  rw [opens.lanes]
  simp [Lanes.start, within]

theorem Run.tidy (opens : hall.Opens workers) (run : Run hall history next) :
    next.Tidy (max workers 1) history := by
  induction run with
  | start => exact opens.tidy
  | step run step ih => exact ih.step step

end Hall

end EventLoop
