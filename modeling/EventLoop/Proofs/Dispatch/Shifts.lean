import EventLoop.Dispatch
import EventLoop.Proofs.Dispatch.Crew
import Mathlib.Data.List.Nodup

/-! A shift, from the opening of the lanes until everybody has left. Tasks come from any number of
threads, workers go on at their own pace, and tasks end well or break off. Whoever drops the lanes
tells the workers to leave, one after the other, and then waits for each; workers go on meanwhile.
What a worker has done and what waits for it are at every moment the jobs of its lane in the order
in which they were submitted, and the end mark stands behind them all. -/
namespace EventLoop

variable {T : Type}

/-- A task as it was submitted. Submissions are numbered, so no two jobs are the same. -/
structure Job (T : Type) where
  number : Nat
  group : UInt64
  task : T

/-- The worker, of so many, that a job belongs to. -/
def Job.lane (workers : Nat) (job : Job T) : Nat := job.group.toNat % workers

/-- How far `ThreadPool::drop` has come. -/
inductive Dropping where
  /-- Nobody drops them. -/
  | unbegun
  /-- The workers before `next` have been told to leave. -/
  | telling (next : Nat)
  /-- All have been told, and those before `next` are known to have left. -/
  | joining (next : Nat)
  | gone
deriving DecidableEq

/-- Whether a worker has been told to leave. -/
def Dropping.hasTold (lane : Nat) : Dropping → Bool
  | .unbegun => false
  | .telling next => lane < next
  | .joining _ => true
  | .gone => true

/-- Whether a worker is known to have left. -/
def Dropping.hasJoined (lane : Nat) : Dropping → Bool
  | .unbegun => false
  | .telling _ => false
  | .joining next => lane < next
  | .gone => true

/-- A `ThreadPool` at work: the lanes, the jobs that were submitted to them so far, and how far
dropping them has come. -/
structure Shift (T : Type) where
  lanes : Lanes (Job T)
  book : List (Job T) := []
  dropping : Dropping := .unbegun

/-- What a worker does: a line of a shift's history. -/
inductive Labour (T : Type) where
  | began (worker : Nat) (job : Job T)
  | ended (worker : Nat) (job : Job T) (ending : Ending)

namespace Labour

def worker : Labour T → Nat
  | .began worker _ => worker
  | .ended worker _ _ => worker

def job : Labour T → Job T
  | .began _ job => job
  | .ended _ job _ => job

/-- Whether the job of this number is begun. -/
def begins (number : Nat) : Labour T → Bool
  | .began _ job => job.number = number
  | .ended _ _ _ => false

/-- Whether the job of this number has ended, in one way or another. -/
def ends (number : Nat) : Labour T → Bool
  | .began _ _ => false
  | .ended _ job _ => job.number = number

end Labour

/-- What a step of a worker is in the history. -/
def WorkStep.labours (worker : Nat) (ending : Ending) : WorkStep (Job T) → List (Labour T)
  | .began job => [.began worker job]
  | .ended job => [.ended worker job ending]
  | .left => []

namespace Shift

/-- As many workers as asked for, but at least one, and nothing submitted yet. -/
def opened (workers : Nat) : Shift T := { lanes := Lanes.start workers }

/-- One step of a shift. -/
inductive Step : Shift T → List (Labour T) → Shift T → Prop where
  /-- A thread submits a task, which it can do only as long as nobody drops the lanes. -/
  | submit {shift : Shift T} (unbegun : shift.dropping = .unbegun) (group : UInt64) (task : T)
      {taken : Bool} {lanes : Lanes (Job T)}
      (submitted : shift.lanes.submit group ⟨shift.book.length, group, task⟩ = (taken, lanes)) :
      Step shift []
        { shift with
          lanes
          book := if taken then shift.book ++ [⟨shift.book.length, group, task⟩] else shift.book }
  /-- A worker takes a step. A task may end in any way. -/
  | work {shift : Shift T} {worker : Nat} {done : WorkStep (Job T)} {lanes : Lanes (Job T)}
      (steps : shift.lanes.step worker = some (done, lanes)) (ending : Ending) :
      Step shift (done.labours worker ending) { shift with lanes }
  | drop {shift : Shift T} (unbegun : shift.dropping = .unbegun) :
      Step shift [] { shift with dropping := .telling 0 }
  | tell {shift : Shift T} {next : Nat} (telling : shift.dropping = .telling next)
      (more : next < shift.lanes.workers) :
      Step shift []
        { shift with
          lanes := shift.lanes.modify next (Worker.give .leave)
          dropping := .telling (next + 1) }
  | told {shift : Shift T} (telling : shift.dropping = .telling shift.lanes.workers) :
      Step shift [] { shift with dropping := .joining 0 }
  | join {shift : Shift T} {next : Nat} {member : Worker (Job T)}
      (joining : shift.dropping = .joining next) (there : shift.lanes.crew[next]? = some member)
      (gone : member.present = false) :
      Step shift [] { shift with dropping := .joining (next + 1) }
  /-- Every worker has left, and the lanes are gone. -/
  | finish {shift : Shift T} (joining : shift.dropping = .joining shift.lanes.workers) :
      Step shift [] { shift with dropping := .gone }

/-- A run, with what the workers have done in it. -/
inductive Run (start : Shift T) : List (Labour T) → Shift T → Prop where
  | start : Run start [] start
  | step {history more : List (Labour T)} {shift next : Shift T} (run : Run start history shift)
      (step : Step shift more next) : Run start (history ++ more) next

/-! ## Telling all at once -/

/-- Lanes of which the first `next` workers have been told to leave. -/
def toldUpTo (next : Nat) (lanes : Lanes T) : Lanes T :=
  ⟨lanes.crew.mapIdx fun worker member =>
      if worker < next then member.give .leave else member,
    by rw [List.length_mapIdx]; exact lanes.staffed⟩

private theorem toldUpTo_next (next : Nat) (lanes : Lanes T) :
    (toldUpTo next lanes).modify next (Worker.give .leave) = toldUpTo (next + 1) lanes := by
  simp only [toldUpTo, Lanes.modify, Lanes.mk.injEq]
  refine List.ext_getElem? fun worker => ?_
  rw [List.getElem?_modify, List.getElem?_mapIdx, List.getElem?_mapIdx]
  cases lanes.crew[worker]? with
  | none => rfl
  | some member =>
    rcases Nat.lt_trichotomy worker next with before | rfl | after
    · simp [before, Nat.lt_succ_of_lt before, Nat.ne_of_gt before]
    · simp
    · simp [Nat.lt_asymm after, Nat.ne_of_lt after, Nat.not_lt.2 (Nat.succ_le_of_lt after)]

private theorem toldUpTo_workers (lanes : Lanes T) :
    toldUpTo lanes.workers lanes = lanes.close := by
  simp only [toldUpTo, Lanes.close, Lanes.mk.injEq]
  refine List.ext_getElem? fun worker => ?_
  rw [List.getElem?_mapIdx, List.getElem?_map]
  cases there : lanes.crew[worker]? with
  | none => rfl
  | some member =>
    have within : worker < lanes.workers := (List.getElem?_eq_some_iff.1 there).1
    simp [within]

private theorem toldUpTo_zero (lanes : Lanes T) : toldUpTo 0 lanes = lanes := by
  obtain ⟨crew, staffed⟩ := lanes
  simp only [toldUpTo, Lanes.mk.injEq]
  refine List.ext_getElem? fun worker => ?_
  rw [List.getElem?_mapIdx]
  simp

/-- **Closing the lanes is telling every worker to leave**, with nobody coming in between. -/
theorem Run.closes {shift : Shift T} (unbegun : shift.dropping = .unbegun) :
    Run shift [] { shift with lanes := shift.lanes.close, dropping := .joining 0 } := by
  have telling (next : Nat) (within : next ≤ shift.lanes.workers) :
      Run shift [] { shift with
        lanes := toldUpTo next shift.lanes
        dropping := .telling next } := by
    induction next with
    | zero =>
      rw [toldUpTo_zero]
      exact Run.start.step (.drop unbegun)
    | succ next ih =>
      have more : next < (toldUpTo next shift.lanes).workers := by
        unfold Lanes.workers toldUpTo
        rw [List.length_mapIdx]
        exact within
      have told := (ih (Nat.le_of_succ_le within)).step (.tell rfl more)
      simp only [toldUpTo_next] at told
      exact told
  have all := telling shift.lanes.workers (Nat.le_refl _)
  rw [toldUpTo_workers] at all
  have same : shift.lanes.workers = shift.lanes.close.workers := (List.length_map _).symm
  exact all.step (.told (congrArg Dropping.telling same))

/-! ## What a worker has done and what waits for it -/

/-- What a worker has done when it has done these jobs and runs nothing. -/
def turns (lane : Nat) (past : List (Job T × Ending)) : List (Labour T) :=
  past.flatMap fun turn => [.began lane turn.1, .ended lane turn.1 turn.2]

private theorem turns_cons (lane : Nat) (job : Job T) (ending : Ending)
    (past : List (Job T × Ending)) :
    turns lane ((job, ending) :: past) =
      .began lane job :: .ended lane job ending :: turns lane past := rfl

private theorem turns_append (lane : Nat) (past more : List (Job T × Ending)) :
    turns lane (past ++ more) = turns lane past ++ turns lane more := List.flatMap_append

/-- Each job in them is begun once. -/
theorem turns_begins (lane number : Nat) (past : List (Job T × Ending)) :
    (turns lane past).countP (·.begins number) =
      (past.map Prod.fst).countP (·.number = number) := by
  induction past with
  | nil => rfl
  | cons turn past ih =>
    rw [turns_cons, List.countP_cons, List.countP_cons, ih, List.map_cons, List.countP_cons]
    rfl

/-- Each job in them ends once. -/
theorem turns_ends (lane number : Nat) (past : List (Job T × Ending)) :
    (turns lane past).countP (·.ends number) =
      (past.map Prod.fst).countP (·.number = number) := by
  induction past with
  | nil => rfl
  | cons turn past ih =>
    rw [turns_cons, List.countP_cons, List.countP_cons, ih, List.map_cons, List.countP_cons]
    rfl

/-- A worker has done these jobs, one after the other, runs this one, and has these before it. -/
structure Manned (workers : Nat) (history : List (Labour T)) (shift : Shift T) (lane : Nat)
    (past : List (Job T × Ending)) (present : Option (Job T)) (waiting : List (Job T)) :
    Prop where
  done : history.filter (·.worker = lane) = turns lane past ++ present.toList.map (.began lane)
  jobs : shift.book.filter (·.lane workers = lane) =
    past.map Prod.fst ++ present.toList ++ waiting
  member : ∃ member, shift.lanes.crew[lane]? = some member ∧
    member.Tends (shift.dropping.hasTold lane) waiting ∧ member.running = present

/-- Every worker does the jobs of its lane in turn. -/
structure InHand (workers : Nat) (history : List (Labour T)) (shift : Shift T) : Prop where
  crew : shift.lanes.workers = workers
  numbered : shift.book.map Job.number = List.range shift.book.length
  known : ∀ labour ∈ history, labour.worker < workers
  manned : ∀ lane < workers, ∃ past present waiting,
    shift.Manned workers history lane past present waiting
  joined : ∀ lane < workers, shift.dropping.hasJoined lane = true →
    ∃ member, shift.lanes.crew[lane]? = some member ∧ member.present = false
  within : ∀ next, shift.dropping = .telling next ∨ shift.dropping = .joining next →
    next ≤ workers

variable {workers lane : Nat} {history more : List (Labour T)} {shift next : Shift T}
  {past : List (Job T × Ending)} {present : Option (Job T)} {waiting : List (Job T)}

/-- What happens to others does not matter to a worker. -/
theorem Manned.aside (manned : shift.Manned workers history lane past present waiting)
    (alone : next.lanes.crew[lane]? = shift.lanes.crew[lane]?)
    (told : next.dropping.hasTold lane = shift.dropping.hasTold lane)
    (book : next.book.filter (·.lane workers = lane) =
      shift.book.filter (·.lane workers = lane))
    (elsewhere : ∀ labour ∈ more, labour.worker ≠ lane) :
    next.Manned workers (history ++ more) lane past present waiting := by
  refine ⟨?_, book.trans manned.jobs, ?_⟩
  · have nothing : more.filter (·.worker = lane) = [] :=
      List.filter_eq_nil_iff.2 fun labour inside => by simpa using elsewhere labour inside
    rw [List.filter_append, nothing, List.append_nil, manned.done]
  · obtain ⟨member, there, tends, runs⟩ := manned.member
    exact ⟨member, alone.trans there, told ▸ tends, runs⟩

/-- A job that is submitted waits behind those that waited before. -/
theorem Manned.submit (manned : shift.Manned workers history lane past present waiting)
    (serving : shift.dropping.hasTold lane = false) {job : Job T}
    (own : job.lane workers = lane) :
    ({ shift with
        lanes := shift.lanes.modify lane (Worker.give (.task job))
        book := shift.book ++ [job] } : Shift T).Manned workers (history ++ []) lane past present
      (waiting ++ [job]) := by
  obtain ⟨member, there, tends, runs⟩ := manned.member
  rw [serving] at tends
  refine ⟨by rw [List.append_nil, manned.done], ?_, member.give (.task job),
    Lanes.crew_modify_own there _, serving ▸ tends.give job, runs⟩
  rw [List.filter_append, manned.jobs, List.append_assoc]
  simp [own]

/-- Whatever step a worker takes, it goes on with its job or comes to the next. -/
theorem Manned.work (manned : shift.Manned workers history lane past present waiting)
    {done : WorkStep (Job T)} {lanes : Lanes (Job T)}
    (steps : shift.lanes.step lane = some (done, lanes)) (ending : Ending) :
    ∃ past present waiting, ({ shift with lanes } : Shift T).Manned workers
      (history ++ done.labours lane ending) lane past present waiting := by
  obtain ⟨member, there, tends, runs⟩ := manned.member
  obtain ⟨same, after, found, step, rfl⟩ := Lanes.step_cases steps
  cases there.symm.trans found
  obtain ⟨rest, tendsOn, moves⟩ := tends.step step
  have later := Lanes.crew_modify_own there fun _ => after
  have told := manned.done
  have jobs := manned.jobs
  generalize ran : after.running = running at moves
  rw [runs] at moves
  cases moves with
  | began job =>
    refine ⟨past, some job, rest, ?_, ?_, after, later, tendsOn, ran⟩
    · rw [List.filter_append, told]
      simp [WorkStep.labours, Labour.worker]
    · rw [jobs]
      simp
  | ended job =>
    refine ⟨past ++ [(job, ending)], none, waiting, ?_, ?_, after, later, tendsOn, ran⟩
    · rw [List.filter_append, told, turns_append]
      simp [WorkStep.labours, Labour.worker, turns]
    · rw [jobs]
      simp
  | left =>
    refine ⟨past, none, [], ?_, jobs, after, later, tendsOn, ran⟩
    rw [WorkStep.labours, List.append_nil]
    exact told

/-- A worker that is told to leave has all that waits for it before that. -/
theorem Manned.tell {dropping : Dropping}
    (manned : shift.Manned workers history lane past present waiting)
    (serving : shift.dropping.hasTold lane = false) (told : dropping.hasTold lane = true) :
    ({ shift with
        lanes := shift.lanes.modify lane (Worker.give .leave)
        dropping } : Shift T).Manned workers (history ++ []) lane past present waiting := by
  obtain ⟨member, there, tends, runs⟩ := manned.member
  rw [serving] at tends
  exact ⟨by rw [List.append_nil, manned.done], manned.jobs, member.give .leave,
    Lanes.crew_modify_own there _, told ▸ tends.dismiss, runs⟩

/-- As long as nobody drops the lanes every group has its worker, and it is there. -/
theorem InHand.submits (hand : shift.InHand workers history) (unbegun : shift.dropping = .unbegun)
    (group : UInt64) (job : Job T) :
    shift.lanes.submit group job =
      (true, shift.lanes.modify (shift.lanes.workerOf group) (Worker.give (.task job))) := by
  obtain ⟨past, present, waiting, manned⟩ :=
    hand.manned _ (hand.crew ▸ shift.lanes.workerOf_lt group)
  obtain ⟨member, there, tends, runs⟩ := manned.member
  rw [unbegun] at tends
  exact Lanes.submit_taken there tends.present job

/-- Whoever drops the lanes gets further without a word to any worker. -/
theorem InHand.onwards {dropping : Dropping} (hand : shift.InHand workers history)
    (told : ∀ lane < workers, dropping.hasTold lane = shift.dropping.hasTold lane)
    (joined : ∀ lane < workers, dropping.hasJoined lane = true →
      ∃ member, shift.lanes.crew[lane]? = some member ∧ member.present = false)
    (within : ∀ next, dropping = .telling next ∨ dropping = .joining next → next ≤ workers) :
    ({ shift with dropping } : Shift T).InHand workers (history ++ []) := by
  refine ⟨hand.crew, hand.numbered, by rw [List.append_nil]; exact hand.known, ?_, joined, within⟩
  intro lane inside
  obtain ⟨past, present, waiting, manned⟩ := hand.manned lane inside
  exact ⟨past, present, waiting, manned.aside rfl (told lane inside) rfl fun _ here => nomatch here⟩

private theorem InHand.submit (hand : shift.InHand workers history)
    (unbegun : shift.dropping = .unbegun) (group : UInt64) (task : T) :
    ({ shift with
        lanes := shift.lanes.modify (shift.lanes.workerOf group)
          (Worker.give (.task ⟨shift.book.length, group, task⟩))
        book := shift.book ++ [⟨shift.book.length, group, task⟩] } : Shift T).InHand workers
      (history ++ []) := by
  have serving (lane : Nat) : shift.dropping.hasTold lane = false := by rw [unbegun]; rfl
  refine ⟨(Lanes.workers_modify _ _ _).trans hand.crew, ?_,
    by rw [List.append_nil]; exact hand.known, ?_, ?_, ?_⟩
  · rw [List.map_append, hand.numbered, List.length_append, List.length_singleton,
      List.range_succ]
    rfl
  · intro lane inside
    obtain ⟨past, present, waiting, manned⟩ := hand.manned lane inside
    by_cases own : shift.lanes.workerOf group = lane
    · subst own
      have own : Job.lane workers ⟨shift.book.length, group, task⟩ =
          shift.lanes.workerOf group := by
        rw [Job.lane, ← hand.crew]
        rfl
      exact ⟨past, present, _, manned.submit (serving _) own⟩
    · have other : Job.lane workers ⟨shift.book.length, group, task⟩ ≠ lane := by
        rw [Job.lane, ← hand.crew]
        exact own
      refine ⟨past, present, waiting, manned.aside (Lanes.crew_modify_other own _) rfl ?_
        fun _ here => nomatch here⟩
      rw [List.filter_append]
      simp [other]
  · intro lane inside joined
    rw [unbegun] at joined
    cases joined
  · intro next reached
    exact hand.within next reached

private theorem InHand.work (hand : shift.InHand workers history) {worker : Nat}
    {done : WorkStep (Job T)} {lanes : Lanes (Job T)}
    (steps : shift.lanes.step worker = some (done, lanes)) (ending : Ending) :
    ({ shift with lanes } : Shift T).InHand workers (history ++ done.labours worker ending) := by
  obtain ⟨member, after, there, step, changed⟩ := Lanes.step_cases steps
  have bound : worker < workers := hand.crew ▸ (List.getElem?_eq_some_iff.1 there).1
  have own : ∀ labour ∈ done.labours worker ending, labour.worker = worker := by
    intro labour inside
    cases done <;> simp only [WorkStep.labours, List.mem_singleton, List.not_mem_nil] at inside
    all_goals rw [inside]; rfl
  refine ⟨?_, hand.numbered, ?_, ?_, ?_, hand.within⟩
  · rw [changed]
    exact (Lanes.workers_modify _ _ _).trans hand.crew
  · intro labour inside
    rcases List.mem_append.1 inside with before | now
    · exact hand.known labour before
    · exact own labour now ▸ bound
  · intro lane inside
    obtain ⟨past, present, waiting, manned⟩ := hand.manned lane inside
    by_cases here : worker = lane
    · subst here
      exact manned.work steps ending
    · refine ⟨past, present, waiting, manned.aside ?_ rfl rfl fun labour inside => ?_⟩
      · rw [changed]
        exact Lanes.crew_modify_other here _
      · rw [own labour inside]
        exact here
  · intro lane inside joined
    obtain ⟨leaver, found, absent⟩ := hand.joined lane inside joined
    refine ⟨leaver, ?_, absent⟩
    by_cases here : worker = lane
    · -- Whoever has left takes no step.
      subst here
      cases there.symm.trans found
      simp [Worker.step, absent] at step
    · rw [changed, ← found]
      exact Lanes.crew_modify_other here _

private theorem InHand.tell (hand : shift.InHand workers history) {lane : Nat}
    (telling : shift.dropping = .telling lane) (more : lane < workers) :
    ({ shift with
        lanes := shift.lanes.modify lane (Worker.give .leave)
        dropping := .telling (lane + 1) } : Shift T).InHand workers (history ++ []) := by
  refine ⟨(Lanes.workers_modify _ _ _).trans hand.crew, hand.numbered,
    by rw [List.append_nil]; exact hand.known, ?_, ?_, ?_⟩
  · intro other inside
    obtain ⟨past, present, waiting, manned⟩ := hand.manned other inside
    by_cases here : lane = other
    · subst here
      refine ⟨past, present, waiting, manned.tell ?_ ?_⟩
      · rw [telling]
        simp [Dropping.hasTold]
      · simp [Dropping.hasTold]
    · refine ⟨past, present, waiting, manned.aside (Lanes.crew_modify_other here _) ?_ rfl
        fun _ here => nomatch here⟩
      rw [telling]
      simp only [Dropping.hasTold, decide_eq_decide]
      omega
  · intro other inside joined
    cases joined
  · rintro next (reached | reached)
    · cases reached
      exact more
    · cases reached

/-- **Every step keeps all jobs in hand.** -/
theorem InHand.step (hand : shift.InHand workers history) (step : Step shift more next) :
    next.InHand workers (history ++ more) := by
  cases step with
  | submit unbegun group task submitted =>
    cases (hand.submits unbegun _ _).symm.trans submitted
    exact hand.submit unbegun group task
  | work steps ending => exact hand.work steps ending
  | drop unbegun =>
    refine hand.onwards (fun lane inside => ?_) (fun lane inside joined => ?_) ?_
    · rw [unbegun]
      simp [Dropping.hasTold]
    · cases joined
    · rintro next (reached | reached)
      · cases reached
        exact Nat.zero_le _
      · cases reached
  | tell telling more => exact hand.tell telling (hand.crew ▸ more)
  | told telling =>
    refine hand.onwards (fun lane inside => ?_) (fun lane _ joined => ?_) ?_
    · rw [telling, hand.crew]
      simp [Dropping.hasTold, inside]
    · simp [Dropping.hasJoined] at joined
    · rintro next (reached | reached)
      · cases reached
      · cases reached
        exact Nat.zero_le _
  | @join worker member joining there gone =>
    have bound : worker < workers := hand.crew ▸ (List.getElem?_eq_some_iff.1 there).1
    refine hand.onwards (fun lane inside => ?_) (fun lane inside joined => ?_) ?_
    · rw [joining]
      rfl
    · by_cases here : lane = worker
      · exact ⟨member, here ▸ there, gone⟩
      · refine hand.joined lane inside ?_
        rw [joining]
        simp only [Dropping.hasJoined, decide_eq_true_eq] at joined ⊢
        omega
    · rintro next (reached | reached)
      · cases reached
      · cases reached
        exact bound
  | finish joining =>
    refine hand.onwards (fun lane inside => ?_) (fun lane inside _ => ?_) ?_
    · rw [joining]
      rfl
    · refine hand.joined lane inside ?_
      rw [joining, hand.crew]
      simp [Dropping.hasJoined, inside]
    · rintro next (reached | reached) <;> cases reached

private theorem opened_in_hand (workers : Nat) :
    (opened workers : Shift T).InHand (max workers 1) [] := by
  refine ⟨List.length_replicate, rfl, ?_, fun lane inside => ?_, ?_, ?_⟩
  · intro labour inside
    cases inside
  · refine ⟨[], none, [], rfl, rfl, {}, ?_, .serving [] none, rfl⟩
    simp [opened, Lanes.start, inside]
  · intro lane inside joined
    cases joined
  · rintro next (reached | reached) <;> cases reached

private theorem Run.in_hand (run : Run (opened workers) history shift) :
    shift.InHand (max workers 1) history := by
  induction run with
  | start => exact opened_in_hand workers
  | step run step ih => exact ih.step step

/-! ## Each job once -/

/-- The jobs that a worker has to do with are jobs of its lane. -/
theorem Manned.labours (manned : shift.Manned workers history lane past present waiting)
    {labour : Labour T} (inside : labour ∈ history) (own : labour.worker = lane) :
    labour.job ∈ shift.book ∧ labour.job.lane workers = lane := by
  have listed : labour.job ∈ past.map Prod.fst ++ present.toList ++ waiting := by
    have here : labour ∈ history.filter (·.worker = lane) :=
      List.mem_filter.2 ⟨inside, decide_eq_true own⟩
    rw [manned.done] at here
    refine List.mem_append_left _ ?_
    rcases List.mem_append.1 here with earlier | now
    · obtain ⟨turn, turned, one⟩ := List.mem_flatMap.1 earlier
      have same : labour.job = turn.1 := by
        simp only [List.mem_cons, List.not_mem_nil, or_false] at one
        rcases one with rfl | rfl <;> rfl
      exact List.mem_append_left _ (same ▸ List.mem_map_of_mem turned)
    · obtain ⟨job, running, rfl⟩ := List.mem_map.1 now
      exact List.mem_append_right _ running
  rw [← manned.jobs] at listed
  obtain ⟨booked, lanes⟩ := List.mem_filter.1 listed
  exact ⟨booked, of_decide_eq_true lanes⟩

private theorem InHand.labours (hand : shift.InHand workers history) {labour : Labour T}
    (inside : labour ∈ history) :
    labour.job ∈ shift.book ∧ labour.job.lane workers = labour.worker := by
  obtain ⟨past, present, waiting, manned⟩ := hand.manned _ (hand.known labour inside)
  exact manned.labours inside rfl

/-- Where a number is found only on one lane, counting it there is counting it everywhere. -/
theorem countP_lane {entries : List T} {p q : T → Bool}
    (only : ∀ entry ∈ entries, p entry → q entry) :
    (entries.filter q).countP p = entries.countP p := by
  rw [List.countP_filter]
  refine List.countP_congr fun entry inside => ?_
  simpa using only entry inside

private theorem InHand.unique (hand : shift.InHand workers history) {job other : Job T}
    (booked : job ∈ shift.book) (listed : other ∈ shift.book) (same : other.number = job.number) :
    other = job := by
  have distinct : (shift.book.map Job.number).Nodup := hand.numbered ▸ List.nodup_range
  exact List.inj_on_of_nodup_map distinct listed booked same

private theorem InHand.count (hand : shift.InHand workers history) {job : Job T}
    (booked : job ∈ shift.book) : shift.book.countP (·.number = job.number) = 1 := by
  have distinct : (shift.book.map Job.number).Nodup := hand.numbered ▸ List.nodup_range
  have once := List.count_eq_one_of_mem distinct (List.mem_map_of_mem booked)
  rw [List.count, List.countP_map] at once
  rw [← once]
  exact List.countP_congr fun other _ => by simp

/-- Who is known to have left has done all jobs of its lane. -/
theorem InHand.all_gone (hand : shift.InHand workers history) (gone : shift.dropping = .gone)
    (inside : lane < workers) :
    ∃ past, shift.Manned workers history lane past none [] := by
  obtain ⟨past, present, waiting, manned⟩ := hand.manned lane inside
  obtain ⟨member, there, tends, runs⟩ := manned.member
  obtain ⟨leaver, found, absent⟩ := hand.joined lane inside (by rw [gone]; rfl)
  cases there.symm.trans found
  obtain ⟨idle, rfl⟩ := tends.left absent
  cases runs.symm.trans idle
  exact ⟨past, manned⟩

/-- **Once everybody has left every job has been begun once and ended once.** -/
theorem InHand.once (hand : shift.InHand workers history) (gone : shift.dropping = .gone)
    (staffed : 0 < workers) {job : Job T} (booked : job ∈ shift.book) :
    history.countP (·.begins job.number) = 1 ∧ history.countP (·.ends job.number) = 1 := by
  obtain ⟨past, manned⟩ := hand.all_gone gone (Nat.mod_lt job.group.toNat staffed)
  have own (labour : Labour T) (inside : labour ∈ history)
      (same : labour.job.number = job.number) : labour.worker = job.lane workers := by
    obtain ⟨listed, lanes⟩ := hand.labours inside
    rw [← lanes, hand.unique booked listed same]
  have done : history.filter (·.worker = job.lane workers) =
      turns (job.lane workers) past := by
    rw [show job.lane workers = job.group.toNat % workers from rfl, manned.done]
    simp
  have jobs : shift.book.filter (·.lane workers = job.lane workers) = past.map Prod.fst := by
    rw [show job.lane workers = job.group.toNat % workers from rfl, manned.jobs]
    simp
  have one : (past.map Prod.fst).countP (·.number = job.number) = 1 := by
    rw [← jobs, countP_lane, hand.count booked]
    intro other listed same
    rw [hand.unique booked listed (of_decide_eq_true same)]
    simp
  have begun := turns_begins (job.lane workers) job.number past
  have ended := turns_ends (job.lane workers) job.number past
  rw [← done, one, countP_lane] at begun ended
  · exact ⟨begun, ended⟩
  · intro labour inside ends
    cases labour with
    | began worker other => cases ends
    | ended worker other ending => exact decide_eq_true (own _ inside (of_decide_eq_true ends))
  · intro labour inside begins
    cases labour with
    | began worker other => exact decide_eq_true (own _ inside (of_decide_eq_true begins))
    | ended worker other ending => cases begins

/-- Once somebody drops the lanes there is always a step to take until everybody has left. -/
theorem InHand.progress (hand : shift.InHand workers history)
    (begun : shift.dropping ≠ .unbegun) (going : shift.dropping ≠ .gone) :
    ∃ more next, Step shift more next := by
  cases reached : shift.dropping with
  | unbegun => exact absurd reached begun
  | gone => exact absurd reached going
  | telling worker =>
    rcases Nat.lt_or_eq_of_le (hand.within worker (.inl reached)) with more | all
    · exact ⟨_, _, .tell reached (hand.crew.symm ▸ more)⟩
    · exact ⟨_, _, .told (hand.crew.symm ▸ all ▸ reached)⟩
  | joining worker =>
    rcases Nat.lt_or_eq_of_le (hand.within worker (.inr reached)) with more | all
    · obtain ⟨past, present, waiting, manned⟩ := hand.manned worker more
      obtain ⟨member, there, tends, runs⟩ := manned.member
      rw [reached] at tends
      cases here : member.present with
      | false => exact ⟨_, _, .join reached there here⟩
      | true =>
        obtain ⟨done, after, step⟩ := tends.stirs here
        exact ⟨_, _, .work (Lanes.step_of_member there step) .done⟩
    · exact ⟨_, _, .finish (hand.crew.symm ▸ all ▸ reached)⟩

/-- **Every task that is taken runs once before the lanes are gone.** As long as nobody drops the
lanes every task is taken. A job is begun and ended by the worker of its group and by no other, and
each worker begins and ends the jobs of its lane one at a time, in the order in which they were
submitted, however they end. Whoever drops the lanes is never stuck, and once they are gone every
job that was submitted has been begun once and ended once. -/
theorem every_task_runs_once (capacity : Nat) (run : Run (opened capacity) history shift) :
    (shift.dropping = .unbegun →
      ∀ (group : UInt64) (job : Job T), (shift.lanes.submit group job).1 = true) ∧
    shift.book.map Job.number = List.range shift.book.length ∧
    (∀ labour ∈ history,
      labour.job ∈ shift.book ∧ labour.worker = labour.job.group.toNat % max capacity 1) ∧
    (∀ lane < max capacity 1, ∃ (past : List (Job T × Ending)) (present : Option (Job T)),
      history.filter (·.worker = lane) = turns lane past ++ present.toList.map (.began lane) ∧
      past.map Prod.fst ++ present.toList <+:
        shift.book.filter fun job => job.group.toNat % max capacity 1 = lane) ∧
    (shift.dropping = .gone → ∀ job ∈ shift.book,
      history.countP (·.begins job.number) = 1 ∧ history.countP (·.ends job.number) = 1) ∧
    (shift.dropping ≠ .unbegun → shift.dropping ≠ .gone → ∃ more next, Step shift more next) := by
  have hand := run.in_hand
  refine ⟨?_, hand.numbered, ?_, ?_, ?_, hand.progress⟩
  · intro unbegun group job
    rw [hand.submits unbegun]
  · intro labour inside
    obtain ⟨booked, lanes⟩ := hand.labours inside
    exact ⟨booked, lanes.symm⟩
  · intro lane inside
    obtain ⟨past, present, waiting, manned⟩ := hand.manned lane inside
    exact ⟨past, present, manned.done, waiting, manned.jobs.symm⟩
  · intro gone job booked
    exact hand.once gone (Nat.le_max_right _ _) booked

/-- Lanes for nobody have a worker nevertheless. The first of two tasks breaks off, the workers
are told to leave, and the second runs. -/
theorem jobs_behind_a_break_are_done :
    ∃ (history : List (Labour String)) (shift : Shift String),
      Run (opened 0) history shift ∧ shift.dropping = .gone ∧
      shift.book.map Job.task = ["first", "second"] ∧
      (∀ job ∈ shift.book, history.countP (·.begins job.number) = 1 ∧
        history.countP (·.ends job.number) = 1) ∧
      history.map Labour.job = [⟨0, 7, "first"⟩, ⟨0, 7, "first"⟩, ⟨1, 4, "second"⟩,
        ⟨1, 4, "second"⟩] := by
  have opening : Run (opened 0 : Shift String) [] (opened 0) := .start
  have first := opening.step (.submit rfl 7 "first" rfl)
  have second := first.step (.submit rfl 4 "second" rfl)
  have begun := second.step (@Step.work String _ 0 (.began ⟨0, 7, "first"⟩) _ rfl .done)
  have broken := begun.step (@Step.work String _ 0 (.ended ⟨0, 7, "first"⟩) _ rfl .brokeOff)
  have told := (((broken.step (.drop rfl)).step (.tell rfl (by decide))).step (.told rfl))
  have next := told.step (@Step.work String _ 0 (.began ⟨1, 4, "second"⟩) _ rfl .done)
  have done := next.step (@Step.work String _ 0 (.ended ⟨1, 4, "second"⟩) _ rfl .done)
  have left := done.step (@Step.work String _ 0 .left _ rfl .done)
  have gone := (left.step (.join rfl rfl rfl)).step (.finish rfl)
  obtain ⟨_, _, _, _, once, _⟩ := every_task_runs_once 0 gone
  exact ⟨_, _, gone, rfl, rfl, once rfl, rfl⟩

end Shift

end EventLoop
