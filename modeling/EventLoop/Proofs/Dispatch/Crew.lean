import EventLoop.Lanes

/-! What a worker has in front of it. Tasks are put behind the ones that wait, and a worker takes
the first and ends it before it takes the next, however it ends. The end mark comes last: who
leaves has begun and ended all that was ever put into the queue. -/
namespace EventLoop

variable {T : Type}

/-- A worker and the tasks that wait for it, before the workers are told to leave and after. -/
inductive Worker.Tends : Bool → Worker T → List T → Prop where
  | serving (waiting : List T) (running : Option T) :
      Tends false ⟨waiting.map .task, running, true⟩ waiting
  | finishing (waiting : List T) (running : Option T) :
      Tends true ⟨waiting.map .task ++ [.leave], running, true⟩ waiting
  | gone : Tends true ⟨[], none, false⟩ []

/-- What a step of a worker does to the task it runs and to the ones that wait. -/
inductive Worker.Moves : Option T → List T → WorkStep T → Option T → List T → Prop where
  | began (task : T) (waiting : List T) :
      Moves none (task :: waiting) (.began task) (some task) waiting
  | ended (task : T) (waiting : List T) :
      Moves (some task) waiting (.ended task) none waiting
  | left : Moves none [] .left none []

namespace Worker.Tends

variable {shut : Bool} {worker after : Worker T} {waiting : List T} {done : WorkStep T}

theorem present (tends : Tends false worker waiting) : worker.present = true := by
  cases tends
  rfl

theorem give (tends : Tends false worker waiting) (task : T) :
    Tends false (worker.give (.task task)) (waiting ++ [task]) := by
  cases tends with
  | serving waiting running =>
    have behind := serving (waiting ++ [task]) running
    rwa [List.map_append] at behind

theorem dismiss (tends : Tends false worker waiting) : Tends true (worker.give .leave) waiting := by
  cases tends
  exact .finishing _ _

theorem step (tends : Tends shut worker waiting) (steps : worker.step = some (done, after)) :
    ∃ rest, Tends shut after rest ∧ Moves worker.running waiting done after.running rest := by
  cases tends with
  | serving waiting running =>
    cases running with
    | some task =>
      cases steps
      exact ⟨waiting, .serving _ _, .ended _ _⟩
    | none =>
      cases waiting with
      | nil => cases steps
      | cons task rest =>
        cases steps
        exact ⟨rest, .serving _ _, .began _ _⟩
  | finishing waiting running =>
    cases running with
    | some task =>
      cases steps
      exact ⟨waiting, .finishing _ _, .ended _ _⟩
    | none =>
      cases waiting with
      | nil =>
        cases steps
        exact ⟨[], .gone, .left⟩
      | cons task rest =>
        cases steps
        exact ⟨rest, .finishing _ _, .began _ _⟩
  | gone => cases steps

/-- A worker with nothing to do runs nothing, and nothing waits for it. -/
theorem idle (tends : Tends shut worker waiting) (stuck : worker.step = none) :
    worker.running = none ∧ waiting = [] := by
  cases tends with
  | serving waiting running =>
    cases running with
    | some task => cases stuck
    | none =>
      cases waiting with
      | nil => exact ⟨rfl, rfl⟩
      | cons task rest => cases stuck
  | finishing waiting running =>
    cases running with
    | some task => cases stuck
    | none => cases waiting <;> cases stuck
  | gone => exact ⟨rfl, rfl⟩

/-- Who has been told to leave goes on until it has left. -/
theorem stirs (tends : Tends true worker waiting) (present : worker.present = true) :
    ∃ done after, worker.step = some (done, after) := by
  cases tends with
  | finishing waiting running =>
    cases running with
    | some task => exact ⟨_, _, rfl⟩
    | none => cases waiting <;> exact ⟨_, _, rfl⟩
  | gone => cases present

/-- Before whoever has left nothing waits, and nothing runs. -/
theorem left (tends : Tends shut worker waiting) (gone : worker.present = false) :
    worker.running = none ∧ waiting = [] := by
  cases tends with
  | serving waiting running => cases gone
  | finishing waiting running => cases gone
  | gone => exact ⟨rfl, rfl⟩

end Worker.Tends

namespace Lanes

variable {lanes late : Lanes T} {worker other : Nat} {done : WorkStep T}

theorem crew_modify_own {member : Worker T} (there : lanes.crew[worker]? = some member)
    (change : Worker T → Worker T) :
    (lanes.modify worker change).crew[worker]? = some (change member) := by
  simp [modify, there]

theorem crew_modify_other (apart : worker ≠ other) (change : Worker T → Worker T) :
    (lanes.modify worker change).crew[other]? = lanes.crew[other]? := by
  simp [modify, apart]

theorem workers_modify (worker : Nat) (change : Worker T → Worker T) (lanes : Lanes T) :
    (lanes.modify worker change).workers = lanes.workers := List.length_modify _ _ _

/-- A step is a step of one worker. -/
theorem step_cases (steps : lanes.step worker = some (done, late)) :
    ∃ member after, lanes.crew[worker]? = some member ∧ member.step = some (done, after) ∧
      late = lanes.modify worker fun _ => after := by
  unfold step at steps
  split at steps
  · next stepped =>
    obtain ⟨member, there, step⟩ := Option.bind_eq_some_iff.1 stepped
    cases steps
    exact ⟨member, _, there, step, rfl⟩
  · cases steps

theorem step_of_member {member after : Worker T} (there : lanes.crew[worker]? = some member)
    (step : member.step = some (done, after)) :
    lanes.step worker = some (done, lanes.modify worker fun _ => after) := by
  unfold Lanes.step
  rw [there, Option.bind_some, step]

theorem step_none {member : Worker T} (there : lanes.crew[worker]? = some member)
    (stuck : lanes.step worker = none) : member.step = none := by
  unfold step at stuck
  rw [there] at stuck
  split at stuck
  · cases stuck
  · next stays => exact stays

theorem submit_taken {group : UInt64} {member : Worker T}
    (there : lanes.crew[lanes.workerOf group]? = some member) (present : member.present = true)
    (task : T) : lanes.submit group task =
      (true, lanes.modify (lanes.workerOf group) (Worker.give (.task task))) := by
  unfold submit
  rw [there]
  exact if_pos present

end Lanes

end EventLoop
