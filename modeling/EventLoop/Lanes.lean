/-!
A fixed number of workers, each with a queue of its own. A group of tasks always goes to the same
worker, the group's number modulo the number of workers, which is what keeps its tasks in order.
Closing puts an end mark behind everything that is queued, so a worker leaves only when it has run
every task it was given. Workers go on independently of each other; a run of all of them is a list
of steps, each of one worker, and a task is begun in one step and ended in a later one.
-/
namespace EventLoop

/-- `WorkerMessage`: what a worker finds in its queue. -/
inductive Parcel (T : Type) where
  | task (task : T)
  | leave

/-- `Worker`: its queue, the task it is running, and whether its thread is still there. -/
structure Worker (T : Type) where
  queue : List (Parcel T) := []
  running : Option T := none
  present : Bool := true

/-- What a worker does in one step. -/
inductive WorkStep (T : Type) where
  | began (task : T)
  | ended (task : T)
  | left
deriving DecidableEq, Repr

namespace Worker

variable {T : Type}

/-- Queues a parcel. -/
def give (parcel : Parcel T) (worker : Worker T) : Worker T :=
  { worker with queue := worker.queue ++ [parcel] }

/-- `Worker::spawn`, the loop of a worker's thread: the next step of a worker is to end the task it
runs, or else to take the next parcel. None if it is idle or has left. However a task ends, the
worker goes on. -/
def step (worker : Worker T) : Option (WorkStep T × Worker T) :=
  if worker.present then
    match worker.running, worker.queue with
    | some task, _ => some (.ended task, { worker with running := none })
    | none, .task task :: rest =>
      some (.began task, { worker with queue := rest, running := some task })
    | none, .leave :: rest => some (.left, { worker with queue := rest, present := false })
    | none, [] => none
  else none

/-- The tasks that stand in a queue before its end mark. -/
def ahead : List (Parcel T) → List T
  | .task task :: rest => task :: ahead rest
  | _ => []

/-- The tasks that a worker will still begin, in order. -/
def due (worker : Worker T) : List T := if worker.present then ahead worker.queue else []

end Worker

/-- `ThreadPool`: the workers, of which there is at least one. -/
structure Lanes (T : Type) where
  crew : List (Worker T)
  staffed : 0 < crew.length

namespace Lanes

variable {T : Type}

theorem staffed_start (workers : Nat) :
    0 < (List.replicate (max workers 1) ({} : Worker T)).length := by
  rw [List.length_replicate]
  exact Nat.lt_of_lt_of_le Nat.zero_lt_one (Nat.le_max_right workers 1)

theorem staffed_modify {crew : List (Worker T)} (worker : Nat) (change : Worker T → Worker T)
    (staffed : 0 < crew.length) : 0 < (crew.modify worker change).length := by
  rw [List.length_modify]
  exact staffed

theorem staffed_map {crew : List (Worker T)} (change : Worker T → Worker T)
    (staffed : 0 < crew.length) : 0 < (crew.map change).length := by
  rw [List.length_map]
  exact staffed

/-- `ThreadPool::new`: as many idle workers as asked for, but at least one. -/
def start (workers : Nat) : Lanes T :=
  ⟨List.replicate (max workers 1) {}, staffed_start workers⟩

/-- `ThreadPool::workers_len`: how many workers there are. -/
def workers (lanes : Lanes T) : Nat := lanes.crew.length

/-- The name that `Worker::spawn` gives a worker's thread. -/
def workerName (worker : Nat) : String := "dispatch-worker-" ++ toString worker

/-- `ThreadPool::submit`, the index: the worker that runs the tasks of `group`. -/
def workerOf (group : UInt64) (lanes : Lanes T) : Nat := group.toNat % lanes.workers

theorem workerOf_lt (group : UInt64) (lanes : Lanes T) :
    lanes.workerOf group < lanes.workers := Nat.mod_lt _ lanes.staffed

/-- Changes one worker. -/
def modify (worker : Nat) (change : Worker T → Worker T) (lanes : Lanes T) : Lanes T :=
  ⟨lanes.crew.modify worker change, staffed_modify worker change lanes.staffed⟩

/-- `ThreadPool::submit`: queues a task for the worker of its group. Says whether it was taken: a
worker that has left takes nothing. -/
def submit (group : UInt64) (task : T) (lanes : Lanes T) : Bool × Lanes T :=
  match lanes.crew[lanes.workerOf group]? with
  | some worker =>
    if worker.present then (true, lanes.modify (lanes.workerOf group) (Worker.give (.task task)))
    else (false, lanes)
  | none => (false, lanes)

/-- `ThreadPool::drop`, its first loop: tells every worker to leave once its queue is done. -/
def close (lanes : Lanes T) : Lanes T :=
  ⟨lanes.crew.map (Worker.give .leave), staffed_map (Worker.give .leave) lanes.staffed⟩

/-- Lets one worker take a step. None if there is nothing for it to do. -/
def step (worker : Nat) (lanes : Lanes T) : Option (WorkStep T × Lanes T) :=
  match (lanes.crew[worker]?).bind Worker.step with
  | some (done, after) => some (done, lanes.modify worker fun _ => after)
  | none => none

/-- `ThreadPool::drop`, what its second loop waits for: whether every worker has left, which is what
ends the closing. -/
def isDone (lanes : Lanes T) : Bool := lanes.crew.all fun worker => !worker.present

/-- The tasks that each worker will still begin, in order. -/
def schedule (lanes : Lanes T) : List (List T) := lanes.crew.map Worker.due

end Lanes

end EventLoop
