import EventLoop.Lanes
import EventLoop.Trial.Telegram

/-!
Lanes whose workers are given messages to run and jobs that only leave their mark. Workers are let
go one after the other here; the marks of one worker do not depend on the others.
-/
namespace EventLoop.Trial

/-- What a worker is given. -/
inductive Work (J : Type) where
  | errand (errand : Errand Telegram)
  | job (job : J)

/-- What a worker leaves behind. -/
inductive Trace (J : Type) where
  | logged (entry : Entry)
  | job (job : J)

namespace Work

variable {J : Type}

/-- Takes messages into lanes. -/
def sink : Sink Telegram (Lanes (Work J)) where
  submit group errand lanes :=
    let (taken, lanes) := lanes.submit group (.errand errand)
    (if taken then .ok () else .error .sinkClosed, lanes)

/-- Submits jobs, each with its group, and says of each whether it was taken. -/
def submitAll : List (UInt64 × J) → Lanes (Work J) → List Bool × Lanes (Work J)
  | [], lanes => ([], lanes)
  | (group, mark) :: rest, lanes =>
    let (taken, lanes) := lanes.submit group (.job mark)
    let (others, lanes) := submitAll rest lanes
    (taken :: others, lanes)

/-- Runs one piece of work. -/
def run (state : List (Trace J) × Sessions) (work : Work J) : List (Trace J) × Sessions :=
  match work with
  | .job mark => (state.1 ++ [.job mark], state.2)
  | .errand task =>
    let (_, sessions, desk) := task.perform telegrams (state.2, {})
    (state.1 ++ desk.log.map Trace.logged, sessions)

/-- Runs the work of every worker: what each leaves behind. -/
def runAll (sessions : Sessions) : List (List (Work J)) → List (List (Trace J))
  | [] => []
  | work :: rest =>
    let (traces, sessions) := work.foldl run ([], sessions)
    traces :: runAll sessions rest

end Work

end EventLoop.Trial
