import EventLoop.Readiness
import EventLoop.Trial.Log

/-!
Scripted objects. An actor has, for each kind of notification, a list of things to do on each
occurrence; a ticker has a list of things to do on each run. Between them they can ask for every
change there is, also for new actors and tickers, whose own scripts come with them.
-/
namespace EventLoop.Trial

mutual

/-- What can be done to a loop from anywhere. -/
inductive Call where
  | add (actor : Actor) (mask : Interest)
  | rearm (handle : Handle) (generation : UInt64) (mask : Interest)
  | remove (handle : Handle) (generation : UInt64)
  | schedule (handle : Handle) (generation : UInt64) (delay : Nat)
  | signal (number : Int)
  | timer (ticker : Ticker) (interval : Nat) (delayed : Bool) (repeats : Option Nat)
  | stop
  | stopped
  | wake

/-- What can be done by an actor that is being notified. -/
inductive Deed where
  | add (actor : Actor) (mask : Interest)
  | rearm (handle : Handle) (mask : Interest)
  | remove (handle : Handle)
  | schedule (handle : Handle) (delay : Nat)
  | askRemoved (handle : Handle)
  | count
  | drain
  | call (call : Call)

/-- An actor. `failing` names the calls of its source that fail, and `script` gives what is left to
do for each kind of notification. -/
structure Actor where
  id : String
  handle : Handle
  generation : UInt64
  standing : Standing
  paired : Bool
  failing : List CallName
  script : List (Notice × List (List Deed))

/-- A ticker. `run` counts its runs so far. -/
structure Ticker where
  id : String
  run : Nat
  acts : List (List Call)
  returns : List Bool

end

/-- An actor without a script. -/
instance : Inhabited Actor := ⟨⟨"", 0, 0, .absent, false, [], []⟩⟩

/-- The name under which a call is logged. -/
def Call.name : Call → String
  | add .. => "h_add"
  | rearm .. => "h_rearm"
  | remove .. => "h_remove"
  | schedule .. => "h_schedule"
  | signal _ => "h_signal"
  | timer .. => "h_timer"
  | stop => "h_stop"
  | stopped => "h_stopped"
  | wake => "h_wakeup"

/-- What an actor does on the next occurrence of a notice, and the actor with the rest of its
script. -/
def Actor.next (notice : Notice) (actor : Actor) : List Deed × Actor :=
  match actor.script.find? (fun part => part.1 = notice) with
  | some (_, deeds :: rest) =>
    (deeds, { actor with
      script := actor.script.map fun part => if part.1 = notice then (part.1, rest) else part })
  | _ => ([], actor)

/-- What a ticker does on its next run, what it returns then, and the ticker with that run
counted. What it returned last it returns ever after. -/
def Ticker.next (ticker : Ticker) : List Call × Bool × Ticker :=
  ((ticker.acts[ticker.run]?).getD [],
    (ticker.returns[ticker.run]?).getD (ticker.returns.getLast?.getD false),
    { ticker with run := ticker.run + 1 })

end EventLoop.Trial
