import EventLoop.Loop.Plea
import EventLoop.Loop.Turn
import EventLoop.Trial.Stage

/-!
What a trial does to a loop of scripted objects from outside: calls on it, acts of the far ends and
of the process, and what sessions ask of it.
-/
namespace EventLoop.Trial

/-- A loop of scripted objects. -/
abbrev Scenario := Loop Role Ticker Stage

namespace Scenario

/-- Changes the stage and nothing else. -/
def onStage (change : Stage → Stage) (scenario : Scenario) : Scenario :=
  { scenario with world := change scenario.world }

def desk (scenario : Scenario) : Desk := scenario.world.desk

def withDesk (desk : Desk) : Scenario → Scenario := onStage fun stage => { stage with desk }

/-- Adds an actor. -/
def add (actor : Actor) (mask : Interest) (scenario : Scenario) : Except Fault Unit × Scenario :=
  let (event, stage) := scenario.world.bringOn actor
  { scenario with world := stage }.addEvent scripted event mask

/-- Makes a call on the loop, from any thread and at any time. -/
def call (call : Call) (scenario : Scenario) : Reply × Scenario :=
  let (reply, stage, orders) := scenario.world.perform call scenario.alive scenario.stopped
  (reply, orders.foldl (Loop.carryOut scripted) { scenario with world := stage })

/-- Something comes about at a source. -/
def happened (source : Source) (level : Level) (scenario : Scenario) : Scenario :=
  { scenario with
    selector := { scenario.selector with
      poller := scenario.selector.poller.happened source level } }

/-- The far end of an actor's pair writes. None if there is no far end, false if the actor is no
more. -/
def write (id : String) (bytes : Nat) (scenario : Scenario) : Option Bool × Scenario :=
  match scenario.world.backings.get? id with
  | none => (none, scenario)
  | some backing =>
    if !backing.farEnd then (none, scenario)
    else if !scenario.world.ends.contains backing.source then (some false, scenario)
    else
      (some true,
        (scenario.onStage fun stage => stage.touch backing.source fun near =>
          { near with unread := near.unread + max bytes 1 }).happened backing.source
            { input := true })

/-- The far end of an actor's pair goes. Says whether there was one. -/
def hangUp (id : String) (scenario : Scenario) : Bool × Scenario :=
  match scenario.world.backings.get? id with
  | none => (false, scenario)
  | some backing =>
    if !backing.farEnd then (false, scenario)
    else
      (true,
        (scenario.onStage fun stage =>
          { stage with backings := stage.backings.insert id { backing with farEnd := false } }.touch
            backing.source fun near => { near with hungUp := true }).happened backing.source
            { hungUp := true })

/-- Says which calls of an actor's source fail from now on. -/
def setFailing (id : String) (failing : List CallName) (scenario : Scenario) : Scenario :=
  scenario.onStage fun stage =>
    { stage with backings := stage.backings.modify id fun backing => { backing with failing } }

/-- A signal is delivered to the process: each of its listeners, in order, gets a byte. -/
def raise (number : Int) (scenario : Scenario) : Scenario :=
  (scenario.world.ears.filter (fun ear => ear.1 = number)).foldl (fun scenario ear =>
    (scenario.onStage fun stage => stage.touch ear.2 fun near =>
      { near with unread := near.unread + 1 }).happened ear.2 { input := true }) scenario

/-- Passes on what the sessions have asked of the loop. -/
def heedSessions (scenario : Scenario) : Scenario :=
  let (pleas, sessions) := scenario.world.sessions.takePleas
  (scenario.onStage fun stage => { stage with sessions }).heed scripted pleas

/-- The end of the loop. Sessions learn of it. -/
def dismiss (scenario : Scenario) : Scenario :=
  Scenario.onStage
    (fun stage => { stage with sessions := { stage.sessions with loopGone := true } })
    (scenario.close scripted)

/-- Several turns, each announced in the log: how many notifications each delivered. -/
def turns (most : Nat) (scenario : Scenario) : List Nat × Scenario :=
  let (counts, scenario) := (List.range most).foldl (fun (counts, scenario) index =>
    let (count, scenario) :=
      (Scenario.onStage (·.note (.turn index)) scenario).turn scripted
    (count :: counts, scenario)) (([] : List Nat), scenario)
  (counts.reverse, scenario)

end Scenario

end EventLoop.Trial
