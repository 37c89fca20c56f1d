import EventLoop.Event
import EventLoop.Signal
import EventLoop.Trial.Actor
import EventLoop.Trial.Telegram

/-!
The surroundings of scripted objects: the near ends of their socket pairs, which of their calls
fail, who listens to which signal, the clock, the sessions and the log. Time passes only while a
loop waits with nothing to do.
-/
namespace EventLoop.Trial

/-- What is behind the body of an event: a scripted actor, or a listener to a signal. -/
inductive Role where
  | actor (actor : Actor)
  | listener (number : Int)

/-- The near end of a socket pair. -/
structure NearEnd where
  unread : Nat := 0
  /-- The far end is closed. -/
  hungUp : Bool := false
  /-- The poller has it. -/
  watched : Bool := false
deriving DecidableEq, Repr, Inhabited

/-- What stands behind an actor: its source, the calls of it that fail, and whether its pair has a
far end. -/
structure Backing where
  source : Source
  failing : List CallName
  farEnd : Bool
deriving Inhabited

/-- The surroundings. `ears` are the listeners to signals with their sources, in the order in which
they were made. -/
structure Stage where
  sessions : Sessions := {}
  desk : Desk := {}
  ends : Keyed Source NearEnd := {}
  backings : Keyed String Backing := {}
  ears : List (Int × Source) := []
  sources : Nat := 0
  now : Nat := 0

namespace Stage

/-- Writes an entry into the log. -/
def note (entry : Entry) (stage : Stage) : Stage := { stage with desk := stage.desk.note entry }

/-- Makes the event of an actor, with its socket pair if it has one. -/
def bringOn (actor : Actor) (stage : Stage) : Event Role × Stage :=
  let source := stage.sources
  ({ handle := actor.handle, generation := actor.generation, source, standing := actor.standing,
     body := .actor actor },
    { stage with
      sources := source + 1
      ends := if actor.paired then stage.ends.insert source {} else stage.ends
      backings := stage.backings.insert actor.id ⟨source, actor.failing, actor.paired⟩ })

/-- The handle of a listener, far from those that scripts use. -/
def listenerHandle (source : Source) : Handle := Int32.ofNat (1000000000 + source)

/-- Makes the event of a listener to a signal, unless the signal cannot be listened to. -/
def listen (number : Int) (stage : Stage) : Except Fault (Event Role) × Stage :=
  if Signal.isReserved number then (.error (.invalidArgument .reservedSignal), stage)
  else if !Signal.isKnown number then
    (.error (.io (.system "Invalid argument (os error 22)")), stage)
  else
    let source := stage.sources
    (.ok { handle := listenerHandle source, source, body := .listener number },
      { stage with
        sources := source + 1
        ends := stage.ends.insert source {}
        ears := stage.ears ++ [(number, source)] })

/-- What can be seen of a source. One without a socket shows nothing. -/
def level (stage : Stage) (source : Source) : Level :=
  match stage.ends.get? source with
  | none => {}
  | some near => { input := 0 < near.unread, output := true, hungUp := near.hungUp }

/-- Changes a near end. -/
def touch (source : Source) (change : NearEnd → NearEnd) (stage : Stage) : Stage :=
  { stage with ends := stage.ends.modify source change }

/-! ## Calls on a loop -/

/-- Makes a call on a loop that is there or not, stopped or not: the reply, and the orders it comes
to. -/
def perform (call : Call) (alive stopped : Bool) (stage : Stage) :
    Reply × Stage × List (Order Role Ticker) :=
  let sent : Reply := .outcome (if alive then .ok () else .error .loopGone)
  match call with
  | .add actor mask =>
    let (event, stage) := stage.bringOn actor
    (sent, stage, [.change (.add event mask)])
  | .rearm handle generation mask =>
    (sent, stage, [.change (.rearm { handle, generation := some generation } mask)])
  | .remove handle generation =>
    (sent, stage, [.change (.remove { handle, generation := some generation })])
  | .schedule handle generation delay =>
    (sent, stage, [.change (.schedule { handle, generation := some generation } delay)])
  | .signal number =>
    match stage.listen number with
    | (.ok event, stage) => (sent, stage, [.change (.add event .readable)])
    | (.error fault, stage) => (.outcome (.error fault), stage, [])
  | .timer ticker interval delayed repeats =>
    (sent, stage, [.change (.timer ticker interval delayed repeats)])
  | .stop => (.flag true, stage, [.stop])
  | .stopped => (.flag stopped, stage, [])
  | .wake => (.outcome (.ok ()), stage, [.wake])

end Stage

/-- What is under way while an object or a callback runs: the stage, the pending changes as they
stand, whether the loop is stopped, and what has been asked for so far. -/
structure Scene where
  stage : Stage
  changes : Changes Role Ticker
  stopped : Bool
  requests : List (Request Role) := []
  orders : List (Order Role Ticker) := []

namespace Scene

/-- Asks for a change. -/
def request (request : Request Role) (scene : Scene) : Scene :=
  { scene with
    changes := scene.changes.request request
    requests := scene.requests ++ [request] }

/-- Makes a call on the running loop and logs the reply. -/
def call (scene : Scene) (call : Call) : Scene :=
  let (reply, stage, orders) := scene.stage.perform call true scene.stopped
  { scene with
    stage := stage.note (.requested call.name reply)
    stopped := scene.stopped || (match call with | .stop => true | _ => false)
    orders := scene.orders ++ orders }

/-- Reads the near end of a pair empty. -/
def drain (id : String) (source : Source) (scene : Scene) : Scene :=
  let near := (scene.stage.ends.get? source).getD {}
  { scene with
    stage := (scene.stage.touch source fun near => { near with unread := 0 }).note
      (.drained id near.unread near.hungUp) }

/-- Does one thing. -/
def act (id : String) (source : Source) (scene : Scene) : Deed → Scene
  | .add actor mask =>
    let (event, stage) := scene.stage.bringOn actor
    { scene with stage }.request (.add event mask)
  | .rearm handle mask => scene.request (.rearm handle mask)
  | .remove handle => scene.request (.remove handle)
  | .schedule handle delay => scene.request (.schedule handle delay)
  | .askRemoved handle =>
    { scene with stage := scene.stage.note (.asked handle (scene.changes.isRemoved handle)) }
  | .count => { scene with stage := scene.stage.note (.counted scene.changes.size) }
  | .drain => scene.drain id source
  | .call call => scene.call call

end Scene

/-! ## How scripted objects act -/

def SourceCall.name : SourceCall → CallName
  | .register .. => .register
  | .reregister .. => .reregister
  | .deregister => .deregister

/-- The token and the readiness that a call was given. -/
def SourceCall.wanted : SourceCall → Option (Token × Readiness)
  | .register token wanted => some (token, wanted)
  | .reregister token wanted => some (token, wanted)
  | .deregister => none

/-- How the system answers a call for a near end: what is watched cannot be registered, and what is
not cannot be changed or taken off. -/
def NearEnd.answer (call : CallName) (near : NearEnd) : Option Trouble × NearEnd :=
  match call, near.watched with
  | .register, true => (some (.system "File exists (os error 17)"), near)
  | .register, false => (none, { near with watched := true })
  | .reregister, true => (none, near)
  | .deregister, true => (none, { near with watched := false })
  | _, false => (some (.system "No such file or directory (os error 2)"), near)

/-- Makes the call of a socket, if the source is one. -/
def callSocket (call : CallName) (source : Source) (stage : Stage) : Option Trouble × Stage :=
  match stage.ends.get? source with
  | none => (none, stage)
  | some near =>
    let (trouble, near) := near.answer call
    (trouble, { stage with ends := stage.ends.insert source near })

/-- Makes a call of a source. That of an actor is logged, and fails if the script says so. -/
def callSource (call : SourceCall) (event : Event Role) (stage : Stage) :
    Option Trouble × Stage :=
  let name := SourceCall.name call
  match event.body with
  | .listener _ => callSocket name event.source stage
  | .actor actor =>
    let stage := stage.note (.called name actor.id (SourceCall.wanted call))
    let failing := ((stage.backings.get? actor.id).map Backing.failing).getD []
    if failing.contains name then (some (.system (name.text ++ " refused")), stage)
    else callSocket name event.source stage

/-- Notifies an event: an actor does what its script says, a listener hears its signal. -/
def notifyRole (notice : Notice) (event : Event Role) (outlook : Outlook Role Ticker)
    (stage : Stage) : Reaction Role Ticker Stage :=
  match event.body with
  | .actor actor =>
    let (deeds, actor) := actor.next notice
    let scene : Scene :=
      { stage := stage.note (.event actor.id notice), changes := outlook.changes,
        stopped := outlook.stopped }
    let scene := deeds.foldl (Scene.act actor.id event.source) scene
    { body := .actor actor, world := scene.stage, requests := scene.requests,
      orders := scene.orders }
  | .listener number =>
    if notice = .readable then
      let near := (stage.ends.get? event.source).getD {}
      let listener : SignalListener := { pipe := ⟨near.unread, near.unread⟩ }
      let stage := stage.touch event.source fun near => { near with unread := 0 }
      { body := event.body
        world := if listener.hear.runs = 0 then stage else stage.note (.signal number) }
    else { body := event.body, world := stage }

/-- Runs a ticker. -/
def fireTicker (ticker : Ticker) (outlook : Outlook Role Ticker) (stage : Stage) :
    Firing Role Ticker Stage :=
  let (calls, again, after) := ticker.next
  let scene : Scene :=
    { stage := stage.note (.callback ticker.id ticker.run), changes := outlook.changes,
      stopped := outlook.stopped }
  let scene := calls.foldl Scene.call scene
  { again, callback := after, world := scene.stage, orders := scene.orders }

/-- The end of an event: its socket is closed, and a listener stops listening. -/
def endRole (event : Event Role) (stage : Stage) : Stage :=
  let stage := { stage with
    ends := stage.ends.erase event.source
    ears := stage.ears.filter (fun ear => ear.2 ≠ event.source) }
  match event.body with
  | .actor actor =>
    { stage with desk := { stage.desk with dropped := stage.desk.dropped ++ [actor.id] } }
  | .listener _ => stage

/-- How scripted objects act on the stage. -/
def scripted : Conduct Role Ticker Stage where
  call := callSource
  notify := notifyRole
  fire := fireTicker
  level := Stage.level
  clock stage := (stage.now, stage)
  wait prompt timeout stage :=
    if prompt then stage else { stage with now := stage.now + timeout.getD 0 }
  unresolved handle stage := stage.note (.unresolved handle)
  destroy := endRole

end EventLoop.Trial
