import EventLoop.Loop.Basic

/-!
One turn of a loop: apply what is in the inbox, poll once and deliver the batch, apply what the
objects asked for, serve the alarms that have fallen due, and apply what was asked for then. A
handle that is to be removed hears nothing more, neither in the rest of the batch nor from alarms.
-/
namespace EventLoop.Loop

variable {B C W : Type}

/-- `Reactor::turn`, the queued commands: applies everything in the inbox, in order. -/
def drainInbox (conduct : Conduct B C W) (loop : Loop B C W) : Loop B C W :=
  loop.inbox.foldl (apply conduct) { loop with inbox := [] }

/-- `Reactor::apply_changes`: applies everything that was asked for, in order. -/
def applyChanges (conduct : Conduct B C W) (loop : Loop B C W) : Loop B C W :=
  loop.changes.pending.foldl (apply conduct) { loop with changes := {} }

/-- `Multiplexer::poll`, the kind of a read readiness: the notice that input at a handle is
delivered as. -/
def inputNotice (handle : Handle) (loop : Loop B C W) : Notice :=
  if loop.selector.isListener handle then .accept else .readable

/-- `Multiplexer::poll`, one entry: delivers input first, as a connection to accept or as something
to read, then room for output. Counts the notifications. -/
def deliver (conduct : Conduct B C W) (loop : Loop B C W) (entry : Ready) : Nat × Loop B C W :=
  if entry.token = wakerToken then (0, loop)
  else
    let handle := entry.token.handle
    if loop.changes.isRemoved handle then (0, loop)
    else
      match loop.lookup handle with
      | none => (0, { loop with world := conduct.unresolved handle loop.world })
      | some event =>
        if event.standing ≠ .added then (0, loop)
        else
          let (read, loop) :=
            if entry.readiness.input then
              (1, loop.notify conduct (loop.inputNotice handle) handle)
            else (0, loop)
          if entry.readiness.output && !loop.changes.isRemoved handle then
            (read + 1, loop.notify conduct .writable handle)
          else (read, loop)

/-- `Multiplexer::poll`, the loop over the batch: delivers it entry by entry, and counts the
notifications. -/
def deliverAll (conduct : Conduct B C W) : List Ready → Loop B C W → Nat × Loop B C W
  | [], loop => (0, loop)
  | entry :: rest, loop =>
    let (here, loop) := loop.deliver conduct entry
    let (later, loop) := deliverAll conduct rest loop
    (here + later, loop)

/-- `Multiplexer::poll`: polls once and delivers what is ready. -/
def poll (conduct : Conduct B C W) (timeout : Option Nat) (loop : Loop B C W) :
    Nat × Loop B C W :=
  let prompt := loop.selector.poller.isPrompt (conduct.level loop.world)
  let loop := { loop with world := conduct.wait prompt timeout loop.world }
  let (entries, poller) :=
    loop.selector.poller.poll (conduct.level loop.world) (max loop.selector.capacity 1)
  deliverAll conduct entries { loop with selector := { loop.selector with poller } }

/-- `Reactor::fire_timers`, one target: serves an alarm taken off the agenda at `now`. A callback
goes back on the agenda if it wants to run again and may. As in `Loop.schedule`, the moment `now +
interval` is assumed to be an instant. -/
def serve (conduct : Conduct B C W) (now : Nat) (loop : Loop B C W) : Alarm C → Loop B C W
  | .event handle generation =>
    if loop.owns { handle, generation := some generation } && !loop.changes.isRemoved handle then
      loop.notify conduct .timer handle
    else loop
  | .callback callback interval remaining =>
    let firing := conduct.fire callback loop.outlook loop.world
    let loop := firing.orders.foldl (carryOut conduct) { loop with world := firing.world }
    let left := remaining.map (· - 1)
    if firing.again && left ≠ some 0 then
      { loop with
        agenda := loop.agenda.schedule (now + interval)
          (.callback firing.callback interval left) }
    else loop

/-- `Reactor::fire_timers`: serves every alarm that has fallen due. What is put on the agenda
meanwhile waits for the next turn, however early it falls due. -/
def fireAlarms (conduct : Conduct B C W) (loop : Loop B C W) : Loop B C W :=
  let (now, loop) := loop.readClock conduct
  let (due, agenda) := loop.agenda.expired now
  due.foldl (serve conduct now) { loop with agenda }

/-- `Reactor::turn`: one turn. Gives the number of notifications that the poll delivered. -/
def turn (conduct : Conduct B C W) (loop : Loop B C W) : Nat × Loop B C W :=
  let loop := loop.drainInbox conduct
  let (now, loop) := loop.readClock conduct
  let (delivered, loop) := loop.poll conduct (loop.agenda.patience now (some loop.pause))
  let loop := loop.applyChanges conduct
  let loop := loop.fireAlarms conduct
  (delivered, loop.applyChanges conduct)

/-- `Reactor::run`: turns until the loop is stopped, but at most `turns` times; none if it is still
running then. -/
def run (conduct : Conduct B C W) : Nat → Loop B C W → Option (Loop B C W)
  | 0, loop => if loop.stopped then some loop else none
  | turns + 1, loop => if loop.stopped then some loop else run conduct turns (loop.turn conduct).2

/-- The objects in a list of changes. -/
def eventsIn (changes : List (Change B C)) : List (Event B) :=
  changes.filterMap fun
    | .add event _ => some event
    | _ => none

/-- The end of a loop, where the `Reactor` is dropped: everything it owns or was still to own is
destroyed. -/
def close (conduct : Conduct B C W) (loop : Loop B C W) : Loop B C W :=
  let gone := loop.table.values ++ eventsIn loop.changes.pending ++ eventsIn loop.inbox
  let emptied : Loop B C W :=
    { selector := loop.selector, stopped := loop.stopped, alive := false, pause := loop.pause,
      world := loop.world }
  gone.foldl (fun loop event => loop.destroy conduct event) emptied

end EventLoop.Loop
