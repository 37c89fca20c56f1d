import EventLoop.Selector

/-!
A loop and the single steps it is made of: adding, re-arming and removing objects, applying a
change, delivering a notification. A handle has at most one owner, and the loop is the only owner
of its objects: an object given to it is in a list of pending changes, in the table, or destroyed.
-/
namespace EventLoop

/-- `Reactor`, together with what its `ReactorHandle`s share with it: the inbox is the channel of
commands, and `stopped` the flag that asks it to exit. `pause` is its `poll_timeout`, how long one
poll may wait, and `alive` tells whether it is still there to read its inbox. -/
structure Loop (B C W : Type) where
  selector : Selector := {}
  table : Keyed Handle (Event B) := {}
  changes : Changes B C := {}
  agenda : Agenda (Alarm C) := {}
  inbox : List (Change B C) := []
  stopped : Bool := false
  alive : Bool := true
  pause : Nat := 100
  world : W

namespace Loop

variable {B C W : Type}

/-- `Reactor::len`: how many objects the loop owns. -/
def size (loop : Loop B C W) : Nat := loop.table.size

/-- `Reactor::lookup`: the object that owns a handle. -/
def lookup (handle : Handle) (loop : Loop B C W) : Option (Event B) := loop.table.get? handle

/-- `Reactor::owns`: whether a change still means somebody. -/
def owns (target : Target) (loop : Loop B C W) : Bool :=
  match loop.lookup target.handle with
  | none => false
  | some event =>
    match target.generation with
    | none => true
    | some generation => event.generation = generation

/-- `ReactorHandle::wakeup`: wakes the poll. -/
def wake (loop : Loop B C W) : Loop B C W :=
  { loop with selector := { loop.selector with poller := loop.selector.poller.wake } }

/-- The end of an object, where the box that holds it is dropped: its source is gone with it. -/
def destroy (conduct : Conduct B C W) (event : Event B) (loop : Loop B C W) : Loop B C W :=
  { loop with
    selector := { loop.selector with poller := loop.selector.poller.forget event.source }
    world := conduct.destroy event loop.world }

/-- `Instant::now`: reads the clock. -/
def readClock (conduct : Conduct B C W) (loop : Loop B C W) : Nat × Loop B C W :=
  let (now, world) := conduct.clock loop.world
  (now, { loop with world })

/-- `TimerQueue::schedule(Instant::now() + delay, alarm)`: puts an alarm on the agenda, `delay` from
now. Moments are numbers without a bound here. An instant has one, and adding a delay that leads
beyond it breaks off; it is assumed of every delay and interval that the moment it leads to is an
instant. -/
def schedule (conduct : Conduct B C W) (delay : Nat) (alarm : Alarm C) (loop : Loop B C W) :
    Loop B C W :=
  let (now, loop) := loop.readClock conduct
  { loop with agenda := loop.agenda.schedule (now + delay) alarm }

/-! ## Owned objects -/

/-- `Multiplexer::register` on the owner of a handle: registers it for `mask` and keeps what became
of it. -/
def registerOwned (conduct : Conduct B C W) (event : Event B) (mask : Interest)
    (loop : Loop B C W) : Except Fault Unit × Loop B C W :=
  let registered := loop.selector.register conduct mask event loop.world
  (registered.outcome,
    { loop with
      table := loop.table.insert event.handle registered.event
      selector := registered.selector
      world := registered.world })

/-- `Reactor::add_event`, the registration for `interest - TIMER`: registers the owner of a handle
for what is left of a mask without its wish for an alarm, if anything is. -/
def registerRest (conduct : Conduct B C W) (event : Event B) (mask : Interest)
    (loop : Loop B C W) : Except Fault Unit × Loop B C W :=
  if (mask.without .timer).isEmpty then (.ok (), loop)
  else loop.registerOwned conduct event (mask.without .timer)

/-- `Reactor::add_event`, what follows on that: the one alarm that a timer bit stands for, if the
registration has gone through. -/
def alarmed (conduct : Conduct B C W) (event : Event B) (mask : Interest) :
    Except Fault Unit × Loop B C W → Except Fault Unit × Loop B C W
  | (.error fault, loop) => (.error fault, loop)
  | (.ok (), loop) =>
    (.ok (),
      if mask.includes .timer then
        loop.schedule conduct loop.pause (.event event.handle event.generation)
      else loop)

/-- `Reactor::add_event` from the registration on: the part that is the same for new and known
handles. -/
def settle (conduct : Conduct B C W) (event : Event B) (mask : Interest) (loop : Loop B C W) :
    Except Fault Unit × Loop B C W :=
  alarmed conduct event mask (loop.registerRest conduct event mask)

section Alarmed

variable {conduct : Conduct B C W} {event : Event B} {mask : Interest}
  {reached : Except Fault Unit × Loop B C W}

theorem alarmed_answer (reached : Except Fault Unit × Loop B C W) :
    (alarmed conduct event mask reached).1 = reached.1 := by
  obtain ⟨outcome, late⟩ := reached
  cases outcome <;> rfl

/-- Nothing follows on a registration that has failed or was not for the sake of an alarm. -/
theorem alarmed_of_silent (silent : ¬ (reached.1 = .ok () ∧ mask.includes .timer = true)) :
    alarmed conduct event mask reached = reached := by
  obtain ⟨outcome, late⟩ := reached
  cases outcome with
  | error fault => rfl
  | ok _ => exact congrArg (Prod.mk _) (if_neg fun timer => silent ⟨rfl, timer⟩)

theorem alarmed_of_wish (done : reached.1 = .ok ()) (timer : mask.includes .timer = true) :
    alarmed conduct event mask reached =
      (.ok (), reached.2.schedule conduct reached.2.pause
        (.event event.handle event.generation)) := by
  obtain ⟨outcome, late⟩ := reached
  cases done
  exact congrArg (Prod.mk _) (if_pos timer)

/-- Whatever an alarm does not disturb, what follows does not disturb. -/
theorem alarmed_keeps {motive : Loop B C W → Prop} (reaches : motive reached.2)
    (scheduled : ∀ late, motive late →
      motive (late.schedule conduct late.pause (.event event.handle event.generation))) :
    motive (alarmed conduct event mask reached).2 := by
  by_cases wish : reached.1 = .ok () ∧ mask.includes .timer = true
  · rw [alarmed_of_wish wish.1 wish.2]
    exact scheduled _ reaches
  · rwa [alarmed_of_silent wish]

/-- Where a loop seen in another way sets its alarms as it does, what follows is seen in that way
too. -/
theorem alarmed_map {V : Type} {coarse : Conduct B C V} {look : Loop B C W → Loop B C V}
    (scheduled : ∀ late alarm, (look late).schedule coarse (look late).pause alarm =
      look (late.schedule conduct late.pause alarm)) :
    alarmed coarse event mask (reached.map id look) =
      (alarmed conduct event mask reached).map id look := by
  obtain ⟨outcome, late⟩ := reached
  cases outcome with
  | error fault => rfl
  | ok _ =>
    refine congrArg (Prod.mk _) ?_
    rw [apply_ite look, scheduled]

end Alarmed

/-- `Reactor::add_event`: takes ownership of an object and registers it. If its handle has an owner,
the owner is re-armed in its place and the object that came is destroyed. An object whose
registration fails is not kept. -/
def addEvent (conduct : Conduct B C W) (event : Event B) (mask : Interest) (loop : Loop B C W) :
    Except Fault Unit × Loop B C W :=
  if mask.isEmpty then
    (.error (.invalidArgument .emptyMask), loop.destroy conduct event)
  else
    match loop.lookup event.handle with
    | some owner =>
      let (outcome, loop) := loop.settle conduct owner mask
      (outcome, loop.destroy conduct event)
    | none =>
      let entered := { loop with table := loop.table.insert event.handle event }
      match entered.settle conduct event mask with
      | (.ok (), loop) => (.ok (), loop)
      | (.error fault, loop) =>
        let kept := (loop.lookup event.handle).getD event
        (.error fault,
          { loop with table := loop.table.erase event.handle }.destroy conduct kept)

/-- `Reactor::rearm`: changes what the owner of a handle is watched for. -/
def rearm (conduct : Conduct B C W) (handle : Handle) (mask : Interest) (loop : Loop B C W) :
    Except Fault Unit × Loop B C W :=
  match loop.lookup handle with
  | none => (.error (.invalidArgument .notRegistered), loop)
  | some owner => loop.registerOwned conduct owner mask

/-- `Reactor::remove_event`: takes the owner of a handle off the poller and destroys it. Says
whether there was one. -/
def removeEvent (conduct : Conduct B C W) (handle : Handle) (loop : Loop B C W) :
    Bool × Loop B C W :=
  match loop.lookup handle with
  | none => (false, loop)
  | some owner =>
    let (owner, selector, world) := loop.selector.unregister conduct owner loop.world
    let loop := { loop with
      table := loop.table.erase handle
      selector := selector.forgetListener handle
      world }
    (true, loop.destroy conduct owner)

/-! ## Changes -/

/-- `Reactor::apply`: applies a change. One that means nobody any more does nothing, and one that
fails leaves no trace but an object destroyed. -/
def apply (conduct : Conduct B C W) (loop : Loop B C W) : Change B C → Loop B C W
  | .add event mask => (loop.addEvent conduct event mask).2
  | .rearm target mask =>
    if loop.owns target then (loop.rearm conduct target.handle mask).2 else loop
  | .remove target =>
    if loop.owns target then (loop.removeEvent conduct target.handle).2 else loop
  | .schedule target delay =>
    match loop.lookup target.handle with
    | some owner =>
      if loop.owns target then
        loop.schedule conduct delay (.event target.handle owner.generation)
      else loop
    | none => loop
  | .timer callback interval delayed repeats =>
    loop.schedule conduct (if delayed then interval else 0)
      (.callback callback interval repeats)

/-- `ReactorHandle::submit`: puts a change into the inbox and wakes the poll. If the loop is gone
the change fails, and an object in it is destroyed. -/
def submit (conduct : Conduct B C W) (change : Change B C) (loop : Loop B C W) :
    Except Fault Unit × Loop B C W :=
  if loop.alive then (.ok (), { loop with inbox := loop.inbox ++ [change] }.wake)
  else
    (.error .loopGone,
      match change with
      | .add event _ => loop.destroy conduct event
      | _ => loop)

/-- `ReactorHandle::submit`, `ReactorHandle::stop` and `ReactorHandle::wakeup`: carries out an
order. -/
def carryOut (conduct : Conduct B C W) (loop : Loop B C W) : Order B C → Loop B C W
  | .change change => (loop.submit conduct change).2
  | .stop => { loop with stopped := true }.wake
  | .wake => loop.wake

/-- What an object or a callback can see of the loop: the `Changes` it is handed, and
`ReactorHandle::is_stopped`. -/
def outlook (loop : Loop B C W) : Outlook B C := ⟨loop.changes, loop.stopped⟩

/-- `EventHandler::handle_event` on the owner of a handle: notifies it and takes up what it asks
for. -/
def notify (conduct : Conduct B C W) (notice : Notice) (handle : Handle) (loop : Loop B C W) :
    Loop B C W :=
  match loop.lookup handle with
  | none => loop
  | some event =>
    let reaction := conduct.notify notice event loop.outlook loop.world
    let loop := { loop with
      table := loop.table.insert handle { event with body := reaction.body }
      changes := reaction.requests.foldl Changes.request loop.changes
      world := reaction.world }
    reaction.orders.foldl (carryOut conduct) loop

end Loop

end EventLoop
