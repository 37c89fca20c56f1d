import EventLoop.Trial.Scenario

/-!
A selector on its own. The objects stand in a list instead of a loop's table, some handles may be
hidden, and what objects ask for gathers without being applied. Readiness for a handle goes to the
first object on the list that has it.
-/
namespace EventLoop.Trial

/-- A loop that never turns, the objects beside it, and the handles that nobody answers for. -/
structure Bench where
  loop : Scenario
  cast : List (Event Role) := []
  hidden : List Handle := []

namespace Bench

/-- A bench with a list of actors. -/
def setUp (capacity : Nat) (actors : List Actor) : Bench :=
  let (cast, stage) := actors.foldl (fun (cast, stage) actor =>
    let (event, stage) := Stage.bringOn actor stage
    (event :: cast, stage)) (([] : List (Event Role)), ({} : Stage))
  { loop := { selector := { capacity }, pause := 0, world := stage }, cast := cast.reverse }

/-- Whether an event is that of the actor named `id`. -/
def isNamed (id : String) (event : Event Role) : Bool :=
  match event.body with
  | .actor actor => actor.id = id
  | .listener _ => false

/-- The event of an actor. -/
def find? (id : String) (bench : Bench) : Option (Event Role) := bench.cast.find? (isNamed id)

/-- Puts an event in the place of the one with its source. -/
def put (event : Event Role) (bench : Bench) : Bench :=
  { bench with cast := bench.cast.map fun other =>
      if other.source = event.source then event else other }

/-- Registers an actor. -/
def register (event : Event Role) (mask : Interest) (bench : Bench) : Except Fault Unit × Bench :=
  let registered := bench.loop.selector.register scripted mask event bench.loop.world
  (registered.outcome,
    { bench with
      loop := { bench.loop with selector := registered.selector, world := registered.world }
    }.put registered.event)

/-- Takes an actor off the poller. -/
def unregister (event : Event Role) (bench : Bench) : Bench :=
  let (event, selector, world) := bench.loop.selector.unregister scripted event bench.loop.world
  { bench with loop := { bench.loop with selector, world } }.put event

/-- Forgets that a handle listens. -/
def forgetListener (handle : Handle) (bench : Bench) : Bench :=
  { bench with loop := { bench.loop with
      selector := bench.loop.selector.forgetListener handle } }

/-- Polls once without waiting and counts the notifications. -/
def poll (bench : Bench) : Nat × Bench :=
  let seen := bench.cast.filter fun event => !bench.hidden.contains event.handle
  let table := Keyed.ofFirst (seen.map fun event => (event.handle, event))
  let (count, loop) := ({ bench.loop with table } : Scenario).poll scripted (some 0)
  (count, loop.table.values.foldl (fun bench event => bench.put event) { bench with loop })

/-- Drops what has been asked for so far. -/
def renewChanges (bench : Bench) : Bench :=
  let gone := Loop.eventsIn bench.loop.changes.pending
  let loop := gone.foldl (fun loop event => Loop.destroy scripted event loop) bench.loop
  { bench with loop := { loop with changes := {} } }

end Bench

end EventLoop.Trial
