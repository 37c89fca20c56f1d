import EventLoop.Proofs.Loop.Courses
import EventLoop.Proofs.Loop.Minutes

/-! The life of a loop from its first moment to beyond its end. Besides the steps of its thread
there are orders from anywhere, direct calls between turns, and whatever happens around it; at some
time the loop is closed, and orders may come even then. A lifetime keeps count of all objects that
were ever handed over, whichever way they came. On the record, each lifetime is what it was off
it. -/
namespace EventLoop

variable {B C W : Type}

/-! ## What is handed over -/

/-- The objects that come with orders. -/
def Loop.ordersBring (orders : List (Order B C)) : List (Event B) :=
  eventsIn (orders.filterMap Order.change?)

/-- The objects that are handed over by whoever is called for. -/
def Doing.brings : Doing B C → List (Event B)
  | .ran _ _ _ orders => Loop.ordersBring orders
  | .told telling orders =>
    Loop.eventsIn (C := C) (telling.requests.map Request.change) ++ Loop.ordersBring orders

namespace Site

/-- The objects that are handed over in the next step of a loop's thread. -/
def brings (conduct : Conduct B C W) (site : Site B C W) : List (Event B) :=
  (site.doings conduct).flatMap Doing.brings

/-! ## Lifetimes -/

/-- A run of a loop up to its end and beyond, with what happened to owners in it and with all
objects that were handed over. `around` says how the world may move by itself. -/
inductive Lifetime (conduct : Conduct B C W) (around : W → W → Prop) (start : Site B C W) :
    List Deed → List (Event B) → Site B C W → Prop where
  | start : Lifetime conduct around start [] [] start
  | step {deeds more : List Deed} {handed : List (Event B)} {site next : Site B C W}
      (life : Lifetime conduct around start deeds handed site) (alive : site.loop.alive = true)
      (step : Step conduct site more next) :
      Lifetime conduct around start (deeds ++ more) (handed ++ site.brings conduct) next
  /-- Anybody sends an order, which may be too late. -/
  | order {deeds : List Deed} {handed : List (Event B)} {site : Site B C W}
      (life : Lifetime conduct around start deeds handed site) (order : Order B C) :
      Lifetime conduct around start deeds (handed ++ Loop.ordersBring [order])
        { site with loop := site.loop.carryOut conduct order }
  /-- Whoever holds the loop adds, re-arms or removes directly, which does what the change of that
  name does. -/
  | call {deeds : List Deed} {handed : List (Event B)} {loop : Loop B C W}
      (life : Lifetime conduct around start deeds handed ⟨loop, .resting⟩)
      (alive : loop.alive = true) (change : Change B C) :
      Lifetime conduct around start (deeds ++ loop.changeDeeds conduct change)
        (handed ++ Loop.eventsIn [change]) ⟨loop.apply conduct change, .resting⟩
  | elsewhere {deeds : List Deed} {handed : List (Event B)} {site : Site B C W} {world : W}
      (life : Lifetime conduct around start deeds handed site)
      (moved : around site.loop.world world) (queue : List Mark) :
      Lifetime conduct around start deeds handed
        { site with loop := { site.loop with
            world
            selector := { site.loop.selector with
              poller := { site.loop.selector.poller with queue } } } }
  /-- Whoever holds the loop lets it go. -/
  | close {deeds : List Deed} {handed : List (Event B)} {loop : Loop B C W}
      (life : Lifetime conduct around start deeds handed ⟨loop, .resting⟩)
      (alive : loop.alive = true) :
      Lifetime conduct around start deeds handed ⟨loop.close conduct, .resting⟩

/-- What the loop's thread does with nobody coming in between is part of lifetimes. -/
theorem Lifetime.steps {conduct : Conduct B C W} {around : W → W → Prop}
    {start early late : Site B C W} {deeds more : List Deed} {handed : List (Event B)}
    (life : Lifetime conduct around start deeds handed early) (alive : early.loop.alive = true)
    (steps : Steps conduct early more late) :
    ∃ fresh, Lifetime conduct around start (deeds ++ more) (handed ++ fresh) late := by
  induction steps generalizing deeds handed with
  | here =>
    refine ⟨[], ?_⟩
    rwa [List.append_nil, List.append_nil]
  | step first steps ih =>
    obtain ⟨fresh, later⟩ := ih (life.step alive first) (first.lives alive)
    rw [List.append_assoc, List.append_assoc] at later
    exact ⟨_, later⟩

/-- Whole turns are part of lifetimes. -/
theorem Lifetime.turn {conduct : Conduct B C W} {around : W → W → Prop} {start : Site B C W}
    {deeds : List Deed} {handed : List (Event B)} {loop : Loop B C W}
    (life : Lifetime conduct around start deeds handed ⟨loop, .resting⟩)
    (alive : loop.alive = true) :
    ∃ more fresh, Lifetime conduct around start (deeds ++ more) (handed ++ fresh)
      ⟨(loop.turn conduct).2, .resting⟩ := by
  obtain ⟨more, steps⟩ := turn_steps conduct loop
  exact ⟨more, life.steps alive steps⟩

end Site

/-! ## Records of a lifetime -/

namespace Site

/-- A site whose minutes begin now. -/
def onRecord (site : Site B C W) : Site B C (W × Minutes B) := ⟨site.loop.onRecord, site.stage⟩

variable {R : Type} {conduct : Conduct B C W} {early : Site B C (W × R)} {site : Site B C W}
  {deeds : List Deed} {handed : List (Event B)} {around : W → W → Prop}

/-- **A loop lives on the record as it does off it**, whatever is written down. -/
theorem Lifetime.recorded (life : Lifetime conduct around early.offRecord deeds handed site)
    (scribe : Scribe B C R) :
    ∃ late, Lifetime (conduct.recorded scribe) (Beyond around) early deeds handed late ∧
      late.offRecord = site := by
  have shadows := recorded_shadows scribe conduct
  induction life with
  | start => exact ⟨early, .start, rfl⟩
  | step life alive step ih =>
    obtain ⟨late, told, rfl⟩ := ih
    obtain ⟨further, stepped, same⟩ := step.recorded scribe
    exact ⟨further, told.step alive stepped, same⟩
  | order life order ih =>
    obtain ⟨late, told, rfl⟩ := ih
    exact ⟨_, told.order order,
      congrArg (Site.mk · _) (Loop.carryOut_seen shadows late.loop order).symm⟩
  | call life alive change ih =>
    obtain ⟨⟨loop, stage⟩, told, same⟩ := ih
    cases same
    have deeds := Loop.changeDeeds_seen shadows loop change
    refine ⟨⟨loop.apply (conduct.recorded scribe) change, .resting⟩, ?_, ?_⟩
    · exact deeds ▸ told.call alive change
    · exact congrArg (Site.mk · _) (Loop.apply_seen shadows loop change).symm
  | @elsewhere deeds handed site world life moved queue ih =>
    obtain ⟨late, told, rfl⟩ := ih
    have besides : Beyond around late.loop.world (world, late.loop.world.2) := ⟨moved, rfl⟩
    exact ⟨_, told.elsewhere besides queue, rfl⟩
  | close life alive ih =>
    obtain ⟨⟨loop, stage⟩, told, same⟩ := ih
    cases same
    exact ⟨_, told.close alive, congrArg (Site.mk · _) (Loop.close_seen shadows loop).symm⟩

end Site

end EventLoop
