import EventLoop.Proofs.Loop.Conservation
import EventLoop.Proofs.Loop.Lifetimes

/-! What objects keep up among themselves. If the world is sound whenever an object acts on it, and
every object is good and hands over good ones, then each step of a loop leaves it so, whichever
step it is. To use this one looks at what single objects do, and at nothing of the loop. -/
namespace EventLoop

variable {B C W : Type}

/-- Objects that act on a sound world leave it sound and stay good, and whoever they hand over is
good. How far the registration of an object has come does not matter. -/
structure Conduct.Upholds (conduct : Conduct B C W) (sound : W → Prop) (good : Event B → Prop) :
    Prop where
  idle : ∀ event, good event.idle ↔ good event
  call : ∀ call event world, sound world → sound (conduct.call call event world).2
  clock : ∀ world, sound world → sound (conduct.clock world).2
  wait : ∀ prompt timeout world, sound world → sound (conduct.wait prompt timeout world)
  unresolved : ∀ handle world, sound world → sound (conduct.unresolved handle world)
  destroy : ∀ event world, sound world → sound (conduct.destroy event world)
  notify : ∀ notice event outlook world, sound world → good event →
    let reaction := conduct.notify notice event outlook world
    sound reaction.world ∧ good { event with body := reaction.body } ∧
      ∀ other ∈ Loop.eventsIn (C := C) (reaction.requests.map Request.change) ++
        Loop.ordersBring reaction.orders, good other
  fire : ∀ callback outlook world, sound world →
    sound (conduct.fire callback outlook world).world ∧
      ∀ other ∈ Loop.ordersBring (conduct.fire callback outlook world).orders, good other

variable {conduct : Conduct B C W} {sound : W → Prop} {good : Event B → Prop}

private theorem Conduct.Upholds.reckons (upholds : conduct.Upholds sound good) :
    conduct.Reckons fun early _ late => sound early → sound late where
  still _ := id
  trans first second := second ∘ first
  call := upholds.call
  destroy := upholds.destroy
  clock := upholds.clock

namespace Loop

/-- A loop on a sound world that owns good objects and is to own good ones. -/
structure Upheld (sound : W → Prop) (good : Event B → Prop) (loop : Loop B C W) : Prop where
  filed : loop.Filed
  world : sound loop.world
  owners : ∀ handle event, loop.lookup handle = some event → good event
  asked : ∀ event ∈ eventsIn loop.changes.pending, good event
  sent : ∀ event ∈ eventsIn loop.inbox, good event

variable {loop : Loop B C W}

/-- A loop that owns nobody and is to own nobody. -/
theorem Upheld.vacant (world : sound loop.world) (table : loop.table = {})
    (pending : loop.changes.pending = []) (inbox : loop.inbox = []) :
    loop.Upheld sound good := by
  have nobody (handle : Handle) : loop.lookup handle = none := by
    rw [lookup, table]
    rfl
  refine ⟨?_, world, ?_, ?_, ?_⟩
  · intro handle event found
    cases (nobody handle).symm.trans found
  · intro handle event found
    cases (nobody handle).symm.trans found
  · rw [pending]
    exact List.forall_mem_nil _
  · rw [inbox]
    exact List.forall_mem_nil _

theorem Upheld.applied (upheld : loop.Upheld sound good) (upholds : conduct.Upholds sound good)
    (change : Change B C) (brought : ∀ event ∈ eventsIn [change], good event) :
    (loop.apply conduct change).Upheld sound good := by
  obtain ⟨ended, conserves⟩ := apply_conserves conduct upheld.filed change
  obtain ⟨inbox, changes, _⟩ := loop.apply_keeps conduct change
  have filed : (loop.apply conduct change).Filed :=
    (accounts_apply conduct upheld.filed change).filed
  refine ⟨filed, conserves.world _ upholds.reckons upheld.world, ?_, ?_, ?_⟩
  · intro handle event found
    obtain ⟨owner, same, there | came⟩ := conserves.came upheld.filed filed found
    · exact (upholds.idle event).1
        (same ▸ (upholds.idle owner).2 (upheld.owners handle owner there))
    · exact (upholds.idle event).1 (same ▸ (upholds.idle owner).2 (brought owner came))
  · rw [changes]
    exact upheld.asked
  · rw [inbox]
    exact upheld.sent

theorem Upheld.ordered (upheld : loop.Upheld sound good) (upholds : conduct.Upholds sound good)
    (order : Order B C) (brought : ∀ event ∈ ordersBring [order], good event) :
    (loop.carryOut conduct order).Upheld sound good := by
  cases order with
  | stop => exact ⟨upheld.filed, upheld.world, upheld.owners, upheld.asked, upheld.sent⟩
  | wake => exact ⟨upheld.filed, upheld.world, upheld.owners, upheld.asked, upheld.sent⟩
  | change change =>
    simp only [carryOut, submit]
    split
    · refine ⟨upheld.filed, upheld.world, upheld.owners, upheld.asked, ?_⟩
      intro event inside
      rcases List.mem_append.1 (eventsIn_append loop.inbox [change] ▸ inside) with old | new
      · exact upheld.sent event old
      · exact brought event new
    · cases change with
      | add event mask =>
        exact ⟨upheld.filed, upholds.destroy event _ upheld.world, upheld.owners, upheld.asked,
          upheld.sent⟩
      | _ => exact upheld

private theorem Upheld.orderedAll (upheld : loop.Upheld sound good)
    (upholds : conduct.Upholds sound good)
    (orders : List (Order B C)) (brought : ∀ event ∈ ordersBring orders, good event) :
    (orders.foldl (carryOut conduct) loop).Upheld sound good := by
  induction orders generalizing loop with
  | nil => exact upheld
  | cons order orders ih =>
    have split : ordersBring (order :: orders) = ordersBring [order] ++ ordersBring orders := by
      unfold ordersBring
      rw [← eventsIn_append, ← List.filterMap_append]
      rfl
    rw [split] at brought
    refine ih (upheld.ordered upholds order ?_) ?_
    · exact fun event inside => brought event (List.mem_append_left _ inside)
    · exact fun event inside => brought event (List.mem_append_right _ inside)

/-- An owner changes, and the world with it. -/
theorem Upheld.rewritten (upheld : loop.Upheld sound good) {handle : Handle} {event : Event B}
    (found : loop.lookup handle = some event) {body : B} {world : W} (moved : sound world)
    (changed : good { event with body }) :
    Upheld sound good
      { loop with table := loop.table.insert handle { event with body }, world } := by
  refine ⟨?_, moved, ?_, upheld.asked, upheld.sent⟩
  · intro probe other stands
    have before := (lookup_insert handle probe _).symm.trans stands
    split at before
    · next here =>
      cases before
      exact (upheld.filed handle event found).trans here.symm
    · exact upheld.filed probe other before
  · intro probe other stands
    have before := (lookup_insert handle probe _).symm.trans stands
    split at before
    · cases before
      exact changed
    · exact upheld.owners probe other before

/-- More is asked for, and whoever comes with it is good. -/
theorem Upheld.petitioned (upheld : loop.Upheld sound good) (requests : List (Request B))
    (brought : ∀ event ∈ eventsIn (C := C) (requests.map Request.change), good event) :
    Upheld sound good
      { loop with changes := requests.foldl Changes.request loop.changes } := by
  refine ⟨upheld.filed, upheld.world, upheld.owners, ?_, upheld.sent⟩
  simp only [Changes.pending_foldl, eventsIn_append]
  exact List.forall_mem_append.2 ⟨upheld.asked, brought⟩

/-- An owner reacts, and the loop takes up what it asks for. -/
theorem Upheld.tookUp (upheld : loop.Upheld sound good) (upholds : conduct.Upholds sound good)
    {handle : Handle} {event : Event B} (found : loop.lookup handle = some event)
    {reaction : Reaction B C W} (world : sound reaction.world)
    (body : good { event with body := reaction.body })
    (brought : ∀ other ∈ eventsIn (C := C) (reaction.requests.map Request.change) ++
      ordersBring reaction.orders, good other) :
    (loop.takeUp conduct handle event reaction).Upheld sound good := by
  obtain ⟨requested, ordered⟩ := List.forall_mem_append.1 brought
  exact ((upheld.rewritten found world body).petitioned reaction.requests requested).orderedAll
    upholds reaction.orders ordered

private theorem Upheld.notified (upheld : loop.Upheld sound good)
    (upholds : conduct.Upholds sound good)
    (notice : Notice) (handle : Handle) :
    (loop.notify conduct notice handle).Upheld sound good := by
  cases found : loop.lookup handle with
  | none =>
    rw [notify_missing conduct notice found]
    exact upheld
  | some event =>
    rw [notify_eq conduct notice found]
    obtain ⟨world, body, brought⟩ := upholds.notify notice event loop.outlook loop.world
      upheld.world (upheld.owners handle event found)
    exact upheld.tookUp upholds found world body brought

private theorem Upheld.served (upheld : loop.Upheld sound good)
    (upholds : conduct.Upholds sound good)
    (now : Nat) (alarm : Alarm C) : (loop.serve conduct now alarm).Upheld sound good := by
  cases alarm with
  | event handle generation =>
    simp only [serve]
    split
    · exact upheld.notified upholds .timer handle
    · exact upheld
  | callback callback interval remaining =>
    obtain ⟨world, brought⟩ := upholds.fire callback loop.outlook loop.world upheld.world
    have fired : Upheld sound good { loop with
        world := (conduct.fire callback loop.outlook loop.world).world } :=
      ⟨upheld.filed, world, upheld.owners, upheld.asked, upheld.sent⟩
    have ordered := fired.orderedAll upholds _ brought
    simp only [serve]
    split
    · exact ⟨ordered.filed, ordered.world, ordered.owners, ordered.asked, ordered.sent⟩
    · exact ordered

end Loop

/-! ## Steps -/

namespace Site

/-- A loop that is upheld wherever its thread has come to. -/
structure Upheld (sound : W → Prop) (good : Event B → Prop) (site : Site B C W) : Prop where
  loop : site.loop.Upheld sound good
  ahead : ∀ event ∈ Loop.eventsIn site.stage.ahead, good event

variable {site next : Site B C W} {deeds : List Deed}

/-- Whoever waits to be added is good. -/
theorem Upheld.waits (upheld : site.Upheld sound good) : ∀ event ∈ site.waiting, good event := by
  intro event inside
  rw [waiting, Site.ahead, Loop.eventsIn_append, Loop.eventsIn_append] at inside
  rcases List.mem_append.1 inside with before | sent
  · rcases List.mem_append.1 before with asked | ahead
    · exact upheld.loop.asked event asked
    · exact upheld.ahead event ahead
  · exact upheld.loop.sent event sent

/-- **Every step upholds what single objects uphold.** -/
theorem Step.upholds (step : Step conduct site deeds next) (upholds : conduct.Upholds sound good)
    (upheld : site.Upheld sound good) : next.Upheld sound good := by
  obtain ⟨loop, ahead⟩ := upheld
  have nobody : ∀ event ∈ Loop.eventsIn ([] : List (Change B C)), good event :=
    List.forall_mem_nil _
  cases step with
  | begin => exact ⟨loop, nobody⟩
  | @take site change rest inbox =>
    have sent := loop.sent
    rw [inbox, Loop.eventsIn_cons] at sent
    have taken : Loop.Upheld sound good { site with inbox := rest } :=
      ⟨loop.filed, loop.world, loop.owners, loop.asked,
        fun event inside => sent event (List.mem_append_right _ inside)⟩
    exact ⟨taken.applied upholds change fun event inside =>
      sent event (List.mem_append_left _ inside), nobody⟩
  | poll inbox prompt timeout entries queue =>
    exact ⟨⟨loop.filed, upholds.wait _ _ _ (upholds.clock _ loop.world), loop.owners, loop.asked,
      loop.sent⟩, nobody⟩
  | pollFails inbox =>
    exact ⟨⟨loop.filed, upholds.clock _ loop.world, loop.owners, loop.asked, loop.sent⟩, nobody⟩
  | @pass site entry =>
    refine ⟨?_, nobody⟩
    unfold Loop.passOver
    split
    · exact loop
    · split
      · exact ⟨loop.filed, upholds.unresolved _ _ loop.world, loop.owners, loop.asked, loop.sent⟩
      · exact loop
  | hear => exact ⟨loop.notified upholds _ _, nobody⟩
  | hearNothing => exact ⟨loop, nobody⟩
  | answer => exact ⟨loop.notified upholds _ _, nobody⟩
  | answerNothing => exact ⟨loop, nobody⟩
  | handOver =>
    exact ⟨⟨loop.filed, loop.world, loop.owners, List.forall_mem_nil _, loop.sent⟩, loop.asked⟩
  | apply site change pending second =>
    have listed : ∀ event ∈ Loop.eventsIn (change :: pending), good event := ahead
    rw [Loop.eventsIn_cons] at listed
    exact ⟨loop.applied upholds change fun event inside =>
        listed event (List.mem_append_left _ inside),
      fun event inside => listed event (List.mem_append_right _ inside)⟩
  | ring =>
    exact ⟨⟨loop.filed, upholds.clock _ loop.world, loop.owners, loop.asked, loop.sent⟩, nobody⟩
  | serve site now alarm => exact ⟨loop.served upholds now alarm, nobody⟩
  | silence =>
    exact ⟨⟨loop.filed, loop.world, loop.owners, List.forall_mem_nil _, loop.sent⟩, loop.asked⟩
  | rest => exact ⟨loop, nobody⟩

end Site

end EventLoop
