import EventLoop.Proofs.Loop.Changes

/-! Where objects go. An object that a change brings is in the table afterwards or has ended,
and so is every object that was there before; nothing is lost and nothing is doubled. Objects
are counted as they are but for their standing, which registration may change. The world moves
with each end, so whatever is to be said about ends is said of a list of them. -/
namespace EventLoop

open scoped List

variable {B C W : Type}

/-- An object as it is but for its standing. -/
def Event.idle (event : Event B) : Event B := { event with standing := .absent }

/-- How a world may move under the calls of objects and under the clock, and under the ends
that are listed. -/
structure Conduct.Reckons (conduct : Conduct B C W) (moves : W → List (Event B) → W → Prop) :
    Prop where
  still : ∀ world, moves world [] world
  trans : ∀ {early middle late ended more}, moves early ended middle → moves middle more late →
    moves early (ended ++ more) late
  call : ∀ call event world, moves world [] (conduct.call call event world).2
  destroy : ∀ event world, moves world [event] (conduct.destroy event world)
  clock : ∀ world, moves world [] (conduct.clock world).2

/-! ## Calls -/

/-- A registration leaves the world as it is, or calls the source once. -/
theorem Selector.register_calls {conduct : Conduct B C W} {moves : W → List (Event B) → W → Prop}
    (reckons : conduct.Reckons moves) (mask : Interest) (event : Event B) (world : W)
    (selector : Selector) :
    moves world [] (selector.register conduct mask event world).world := by
  have admission := register_admission conduct mask event world selector
  generalize selector.register conduct mask event world = registered at admission ⊢
  cases admission with
  | unfit unfit => exact reckons.still world
  | @refused call acting cause late fit called =>
    have moved := reckons.call call acting world
    rwa [called] at moved
  | @done call acting late fit called =>
    have moved := reckons.call call acting world
    rwa [called] at moved

private theorem Selector.register_idle (conduct : Conduct B C W) (mask : Interest) (event : Event B)
    (world : W) (selector : Selector) :
    (selector.register conduct mask event world).event.idle = event.idle := by
  have outcome := register_outcome conduct mask event world selector
  generalize selector.register conduct mask event world = registered at outcome ⊢
  cases outcome <;> rfl

private theorem Selector.unregister_calls {conduct : Conduct B C W}
    {moves : W → List (Event B) → W → Prop} (reckons : conduct.Reckons moves) (event : Event B)
    (world : W) (selector : Selector) :
    moves world [] (selector.unregister conduct event world).2.2 := by
  have dismissal := unregister_dismissal conduct event world selector
  generalize selector.unregister conduct event world = gone at dismissal ⊢
  cases dismissal with
  | idle standing => exact reckons.still world
  | @asked refusal late added called =>
    have moved := reckons.call .deregister { event with standing := .absent } world
    rwa [called] at moved

private theorem Selector.unregister_idle (conduct : Conduct B C W) (event : Event B) (world : W)
    (selector : Selector) : (selector.unregister conduct event world).1.idle = event.idle := by
  have dismissal := unregister_dismissal conduct event world selector
  generalize selector.unregister conduct event world = gone at dismissal ⊢
  cases dismissal <;> rfl

namespace Loop

/-! ## Single operations -/

/-- Whoever was there or was brought is there still, or has ended. -/
structure Conserves (conduct : Conduct B C W) (early : Loop B C W) (brought ended : List (Event B))
    (late : Loop B C W) : Prop where
  objects : (late.table.values ++ ended).map Event.idle ~
    (early.table.values ++ brought).map Event.idle
  world : ∀ moves, conduct.Reckons moves → moves early.world ended late.world

variable {conduct : Conduct B C W} {early middle late loop : Loop B C W}
  {brought more ended lost : List (Event B)} {event owner : Event B} {handle : Handle}

/-- Only who stands in the table counts, and how the world has moved. -/
theorem Conserves.of_same (table : late.table = early.table)
    (world : ∀ moves, conduct.Reckons moves → moves early.world [] late.world) :
    Conserves conduct early [] [] late :=
  ⟨by rw [table], world⟩

private theorem Conserves.refl (conduct : Conduct B C W) (loop : Loop B C W) :
    Conserves conduct loop [] [] loop :=
  .of_same rfl fun _ reckons => reckons.still _

private theorem Conserves.trans (first : Conserves conduct early brought ended middle)
    (second : Conserves conduct middle more lost late) :
    Conserves conduct early (brought ++ more) (ended ++ lost) late := by
  refine ⟨?_, fun moves reckons =>
    reckons.trans (first.world moves reckons) (second.world moves reckons)⟩
  have before := first.objects
  have after := second.objects
  simp only [List.map_append] at before after ⊢
  generalize late.table.values.map Event.idle = last at after ⊢
  generalize middle.table.values.map Event.idle = between at before after
  generalize early.table.values.map Event.idle = initial at before ⊢
  calc last ++ (ended.map Event.idle ++ lost.map Event.idle)
      _ ~ last ++ (lost.map Event.idle ++ ended.map Event.idle) :=
        .append_left _ List.perm_append_comm
      _ ~ between ++ more.map Event.idle ++ ended.map Event.idle := by
        rw [← List.append_assoc]
        exact after.append_right _
      _ ~ between ++ (ended.map Event.idle ++ more.map Event.idle) := by
        rw [List.append_assoc]
        exact .append_left _ List.perm_append_comm
      _ ~ initial ++ (brought.map Event.idle ++ more.map Event.idle) := by
        rw [← List.append_assoc, ← List.append_assoc]
        exact before.append_right _

/-- Whoever owns a handle afterwards was there before or was brought, but for its standing. -/
theorem Conserves.came (conserves : Conserves conduct early brought ended late)
    (filed : early.Filed) (filedLate : late.Filed) (found : late.lookup handle = some event) :
    ∃ owner, owner.idle = event.idle ∧ (early.lookup handle = some owner ∨ owner ∈ brought) := by
  have inside : event ∈ late.table.values ++ ended :=
    List.mem_append_left _ (Keyed.mem_values_of_get? found)
  obtain ⟨owner, came, same⟩ :=
    List.mem_map.1 (conserves.objects.mem_iff.1 (List.mem_map_of_mem inside))
  refine ⟨owner, same, (List.mem_append.1 came).imp_left fun there => ?_⟩
  obtain ⟨⟨other, _⟩, entry, rfl⟩ := List.mem_map.1 there
  have stood : early.lookup other = some _ := (Keyed.get?_eq_some_iff _ _ _).2 entry
  have own : event.handle = handle := filedLate _ _ found
  have handles : other = handle :=
    (filed _ _ stood).symm.trans ((congrArg Event.handle same).trans own)
  rw [← handles]
  exact stood

private theorem schedule_conserves (delay : Nat) (alarm : Alarm C) :
    Conserves conduct loop [] [] (loop.schedule conduct delay alarm) :=
  .of_same rfl fun _ reckons => reckons.clock _

/-- Who comes and is destroyed at once has not been there. -/
theorem destroy_conserves (event : Event B) :
    Conserves conduct loop [event] [event] (loop.destroy conduct event) :=
  ⟨.refl _, fun _ reckons => reckons.destroy event loop.world⟩

/-- An object is put in the place of one that is the same but for its standing. -/
theorem values_replace {table : Keyed Handle (Event B)} {other : Event B}
    (found : table.get? handle = some owner) (same : other.idle = owner.idle) :
    (table.insert handle other).values.map Event.idle ~ table.values.map Event.idle := by
  have stored := (table.values_insert_perm handle other).map Event.idle
  have stood := (Keyed.values_perm_erase found).map Event.idle
  rw [List.map_cons, same] at stored
  exact stored.trans stood.symm

private theorem registerOwned_conserves (found : loop.lookup event.handle = some event)
    (mask : Interest) : Conserves conduct loop [] [] (loop.registerOwned conduct event mask).2 := by
  refine ⟨?_, fun moves reckons => Selector.register_calls reckons mask event _ _⟩
  rw [List.append_nil, List.append_nil]
  exact values_replace found (Selector.register_idle conduct mask event _ _)

private theorem settle_conserves (found : loop.lookup event.handle = some event) (mask : Interest) :
    Conserves conduct loop [] [] (loop.settle conduct event mask).2 :=
  settle_induction conduct (fun _ => .refl conduct loop) (fun _ => registerOwned_conserves found _)
    fun _ registered => registered.trans (schedule_conserves _ _)

/-- An object takes a handle that is free. -/
theorem enter_conserves (conduct : Conduct B C W) (free : loop.lookup event.handle = none) :
    Conserves conduct loop [event] [] (loop.enter event) := by
  refine ⟨?_, fun moves reckons => reckons.still _⟩
  have stored := loop.table.values_insert_perm event.handle event
  have kept : (loop.table.erase event.handle).values = loop.table.values :=
    congrArg (List.map Prod.snd) (Keyed.erase_of_missing free)
  rw [kept] at stored
  rw [List.append_nil]
  exact (stored.trans (List.perm_append_singleton _ _).symm).map Event.idle

/-- Whoever owns a handle, as it is but for its standing, leaves the table and ends. -/
theorem end_conserves {late : Loop B C W} (found : loop.lookup handle = some owner)
    (same : event.idle = owner.idle) (table : late.table = loop.table.erase handle)
    (world : ∀ moves, conduct.Reckons moves → moves loop.world [] late.world) :
    Conserves conduct loop [] [event] (late.destroy conduct event) := by
  refine ⟨?_, fun moves reckons => reckons.trans (world moves reckons)
    (reckons.destroy event late.world)⟩
  have stood := (Keyed.values_perm_erase found).map Event.idle
  have gone : (late.destroy conduct event).table = loop.table.erase handle := table
  rw [gone, List.append_nil, List.map_append, List.map_cons, List.map_nil, same]
  exact (List.perm_append_singleton _ _).trans stood.symm

private theorem addEvent_conserves (filed : loop.Filed) (event : Event B) (mask : Interest) :
    ∃ ended, Conserves conduct loop [event] ended (loop.addEvent conduct event mask).2 := by
  have reception := addEvent_reception conduct loop event mask
  generalize loop.addEvent conduct event mask = reached at reception ⊢
  cases reception with
  | pointless empty => exact ⟨_, destroy_conserves event⟩
  | @joined owner wishes found =>
    have owned : loop.lookup owner.handle = some owner := by rw [filed _ _ found]; exact found
    exact ⟨_, (settle_conserves owned mask).trans (destroy_conserves event)⟩
  | kept wishes free done =>
    exact ⟨_, (enter_conserves conduct free).trans
      (settle_conserves (lookup_entered event loop) mask)⟩
  | refused wishes free failed stands =>
    have settled := (enter_conserves conduct free).trans
      (settle_conserves (lookup_entered event loop) mask)
    exact ⟨_, settled.trans (end_conserves stands rfl rfl fun _ reckons => reckons.still _)⟩

private theorem removeEvent_conserves (handle : Handle) :
    ∃ ended, Conserves conduct loop [] ended (loop.removeEvent conduct handle).2 := by
  unfold removeEvent
  cases found : loop.lookup handle with
  | none => exact ⟨_, .refl conduct loop⟩
  | some owner =>
    exact ⟨_, end_conserves found (Selector.unregister_idle conduct owner _ _) rfl
      fun _ reckons => Selector.unregister_calls reckons owner _ _⟩

/-! ## Changes -/

/-- **A change conserves objects**: it brings none but the one it adds. -/
theorem apply_conserves (conduct : Conduct B C W) (filed : loop.Filed) (change : Change B C) :
    ∃ ended, Conserves conduct loop (eventsIn [change]) ended (loop.apply conduct change) := by
  cases change with
  | add event mask => exact addEvent_conserves filed event mask
  | rearm target mask =>
    simp only [apply]
    split
    · unfold rearm
      cases found : loop.lookup target.handle with
      | none => exact ⟨_, .refl conduct loop⟩
      | some owner =>
        have owned : loop.lookup owner.handle = some owner := by rw [filed _ _ found]; exact found
        exact ⟨_, registerOwned_conserves owned mask⟩
    · exact ⟨_, .refl conduct loop⟩
  | remove target =>
    simp only [apply]
    split
    · exact removeEvent_conserves target.handle
    · exact ⟨_, .refl conduct loop⟩
  | schedule target delay =>
    simp only [apply]
    split
    · split
      · exact ⟨_, schedule_conserves _ _⟩
      · exact ⟨_, .refl conduct loop⟩
    · exact ⟨_, .refl conduct loop⟩
  | timer callback interval delayed repeats => exact ⟨_, schedule_conserves _ _⟩

/-! ## The end of a loop -/

private theorem destroyAll_moves {moves : W → List (Event B) → W → Prop}
    (reckons : conduct.Reckons moves) (events : List (Event B)) (loop : Loop B C W) :
    moves loop.world events
      (events.foldl (fun loop event => loop.destroy conduct event) loop).world := by
  induction events generalizing loop with
  | nil => exact reckons.still _
  | cons event events ih =>
    exact reckons.trans (reckons.destroy event loop.world) (ih (loop.destroy conduct event))

/-- A loop that has closed owns nothing and is still to own nothing. -/
theorem close_empty (conduct : Conduct B C W) (loop : Loop B C W) :
    (loop.close conduct).table = {} ∧ (loop.close conduct).changes = {} ∧
      (loop.close conduct).inbox = [] ∧ (loop.close conduct).alive = false := by
  have kept (events : List (Event B)) (loop : Loop B C W) :
      (events.foldl (fun loop event => loop.destroy conduct event) loop).table = loop.table ∧
      (events.foldl (fun loop event => loop.destroy conduct event) loop).changes = loop.changes ∧
      (events.foldl (fun loop event => loop.destroy conduct event) loop).inbox = loop.inbox ∧
      (events.foldl (fun loop event => loop.destroy conduct event) loop).alive = loop.alive := by
    induction events generalizing loop with
    | nil => exact ⟨rfl, rfl, rfl, rfl⟩
    | cons event events ih => exact ih (loop.destroy conduct event)
  exact kept (loop.table.values ++ eventsIn loop.changes.pending ++ eventsIn loop.inbox)
    { selector := loop.selector, stopped := loop.stopped, alive := false, pause := loop.pause,
      world := loop.world }

/-- **A loop that closes ends everything** that it owns or was still to own, each once. -/
theorem close_ends (conduct : Conduct B C W) (loop : Loop B C W)
    {moves : W → List (Event B) → W → Prop} (reckons : conduct.Reckons moves) :
    moves loop.world
      (loop.table.values ++ eventsIn loop.changes.pending ++ eventsIn loop.inbox)
      (loop.close conduct).world :=
  destroyAll_moves reckons _
    { selector := loop.selector, stopped := loop.stopped, alive := false, pause := loop.pause,
      world := loop.world }

end Loop

end EventLoop
