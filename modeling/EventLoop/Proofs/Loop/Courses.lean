import EventLoop.Proofs.Loop.Registrations
import EventLoop.Proofs.Loop.Strangers

/-! Courses are the runs in which objects are handed over as they should be: absent,
and each with a source of its own, for an object owns what it is watched through and
shares it with nobody. Nothing is said about how objects behave otherwise, which calls
of theirs fail, what a poll finds, or what others order. On such a course table, poller
and marks of listeners agree wherever the loop's thread has come to; the invariant also
speaks of the objects that still wait to be added, which keep their sources to
themselves until their turn has come. -/
namespace EventLoop

variable {B C W : Type}

/-! ## Courses -/

namespace Site

/-- The objects that wait to be added: what was asked for in the turn, what the thread
has yet to come to of that, and what is in the inbox. -/
def waiting (site : Site B C W) : List (Event B) :=
  Loop.eventsIn (site.ahead ++ site.loop.inbox)

/-- Objects that may be handed over: absent, and with sources that neither an owner
has nor anybody who waits nor another of them. -/
structure Newcomers (site : Site B C W) (fresh : List (Event B)) : Prop where
  absent : ∀ event ∈ fresh, event.standing = .absent
  unseated : ∀ event ∈ fresh, site.loop.Unseated event.source
  unheld : ∀ event ∈ fresh, ∀ other ∈ site.waiting, event.source ≠ other.source
  distinct : (fresh.map Event.source).Nodup

/-- Who waits from now on waited before or is a newcomer. -/
def HandsOver (site : Site B C W) (events : List (Event B)) : Prop :=
  ∃ kept fresh, kept.Sublist site.waiting ∧ site.Newcomers fresh ∧ events.Perm (kept ++ fresh)

/-- A run of a loop among others, in which objects are handed over as they should be, be
it in answer to a notification, with an order or by a direct call. Between any two steps
of its thread somebody may send it an order, the world may change, and things may happen
at the sources; between two turns whoever holds the loop may add, re-arm or remove
directly, which does what the change of that name does. -/
inductive Course (conduct : Conduct B C W) (start : Site B C W) : Site B C W → Prop where
  | start : Course conduct start start
  | step {site next : Site B C W} {deeds : List Deed} (course : Course conduct start site)
      (step : Step conduct site deeds next) (handed : site.HandsOver next.waiting) :
      Course conduct start next
  | order {site : Site B C W} (course : Course conduct start site) (order : Order B C)
      (handed : site.HandsOver
        (waiting { site with loop := site.loop.carryOut conduct order })) :
      Course conduct start { site with loop := site.loop.carryOut conduct order }
  | call {loop : Loop B C W} (course : Course conduct start ⟨loop, .resting⟩)
      (change : Change B C)
      (handed : HandsOver ⟨loop, .resting⟩
        (Loop.eventsIn [change] ++ waiting ⟨loop, .resting⟩)) :
      Course conduct start ⟨loop.apply conduct change, .resting⟩
  | elsewhere {site : Site B C W} (course : Course conduct start site) (world : W)
      (queue : List Mark) :
      Course conduct start
        { site with loop := { site.loop with
            world
            selector := { site.loop.selector with
              poller := { site.loop.selector.poller with queue } } } }

/-- Nobody new has to be handed over for some of those to wait on who waited before. -/
theorem HandsOver.of_sublist {site : Site B C W} {events : List (Event B)}
    (fewer : events.Sublist site.waiting) : site.HandsOver events := by
  have nobody : site.Newcomers [] :=
    ⟨List.forall_mem_nil _, List.forall_mem_nil _, List.forall_mem_nil _, List.nodup_nil⟩
  refine ⟨events, [], fewer, nobody, ?_⟩
  rw [List.append_nil]

/-- Steps are part of a course if whatever they could come to hands over as it should. -/
theorem Course.steps {conduct : Conduct B C W} {start early late : Site B C W}
    {deeds : List Deed} (course : Course conduct start early)
    (steps : Steps conduct early deeds late)
    (handed : ∀ before more middle next, Steps conduct early before middle →
      Step conduct middle more next → middle.HandsOver next.waiting) :
    Course conduct start late := by
  induction steps with
  | here => exact course
  | step first steps ih =>
    refine ih (course.step first (handed _ _ _ _ (.here _) first)) ?_
    intro before more middle next reached
    exact handed _ more middle next (.step first reached)

/-- Whole turns are parts of courses. -/
theorem Course.turn {conduct : Conduct B C W} {start : Site B C W} {loop : Loop B C W}
    (course : Course conduct start ⟨loop, .resting⟩)
    (handed : ∀ before more middle next, Steps conduct ⟨loop, .resting⟩ before middle →
      Step conduct middle more next → middle.HandsOver next.waiting) :
    Course conduct start ⟨(loop.turn conduct).2, .resting⟩ := by
  obtain ⟨deeds, steps⟩ := turn_steps conduct loop
  exact course.steps steps handed

end Site

namespace Loop

/-- Objects that can be added one after the other. -/
structure Awaited (loop : Loop B C W) (events : List (Event B)) : Prop where
  absent : ∀ event ∈ events, event.standing = .absent
  unseated : ∀ event ∈ events, loop.Unseated event.source
  distinct : (events.map Event.source).Nodup

variable {early late loop : Loop B C W} {events : List (Event B)}

private theorem Awaited.perm {others : List (Event B)} (awaited : loop.Awaited events)
    (perm : events.Perm others) : loop.Awaited others := by
  refine ⟨?_, ?_, ?_⟩
  · intro event inside
    exact awaited.absent event (perm.mem_iff.2 inside)
  · intro event inside
    exact awaited.unseated event (perm.mem_iff.2 inside)
  · exact (perm.map Event.source).nodup_iff.1 awaited.distinct

private theorem Awaited.still (awaited : early.Awaited events) (still : Still early late) :
    late.Awaited events := by
  refine ⟨awaited.absent, ?_, awaited.distinct⟩
  intro event inside handle
  rw [still.seat?]
  exact awaited.unseated event inside handle

/-- Whoever is handed over as it should be can be added after those who wait. -/
theorem Awaited.handed {site : Site B C W} (awaited : site.loop.Awaited site.waiting)
    (handed : site.HandsOver events) : site.loop.Awaited events := by
  obtain ⟨kept, fresh, stayed, newcomers, perm⟩ := handed
  refine Awaited.perm ⟨?_, ?_, ?_⟩ perm.symm
  · intro event inside
    rcases List.mem_append.1 inside with old | new
    · exact awaited.absent event (stayed.mem old)
    · exact newcomers.absent event new
  · intro event inside
    rcases List.mem_append.1 inside with old | new
    · exact awaited.unseated event (stayed.mem old)
    · exact newcomers.unseated event new
  · rw [List.map_append, List.nodup_append]
    refine ⟨awaited.distinct.sublist (stayed.map _), newcomers.distinct, ?_⟩
    intro source old other new same
    obtain ⟨event, inside, rfl⟩ := List.mem_map.1 old
    obtain ⟨newcomer, fresh, rfl⟩ := List.mem_map.1 new
    exact newcomers.unheld newcomer fresh event (stayed.mem inside) same.symm

theorem unseated_of_entries {source : Source}
    (apart : ∀ entry ∈ loop.table.entries, entry.2.source ≠ source) : loop.Unseated source := by
  intro handle seated
  obtain ⟨owner, found, rfl⟩ := Option.map_eq_some_iff.1 seated
  obtain ⟨entry, stands, rfl⟩ := Option.map_eq_some_iff.1 found
  exact apart entry (List.mem_of_find?_eq_some stands) rfl

variable (conduct : Conduct B C W)

/-- Applying a change leaves the rest where they can be added. -/
theorem Awaited.apply {change : Change B C} (filed : loop.Filed)
    (awaited : loop.Awaited (eventsIn [change] ++ events)) :
    (loop.apply conduct change).Awaited events := by
  refine ⟨?_, ?_, ?_⟩
  · intro event inside
    exact awaited.absent event (List.mem_append_right _ inside)
  · intro event inside handle seated
    rcases apply_seat conduct filed change seated with before | ⟨_, brought, _⟩
    · exact awaited.unseated event (List.mem_append_right _ inside) handle before
    · cases change with
      | add newcomer mask =>
        have distinct := awaited.distinct
        rw [List.map_append, List.nodup_append] at distinct
        exact distinct.2.2 newcomer.source List.mem_cons_self event.source
          (List.mem_map_of_mem inside) (Option.some.inj brought)
      | rearm target mask => cases brought
      | remove target => cases brought
      | schedule target delay => cases brought
      | timer callback interval delayed repeats => cases brought
  · have distinct := awaited.distinct
    rw [List.map_append, List.nodup_append] at distinct
    exact distinct.2.1

/-! ## Notifications and orders -/

theorem carryOut_still (alive : loop.alive = true) (order : Order B C) :
    Still loop (loop.carryOut conduct order) ∧ (loop.carryOut conduct order).alive = true := by
  have woken (late : Loop B C W) (source : Source) :
      late.wake.watching? source = late.watching? source :=
    congrArg (Keyed.get? · source) (Poller.watched_enqueue .waker late.selector.poller)
  cases order with
  | stop => exact ⟨⟨fun _ => rfl, woken _, rfl⟩, alive⟩
  | wake => exact ⟨⟨fun _ => rfl, woken _, rfl⟩, alive⟩
  | change change =>
    simp only [carryOut, submit, alive, ↓reduceIte]
    exact ⟨⟨fun _ => rfl, woken _, rfl⟩, rfl⟩

private theorem carryOutAll_still (alive : loop.alive = true) (orders : List (Order B C)) :
    Still loop (orders.foldl (carryOut conduct) loop) ∧
      (orders.foldl (carryOut conduct) loop).alive = true := by
  induction orders generalizing loop with
  | nil => exact ⟨⟨fun _ => rfl, fun _ => rfl, rfl⟩, alive⟩
  | cons order orders ih =>
    obtain ⟨still, lives⟩ := carryOut_still conduct alive order
    obtain ⟨later, livesLater⟩ := ih lives
    exact ⟨still.trans later, livesLater⟩

private theorem notify_still (alive : loop.alive = true) (notice : Notice) (handle : Handle) :
    Still loop (loop.notify conduct notice handle) ∧
      (loop.notify conduct notice handle).alive = true := by
  cases found : loop.lookup handle with
  | none =>
    rw [notify_missing conduct notice found]
    exact ⟨⟨fun _ => rfl, fun _ => rfl, rfl⟩, alive⟩
  | some event =>
    rw [notify_eq conduct notice found]
    unfold takeUp
    generalize conduct.notify notice event loop.outlook loop.world = reaction
    have reacted : Still loop { loop with
        table := loop.table.insert handle { event with body := reaction.body }
        changes := reaction.requests.foldl Changes.request loop.changes
        world := reaction.world } :=
      ⟨bare?_insert found reaction.body, fun _ => rfl, rfl⟩
    have lives : ({ loop with
        table := loop.table.insert handle { event with body := reaction.body }
        changes := reaction.requests.foldl Changes.request loop.changes
        world := reaction.world } : Loop B C W).alive = true := alive
    obtain ⟨ordered, livesOn⟩ := carryOutAll_still conduct lives reaction.orders
    exact ⟨reacted.trans ordered, livesOn⟩

private theorem serve_still (alive : loop.alive = true) (now : Nat) (alarm : Alarm C) :
    Still loop (loop.serve conduct now alarm) ∧ (loop.serve conduct now alarm).alive = true := by
  cases alarm with
  | event handle generation =>
    simp only [serve]
    split
    · exact notify_still conduct alive .timer handle
    · exact ⟨⟨fun _ => rfl, fun _ => rfl, rfl⟩, alive⟩
  | callback callback interval remaining =>
    have fired : Still loop { loop with
        world := (conduct.fire callback loop.outlook loop.world).world } :=
      ⟨fun _ => rfl, fun _ => rfl, rfl⟩
    have lives : ({ loop with
        world := (conduct.fire callback loop.outlook loop.world).world } : Loop B C W).alive =
          true := alive
    obtain ⟨ordered, livesOn⟩ := carryOutAll_still conduct lives
      (conduct.fire callback loop.outlook loop.world).orders
    simp only [serve]
    split
    · exact ⟨(fired.trans ordered).trans ⟨fun _ => rfl, fun _ => rfl, rfl⟩, livesOn⟩
    · exact ⟨fired.trans ordered, livesOn⟩

end Loop

/-! ## What every course keeps -/

namespace Site

/-- A loop in order, with objects waiting that can be added. -/
structure InOrder (site : Site B C W) : Prop where
  alive : site.loop.alive = true
  coherent : site.loop.Coherent
  awaited : site.loop.Awaited site.waiting

variable {conduct : Conduct B C W} {start site next : Site B C W}

private theorem InOrder.still (order : site.InOrder) (handed : site.HandsOver next.waiting)
    (still : Loop.Still site.loop next.loop ∧ next.loop.alive = true) : next.InOrder :=
  ⟨still.2, still.1.coherent order.coherent, (order.awaited.handed handed).still still.1⟩

/-- A change that stood among those to be applied has been applied. -/
theorem InOrder.applied {loop : Loop B C W} {change : Change B C}
    {before after : List (Change B C)} {stage : Stage B C} (alive : loop.alive = true)
    (coherent : loop.Coherent)
    (awaited : loop.Awaited (Loop.eventsIn (before ++ change :: after)))
    (left : waiting ⟨loop.apply conduct change, stage⟩ = Loop.eventsIn (before ++ after)) :
    InOrder ⟨loop.apply conduct change, stage⟩ := by
  have perm : (Loop.eventsIn (before ++ change :: after)).Perm
      (Loop.eventsIn [change] ++ Loop.eventsIn (before ++ after)) := by
    unfold Loop.eventsIn
    rw [← List.filterMap_append]
    exact List.perm_middle.filterMap _
  have awaitedFirst := awaited.perm perm
  refine ⟨(loop.apply_keeps conduct change).2.2.trans alive, ?_, ?_⟩
  · refine Loop.apply_coherent conduct coherent change ?_
    intro event inside
    have listed := List.mem_append_left (Loop.eventsIn (before ++ after)) inside
    exact ⟨awaitedFirst.absent event listed, awaitedFirst.unseated event listed⟩
  · rw [left]
    exact awaitedFirst.apply conduct coherent.filed

/-- The change that a thread is about to apply, if it is about to apply one. -/
def due? (site : Site B C W) : Option (Change B C) :=
  match site.stage with
  | .draining => site.loop.inbox.head?
  | .applying pending _ => pending.head?
  | _ => none

/-- A change that is due is applied next, be it from the inbox or from what was asked for. -/
theorem Step.applies {deeds : List Deed} {change : Change B C}
    (step : Step conduct site deeds next) (due : site.due? = some change) :
    (∃ rest, site.stage = .draining ∧ site.loop.inbox = change :: rest ∧
      next = ⟨{ site.loop with inbox := rest }.apply conduct change, .draining⟩) ∨
    (∃ pending second, site.stage = .applying (change :: pending) second ∧
      next = ⟨site.loop.apply conduct change, .applying pending second⟩) := by
  cases step with
  | @take loop first rest inbox =>
    simp only [due?, inbox, List.head?_cons, Option.some.injEq] at due
    subst due
    exact .inl ⟨rest, rfl, inbox, rfl⟩
  | apply loop first pending second =>
    simp only [due?, List.head?_cons, Option.some.injEq] at due
    subst due
    exact .inr ⟨pending, second, rfl, rfl⟩
  | poll inbox => simp [due?, inbox] at due
  | pollFails inbox => simp [due?, inbox] at due
  | _ => cases due

/-- Where no change is due, the same stand, are watched and are marked as before. -/
theorem Step.rests {deeds : List Deed} (step : Step conduct site deeds next)
    (alive : site.loop.alive = true) (idle : site.due? = none) :
    Loop.Still site.loop next.loop ∧ next.loop.alive = true := by
  have unmoved (loop : Loop B C W) : Loop.Still loop loop := ⟨fun _ => rfl, fun _ => rfl, rfl⟩
  cases step with
  | begin loop => exact ⟨unmoved loop, alive⟩
  | take inbox => simp [due?, inbox] at idle
  | poll => exact ⟨⟨fun _ => rfl, fun _ => rfl, rfl⟩, alive⟩
  | pollFails => exact ⟨⟨fun _ => rfl, fun _ => rfl, rfl⟩, alive⟩
  | @pass loop entry =>
    unfold Loop.passOver
    split
    · exact ⟨unmoved loop, alive⟩
    · split
      · exact ⟨⟨fun _ => rfl, fun _ => rfl, rfl⟩, alive⟩
      · exact ⟨unmoved loop, alive⟩
  | hear => exact Loop.notify_still conduct alive _ _
  | hearNothing => exact ⟨unmoved _, alive⟩
  | answer => exact Loop.notify_still conduct alive _ _
  | answerNothing => exact ⟨unmoved _, alive⟩
  | handOver => exact ⟨⟨fun _ => rfl, fun _ => rfl, rfl⟩, alive⟩
  | apply => cases idle
  | ring => exact ⟨⟨fun _ => rfl, fun _ => rfl, rfl⟩, alive⟩
  | serve loop now alarm => exact Loop.serve_still conduct alive now alarm
  | silence => exact ⟨⟨fun _ => rfl, fun _ => rfl, rfl⟩, alive⟩
  | rest loop => exact ⟨unmoved loop, alive⟩

/-- **Every step keeps order.** -/
theorem Step.keeps_order {deeds : List Deed} (step : Step conduct site deeds next)
    (order : site.InOrder) (handed : site.HandsOver next.waiting) : next.InOrder := by
  cases due : site.due? with
  | none => exact order.still handed (step.rests order.alive due)
  | some change =>
    have listed := order.awaited
    obtain ⟨rest, stage, inbox, rfl⟩ | ⟨pending, second, stage, rfl⟩ := step.applies due
    · have taken : Loop.Still site.loop { site.loop with inbox := rest } :=
        ⟨fun _ => rfl, fun _ => rfl, rfl⟩
      simp only [waiting, ahead, stage, Stage.ahead, inbox] at listed
      obtain ⟨left, kept, _⟩ := { site.loop with inbox := rest }.apply_keeps conduct change
      refine InOrder.applied order.alive (taken.coherent order.coherent) (listed.still taken) ?_
      simp only [waiting, ahead, Stage.ahead, left, kept]
    · simp only [waiting, ahead, stage, Stage.ahead, List.append_assoc, List.cons_append] at listed
      obtain ⟨left, kept, _⟩ := site.loop.apply_keeps conduct change
      refine InOrder.applied order.alive order.coherent listed ?_
      simp only [waiting, ahead, Stage.ahead, left, kept, List.append_assoc]

/-- A thread that takes a step leaves its loop there. -/
theorem Step.lives {deeds : List Deed} (step : Step conduct site deeds next)
    (alive : site.loop.alive = true) : next.loop.alive = true := by
  cases due : site.due? with
  | none => exact (step.rests alive due).2
  | some change =>
    obtain ⟨rest, _, _, rfl⟩ | ⟨pending, second, _, rfl⟩ := step.applies due
    · exact (Loop.apply_keeps conduct _ _).2.2.trans alive
    · exact (Loop.apply_keeps conduct _ _).2.2.trans alive

/-- A direct call is a change that nobody had to wait for. -/
theorem InOrder.called {loop : Loop B C W} (order : InOrder ⟨loop, .resting⟩)
    (change : Change B C) (handed : HandsOver ⟨loop, .resting⟩
      (Loop.eventsIn [change] ++ waiting ⟨loop, .resting⟩)) :
    InOrder ⟨loop.apply conduct change, .resting⟩ := by
  have listed := order.awaited.handed handed
  obtain ⟨left, kept, _⟩ := loop.apply_keeps conduct change
  have joined : Loop.eventsIn ([] ++ change :: (loop.changes.pending ++ [] ++ loop.inbox)) =
      Loop.eventsIn [change] ++ waiting ⟨loop, .resting⟩ := by
    unfold waiting Loop.eventsIn
    rw [← List.filterMap_append]
    rfl
  refine InOrder.applied order.alive order.coherent (joined ▸ listed) ?_
  simp only [waiting, ahead, Stage.ahead, left, kept, List.nil_append]

theorem Course.in_order (course : Course conduct start site) (order : start.InOrder) :
    site.InOrder := by
  induction course with
  | start => exact order
  | step course step handed ih => exact step.keeps_order ih handed
  | order course order handed ih =>
    exact ih.still handed (Loop.carryOut_still conduct ih.alive order)
  | call course change handed ih => exact ih.called change handed
  | @elsewhere site course world queue ih =>
    have still : Loop.Still site.loop { site.loop with
        world
        selector := { site.loop.selector with
          poller := { site.loop.selector.poller with queue } } } :=
      ⟨fun _ => rfl, fun _ => rfl, rfl⟩
    exact ⟨ih.alive, still.coherent ih.coherent, ih.awaited.still still⟩

/-- A loop that has just been made. -/
structure Unused (site : Site B C W) : Prop where
  resting : site.stage = .resting
  alive : site.loop.alive = true
  table : site.loop.table = {}
  watched : site.loop.selector.poller.watched = {}
  listeners : site.loop.selector.listeners = []
  changes : site.loop.changes = {}
  inbox : site.loop.inbox = []

theorem Unused.free (unused : start.Unused) (handle : Handle) :
    start.loop.lookup handle = none := by
  rw [Loop.lookup, unused.table]
  rfl

theorem Unused.nobody_waits (unused : start.Unused) : start.waiting = [] := by
  rw [waiting, ahead, unused.resting, unused.changes, unused.inbox]
  rfl

theorem Unused.in_order (unused : start.Unused) : start.InOrder := by
  refine ⟨unused.alive, ⟨?_, ?_, ?_, ?_⟩, ?_⟩
  · intro handle owner found
    cases (unused.free handle).symm.trans found
  · intro handle _
    rw [Selector.isListener, unused.listeners]
    rfl
  · intro source watched
    refine absurd ?_ watched
    rw [Loop.watching?, unused.watched]
    rfl
  · intro handle other source seated
    rw [Loop.seat?, unused.free] at seated
    cases seated
  · rw [unused.nobody_waits]
    exact ⟨List.forall_mem_nil _, List.forall_mem_nil _, List.nodup_nil⟩

end Site

/-- **Table, poller and marks agree.** On every course of a loop, wherever its thread has come
to: whoever stands in the table stands under its own handle, and is not in the middle of a
re-arming; the handles that the poller watches a source for are those of added owners, and what
is watched is that owner's source, under the token of its handle, which leads back to the handle
and is not the waker's; and a handle that is marked as listening has an added owner. -/
theorem registrations_match_owners (conduct : Conduct B C W) {start site : Site B C W}
    (unused : start.Unused) (course : Site.Course conduct start site) :
    (∀ handle owner, site.loop.lookup handle = some owner →
      owner.handle = handle ∧ owner.standing ≠ .rearming) ∧
    (∀ handle,
      (∃ source token wanted,
        site.loop.watching? source = some (token, wanted) ∧ token.handle = handle) ↔
      ∃ owner, site.loop.lookup handle = some owner ∧ owner.standing = .added) ∧
    (∀ source token wanted, site.loop.watching? source = some (token, wanted) →
      token ≠ wakerToken ∧ token = token.handle.token ∧
      ∃ owner, site.loop.lookup token.handle = some owner ∧ owner.standing = .added ∧
        owner.source = source) ∧
    (∀ handle owner, site.loop.lookup handle = some owner → owner.standing = .added →
      handle.token.handle = handle ∧ handle.token ≠ wakerToken ∧
      ∃ wanted, site.loop.watching? owner.source = some (handle.token, wanted)) ∧
    (∀ handle, site.loop.selector.isListener handle = true →
      ∃ owner, site.loop.lookup handle = some owner ∧ owner.standing = .added) := by
  have coherent := (course.in_order unused.in_order).coherent
  refine ⟨?_, ?_, ?_, ?_, ?_⟩
  · intro handle owner found
    cases coherent.placed handle owner found with
    | absent own standing => exact ⟨own, fun rearming => by cases standing.symm.trans rearming⟩
    | added own standing => exact ⟨own, fun rearming => by cases standing.symm.trans rearming⟩
  · intro handle
    constructor
    · rintro ⟨source, token, wanted, watched, rfl⟩
      obtain ⟨handle, owner, found, added, _, _, rfl⟩ := coherent.owner_of_watched watched
      rw [token_handle]
      exact ⟨owner, found, added⟩
    · rintro ⟨owner, found, added⟩
      obtain ⟨_, wanted, watched⟩ := coherent.watched_of_added found added
      exact ⟨owner.source, handle.token, wanted, watched, token_handle handle⟩
  · intro source token wanted watched
    obtain ⟨handle, owner, found, added, own, allowed, rfl⟩ := coherent.owner_of_watched watched
    rw [token_handle]
    exact ⟨token_ne_waker allowed, rfl, owner, found, added, own⟩
  · intro handle owner found added
    obtain ⟨allowed, wanted, watched⟩ := coherent.watched_of_added found added
    exact ⟨token_handle handle, token_ne_waker allowed, wanted, watched⟩
  · intro handle marked
    cases found : site.loop.lookup handle with
    | none => rw [coherent.unmarked handle found] at marked; cases marked
    | some owner =>
      cases coherent.placed handle owner found with
      | absent own standing unwatched unmarked => rw [unmarked] at marked; cases marked
      | added own standing => exact ⟨owner, rfl, standing⟩

/-- A listener removes itself when a connection comes and leaves its handle to another object,
which reads. The mark of the listener is gone with it. -/
theorem listener_gives_way :
    let conduct : Conduct Unit Empty Unit :=
      { call := fun _ _ world => (none, world)
        notify := fun _ _ _ world =>
          ⟨(), world, [.remove 3, .add { handle := 3, source := 8, body := () } .readable], []⟩
        fire := fun callback => nomatch callback
        level := fun _ _ => {}
        clock := fun world => (0, world)
        wait := fun _ _ world => world
        unresolved := fun _ world => world
        destroy := fun _ world => world }
    let start : Site Unit Empty Unit := ⟨{ world := () }, .resting⟩
    start.Unused ∧ ∃ site, Site.Course conduct start site ∧
      (site.loop.lookup 3).map Event.source = some 8 ∧
      site.loop.selector.isListener 3 = false ∧
      (∃ source token wanted,
        site.loop.watching? source = some (token, wanted) ∧ token.handle = 3) := by
  intro conduct start
  have unused : start.Unused := ⟨rfl, rfl, rfl, rfl, rfl, rfl, rfl⟩
  have newcomer (site : Site Unit Empty Unit) (event : Event Unit)
      (nobody : site.waiting = []) (absent : event.standing = .absent)
      (apart : ∀ entry ∈ site.loop.table.entries, entry.2.source ≠ event.source) :
      site.HandsOver [event] := by
    refine ⟨[], [event], List.nil_sublist _, ⟨?_, ?_, ?_, ?_⟩, .refl _⟩
    · simpa using absent
    · simpa using Loop.unseated_of_entries apart
    · simp [nobody]
    · simp
  have listening : Site.Course conduct start _ :=
    .call .start (.add { handle := 3, source := 7, body := () } .accept)
      (newcomer start _ rfl rfl (by decide))
  have delivering : Site.Course conduct start _ :=
    (listening.step (.begin _) (.of_sublist (.refl _))).step
      (.poll rfl false none [⟨3, ⟨true, false⟩⟩] []) (.of_sublist (.refl _))
  have heard : Site.Course conduct start _ :=
    delivering.step (.hear [] rfl rfl)
      (newcomer _ { handle := 3, source := 8, body := () } rfl rfl (by decide))
  have applying : Site.Course conduct start _ :=
    (heard.step (.answerNothing [] (.inl rfl)) (.of_sublist (.refl _))).step (.handOver _)
      (.of_sublist (.refl _))
  have replaced : Site.Course conduct start _ :=
    (applying.step (.apply _ _ _ _) (.of_sublist (.refl _))).step (.apply _ _ _ _)
      (.of_sublist (List.nil_sublist _))
  obtain ⟨_, registered, _⟩ := registrations_match_owners conduct unused replaced
  exact ⟨unused, _, replaced, by decide, by decide, (registered 3).2 ⟨_, rfl, rfl⟩⟩

end EventLoop
