import EventLoop.Proofs.Loop.Ledger
import EventLoop.Proofs.Selector.Admissions

/-! What applying a change leaves alone, and what it does where it works. A change
concerns one handle, and of the poller's sources only those of the objects that
own the handle or come to own it; every other handle keeps its owner and every
other source is watched as before. The world moves only by what the objects
themselves do to it: their calls, their ends, and the clock. -/
namespace EventLoop

variable {B C W : Type}

/-! ## The poller -/

namespace Poller

theorem watched_enqueue (mark : Mark) (poller : Poller) :
    (poller.enqueue mark).watched = poller.watched := by
  unfold enqueue
  split <;> rfl

theorem watched_watch (source : Source) (token : Token) (wanted : Readiness) (level : Level)
    (poller : Poller) :
    (poller.watch source token wanted level).watched =
      poller.watched.insert source (token, wanted) := by
  unfold watch happened
  split
  · rfl
  · split
    · exact watched_enqueue (.source source) _
    · rfl

end Poller

/-! ## Registration -/

/-- How a world may move under the calls and the ends of objects and under the
clock. -/
structure Conduct.Within (conduct : Conduct B C W) (moves : W → W → Prop) : Prop where
  still : ∀ world, moves world world
  trans : ∀ {early middle late}, moves early middle → moves middle late → moves early late
  call : ∀ call event world, moves world (conduct.call call event world).2
  destroy : ∀ event world, moves world (conduct.destroy event world)
  clock : ∀ world, moves world (conduct.clock world).2

/-- How a registration call comes out: refused, with nothing changed but the
world, or done, with the source watched for what was wanted. -/
inductive Selector.Outcome (conduct : Conduct B C W) (mask : Interest) (event : Event B)
    (world : W) (selector : Selector) : Registered B W → Prop where
  | refused (fault : Fault) (late : W)
      (moved : ∀ moves, conduct.Within moves → moves world late) :
      Outcome conduct mask event world selector ⟨.error fault, event, selector, late⟩
  | done (wanted : Readiness) (late : W) (seen : mask.readiness? = some wanted)
      (allowed : ¬ event.handle < 0) (moved : ∀ moves, conduct.Within moves → moves world late) :
      Outcome conduct mask event world selector
        ⟨.ok (), { event with standing := .added },
          selector.watch conduct event mask wanted late, late⟩

theorem Selector.register_outcome (conduct : Conduct B C W) (mask : Interest) (event : Event B)
    (world : W) (selector : Selector) :
    Outcome conduct mask event world selector (selector.register conduct mask event world) := by
  have admission := register_admission conduct mask event world selector
  generalize selector.register conduct mask event world = registered at admission ⊢
  cases admission with
  | unfit unfit => exact .refused _ _ fun _ within => within.still _
  | @refused call acting cause late fit called =>
    refine .refused _ _ fun _ within => ?_
    have moved := within.call call acting world
    rwa [called] at moved
  | @done call acting late fit called =>
    have seen : mask.readiness? = some mask.wanted := by
      rw [Interest.readiness?_eq, if_pos fit.served]
    refine .done mask.wanted _ seen fit.allowed fun _ within => ?_
    have moved := within.call call acting world
    rwa [called] at moved

/-- A call that is let through changes the registration of an object that is
watched already. -/
theorem Selector.register_added (conduct : Conduct B C W) (selector : Selector)
    {mask : Interest} {event : Event B} {world : W} {wanted : Readiness}
    (added : event.standing = .added) (wishes : mask.isEmpty = false)
    (seen : mask.readiness? = some wanted) (allowed : ¬ event.handle < 0)
    (called : (conduct.call (.reregister event.handle.token wanted)
      { event with standing := .rearming } world).1 = none) :
    (selector.register conduct mask event world).outcome = .ok () := by
  unfold register
  simp only [wishes, Bool.false_eq_true, ↓reduceIte, seen, allowed, added]
  split
  · next refused =>
    rw [refused] at called
    cases called
  · rfl

namespace Loop

/-! ## What a change spares -/

/-- What the poller watches a source for, and under which token. -/
def watching? (source : Source) (loop : Loop B C W) : Option (Token × Readiness) :=
  loop.selector.poller.watched.get? source

/-- A handle keeps its owner, and a source is watched as before. -/
structure Spares (handle : Handle) (source : Source) (early late : Loop B C W) : Prop where
  owner : late.lookup handle = early.lookup handle
  watching : late.watching? source = early.watching? source

theorem Spares.refl (handle : Handle) (source : Source) (loop : Loop B C W) :
    Spares handle source loop loop :=
  ⟨rfl, rfl⟩

theorem Spares.trans {handle : Handle} {source : Source} {early middle late : Loop B C W}
    (first : Spares handle source early middle) (second : Spares handle source middle late) :
    Spares handle source early late :=
  ⟨second.owner.trans first.owner, second.watching.trans first.watching⟩

variable (conduct : Conduct B C W) {loop : Loop B C W} {handle : Handle} {source : Source}

/-- An object that concerns neither the handle nor the source. -/
structure Elsewhere (handle : Handle) (source : Source) (event : Event B) : Prop where
  handle : handle ≠ event.handle
  source : source ≠ event.source

private theorem watch_spares {event : Event B} (elsewhere : Elsewhere handle source event)
    (mask : Interest) (wanted : Readiness) (world : W) (selector : Selector) :
    (selector.watch conduct event mask wanted world).poller.watched.get? source =
      selector.poller.watched.get? source := by
  have poller : (selector.watch conduct event mask wanted world).poller =
      selector.poller.watch event.source event.handle.token wanted
        (conduct.level world event.source) := by
    simp only [Selector.watch, Selector.mark]
    split <;> rfl
  rw [poller, Poller.watched_watch, Keyed.get?_insert, if_neg elsewhere.source]

theorem registerOwned_spares {event : Event B} (elsewhere : Elsewhere handle source event)
    (mask : Interest) : Spares handle source loop (loop.registerOwned conduct event mask).2 := by
  have outcome := Selector.register_outcome conduct mask event loop.world loop.selector
  unfold registerOwned
  generalize loop.selector.register conduct mask event loop.world = registered at outcome ⊢
  cases outcome with
  | refused fault late =>
    refine ⟨?_, rfl⟩
    exact (loop.table.get?_insert event.handle handle _).trans (if_neg elsewhere.handle)
  | done wanted late =>
    refine ⟨?_, watch_spares conduct elsewhere mask wanted late loop.selector⟩
    exact (loop.table.get?_insert event.handle handle _).trans (if_neg elsewhere.handle)

theorem destroy_spares {event : Event B} (apart : source ≠ event.source) :
    Spares handle source loop (loop.destroy conduct event) := by
  refine ⟨rfl, ?_⟩
  exact (loop.selector.poller.watched.get?_erase event.source source).trans (if_neg apart)

/-- What a registration keeps up, if there is anything to register, and one more alarm as well,
settling keeps up. -/
theorem settle_induction {motive : Loop B C W → Prop} {event : Event B} {mask : Interest}
    (still : (mask.without .timer).isEmpty = true → motive loop)
    (registered : ¬ (mask.without .timer).isEmpty = true →
      motive (loop.registerOwned conduct event (mask.without .timer)).2)
    (scheduled : ∀ late, motive late →
      motive (late.schedule conduct late.pause (.event event.handle event.generation))) :
    motive (loop.settle conduct event mask).2 := by
  rw [settle]
  refine alarmed_keeps ?_ scheduled
  unfold registerRest
  split
  · next alone => exact still alone
  · next served => exact registered served

theorem settle_spares {event : Event B} (elsewhere : Elsewhere handle source event)
    (mask : Interest) : Spares handle source loop (loop.settle conduct event mask).2 :=
  settle_induction conduct (fun _ => .refl handle source loop)
    (fun _ => registerOwned_spares conduct elsewhere _)
    fun _ registered => registered.trans ⟨rfl, rfl⟩

/-- The handle that a change concerns. -/
def handleOf : Change B C → Option Handle
  | .add event _ => some event.handle
  | .rearm target _ => some target.handle
  | .remove target => some target.handle
  | .schedule target _ => some target.handle
  | .timer .. => none

/-- The source of the object that a change brings. -/
def sourceOf : Change B C → Option Source
  | .add event _ => some event.source
  | _ => none

/-- An object that is registered under its handle stands there afterwards, as it
was but for its standing. -/
theorem registerOwned_owner (loop : Loop B C W) (event : Event B) (mask : Interest) :
    ∃ standing, (loop.registerOwned conduct event mask).2.lookup event.handle =
      some { event with standing } := by
  have outcome := Selector.register_outcome conduct mask event loop.world loop.selector
  unfold registerOwned
  generalize loop.selector.register conduct mask event loop.world = registered at outcome ⊢
  cases outcome with
  | refused fault late =>
    exact ⟨event.standing, (loop.table.get?_insert event.handle event.handle _).trans (if_pos rfl)⟩
  | done wanted late =>
    exact ⟨.added, (loop.table.get?_insert event.handle event.handle _).trans (if_pos rfl)⟩

theorem settle_owner {event : Event B} (owned : loop.lookup event.handle = some event)
    (mask : Interest) :
    ∃ standing, (loop.settle conduct event mask).2.lookup event.handle =
      some { event with standing } :=
  settle_induction conduct
    (motive := fun late => ∃ standing, late.lookup event.handle = some { event with standing })
    (fun _ => ⟨event.standing, owned⟩) (fun _ => registerOwned_owner conduct loop event _)
    fun _ => id

/-- The loop with nobody under a handle. -/
def vacate (handle : Handle) (loop : Loop B C W) : Loop B C W :=
  { loop with table := loop.table.erase handle }

/-- What can come of adding an object. It wishes for nothing and is turned away; its handle has an
owner, who is settled in its place; or it is entered and settled, and taken out again, as it is but
for its standing, if that fails. -/
inductive Reception (conduct : Conduct B C W) (loop : Loop B C W) (event : Event B)
    (mask : Interest) : Except Fault Unit × Loop B C W → Prop where
  | pointless (empty : mask.isEmpty = true) :
      Reception conduct loop event mask
        (.error (.invalidArgument .emptyMask), loop.destroy conduct event)
  | joined {owner : Event B} (wishes : ¬ mask.isEmpty = true)
      (found : loop.lookup event.handle = some owner) :
      Reception conduct loop event mask
        ((loop.settle conduct owner mask).1,
          (loop.settle conduct owner mask).2.destroy conduct event)
  | kept (wishes : ¬ mask.isEmpty = true) (free : loop.lookup event.handle = none)
      (done : ((loop.enter event).settle conduct event mask).1 = .ok ()) :
      Reception conduct loop event mask
        (.ok (), ((loop.enter event).settle conduct event mask).2)
  | refused {fault : Fault} {standing : Standing} (wishes : ¬ mask.isEmpty = true)
      (free : loop.lookup event.handle = none)
      (failed : ((loop.enter event).settle conduct event mask).1 = .error fault)
      (stands : ((loop.enter event).settle conduct event mask).2.lookup event.handle =
        some { event with standing }) :
      Reception conduct loop event mask
        (.error fault,
          (((loop.enter event).settle conduct event mask).2.vacate event.handle).destroy conduct
            { event with standing })

/-- **Adding an object is one of these.** -/
theorem addEvent_reception (loop : Loop B C W) (event : Event B) (mask : Interest) :
    Reception conduct loop event mask (loop.addEvent conduct event mask) := by
  unfold addEvent
  by_cases empty : mask.isEmpty = true
  · rw [if_pos empty]
    exact .pointless empty
  · rw [if_neg empty]
    cases found : loop.lookup event.handle with
    | some owner => exact .joined empty found
    | none =>
      obtain ⟨standing, stands⟩ := settle_owner conduct (lookup_entered event loop) mask
      have keeps : _ → Reception conduct loop event mask _ := .kept empty found
      have turns (fault : Fault) : _ → Reception conduct loop event mask (.error fault, _) :=
        fun failed => .refused empty found failed stands
      unfold enter at keeps turns stands
      simp only
      generalize ({ loop with table := loop.table.insert event.handle event }).settle conduct event
        mask = reached at keeps turns stands ⊢
      obtain ⟨outcome, late⟩ := reached
      cases outcome with
      | ok _ => exact keeps rfl
      | error fault =>
        have kept : (late.lookup event.handle).getD event = { event with standing } := by
          rw [stands]
          rfl
        simp only [kept]
        exact turns fault rfl

private theorem addEvent_spares {event : Event B} (filed : loop.Filed)
    (elsewhere : Elsewhere handle source event) (mask : Interest)
    (apart : ∀ owner, loop.lookup event.handle = some owner → source ≠ owner.source) :
    Spares handle source loop (loop.addEvent conduct event mask).2 := by
  have entered : Spares handle source loop (loop.enter event) :=
    ⟨(loop.table.get?_insert event.handle handle event).trans (if_neg elsewhere.handle), rfl⟩
  have settled := entered.trans (settle_spares conduct elsewhere mask)
  have reception := addEvent_reception conduct loop event mask
  generalize loop.addEvent conduct event mask = reached at reception ⊢
  cases reception with
  | pointless empty => exact destroy_spares conduct elsewhere.source
  | @joined owner wishes found =>
    have ownerElsewhere : Elsewhere handle source owner :=
      ⟨filed _ _ found ▸ elsewhere.handle, apart owner found⟩
    exact (settle_spares conduct ownerElsewhere mask).trans
      (destroy_spares conduct elsewhere.source)
  | kept wishes free done => exact settled
  | refused wishes free failed stands =>
    have left (late : Loop B C W) : Spares handle source late (late.vacate event.handle) :=
      ⟨(late.table.get?_erase event.handle handle).trans (if_neg elsewhere.handle), rfl⟩
    exact settled.trans ((left _).trans (destroy_spares conduct elsewhere.source))

theorem unregister_source (event : Event B) (world : W) (selector : Selector) :
    (selector.unregister conduct event world).1.source = event.source ∧
      ∀ source, source ≠ event.source →
        (selector.unregister conduct event world).2.1.poller.watched.get? source =
          selector.poller.watched.get? source := by
  unfold Selector.unregister
  split
  · simp only
    split
    · refine ⟨rfl, ?_⟩
      intro source apart
      exact (selector.poller.watched.get?_erase event.source source).trans (if_neg apart)
    · exact ⟨rfl, fun source apart => rfl⟩
  · exact ⟨rfl, fun source apart => rfl⟩

theorem removeEvent_spares {removed : Handle} (other : handle ≠ removed)
    (apart : ∀ owner, loop.lookup removed = some owner → source ≠ owner.source) :
    Spares handle source loop (loop.removeEvent conduct removed).2 := by
  unfold removeEvent
  cases found : loop.lookup removed with
  | none => exact .refl handle source loop
  | some owner =>
    obtain ⟨same, watched⟩ := unregister_source conduct owner loop.world loop.selector
    simp only
    generalize loop.selector.unregister conduct owner loop.world = gone at same watched ⊢
    obtain ⟨left, selector, world⟩ := gone
    have erased : Spares handle source loop
        { loop with table := loop.table.erase removed
                    selector := selector.forgetListener removed
                    world } :=
      ⟨(loop.table.get?_erase removed handle).trans (if_neg other),
        watched source (apart owner found)⟩
    refine erased.trans (destroy_spares conduct ?_)
    rw [same]
    exact apart owner found

/-- **A change concerns one handle.** It spares every other one, and every source
but those of the owner of its handle and of the object it brings. -/
theorem apply_spares (filed : loop.Filed) (change : Change B C)
    (other : handleOf change ≠ some handle)
    (owned : ∀ concerned owner, handleOf change = some concerned →
      loop.lookup concerned = some owner → source ≠ owner.source)
    (brought : sourceOf change ≠ some source) :
    Spares handle source loop (loop.apply conduct change) := by
  cases change with
  | add event mask =>
    refine addEvent_spares conduct filed ⟨fun same => other ?_, fun same => brought ?_⟩ mask
      fun owner found => owned event.handle owner rfl found
    · rw [same]; rfl
    · rw [same]; rfl
  | rearm target mask =>
    simp only [apply]
    split
    · unfold rearm
      cases found : loop.lookup target.handle with
      | none => exact .refl handle source loop
      | some owner =>
        refine registerOwned_spares conduct ⟨fun same => other ?_, owned _ owner rfl found⟩ mask
        rw [same, filed _ _ found]
        rfl
    · exact .refl handle source loop
  | remove target =>
    simp only [apply]
    split
    · refine removeEvent_spares conduct (fun same => other ?_)
        fun owner found => owned _ owner rfl found
      rw [same]
      rfl
    · exact .refl handle source loop
  | schedule target delay =>
    simp only [apply]
    split
    · split
      · exact ⟨rfl, rfl⟩
      · exact .refl handle source loop
    · exact .refl handle source loop
  | timer callback interval delayed repeats => exact ⟨rfl, rfl⟩

/-- The source of the owner of a handle. -/
def seat? (handle : Handle) (loop : Loop B C W) : Option Source :=
  (loop.lookup handle).map Event.source

/-- Every handle but the one that a change concerns keeps its owner. -/
theorem apply_owner (filed : loop.Filed) (change : Change B C)
    (other : handleOf change ≠ some handle) :
    (loop.apply conduct change).lookup handle = loop.lookup handle := by
  -- Which source is looked at does not matter, so one is taken that nobody here has.
  obtain ⟨unused, unseated, unbrought⟩ : ∃ unused : Source,
      (∀ concerned owner, handleOf change = some concerned →
        loop.lookup concerned = some owner → unused ≠ owner.source) ∧
      sourceOf change ≠ some unused := by
    refine ⟨((handleOf change).bind fun concerned => loop.seat? concerned).getD 0 +
      (sourceOf change).getD 0 + 1, ?_, ?_⟩
    · intro concerned owner concerns found
      simp only [concerns, Option.bind_some, seat?, found, Option.map_some, Option.getD_some]
      exact Nat.ne_of_gt (Nat.lt_succ_of_le (Nat.le_add_right _ _))
    · intro brought
      have least := congrArg (fun source => source.getD 0) brought
      simp only [Option.getD_some] at least
      exact Nat.ne_of_lt (Nat.lt_succ_of_le (Nat.le_add_left _ _)) least
  exact (apply_spares conduct filed change other unseated unbrought).owner

/-- Who owns the handle of an object that was added: the owner it had, or, if it
had none, the object or nobody. -/
theorem addEvent_owner (filed : loop.Filed) (event : Event B) (mask : Interest) :
    (∃ owner standing, loop.lookup event.handle = some owner ∧
      (loop.addEvent conduct event mask).2.lookup event.handle = some { owner with standing }) ∨
    (loop.lookup event.handle = none ∧
      ((loop.addEvent conduct event mask).2.lookup event.handle = none ∨
        ∃ standing, (loop.addEvent conduct event mask).2.lookup event.handle =
          some { event with standing })) := by
  have reception := addEvent_reception conduct loop event mask
  generalize loop.addEvent conduct event mask = reached at reception ⊢
  cases reception with
  | pointless empty =>
    cases found : loop.lookup event.handle with
    | some owner => exact .inl ⟨owner, owner.standing, rfl, found⟩
    | none => exact .inr ⟨rfl, .inl found⟩
  | @joined owner wishes found =>
    have handle := filed _ _ found
    have owned : loop.lookup owner.handle = some owner := by rw [handle]; exact found
    obtain ⟨standing, stands⟩ := settle_owner conduct owned mask
    refine .inl ⟨owner, standing, found, ?_⟩
    rw [← handle]
    exact stands
  | kept wishes free done =>
    obtain ⟨standing, stands⟩ := settle_owner conduct (lookup_entered event loop) mask
    exact .inr ⟨free, .inr ⟨standing, stands⟩⟩
  | refused wishes free failed stands =>
    exact .inr ⟨free, .inl ((Keyed.get?_erase _ event.handle event.handle).trans (if_pos rfl))⟩

theorem removeEvent_owner (removed : Handle) :
    (loop.removeEvent conduct removed).2.lookup removed = none := by
  unfold removeEvent
  cases found : loop.lookup removed with
  | none => exact found
  | some owner => exact (loop.table.get?_erase removed removed).trans (if_pos rfl)

/-- A removal that means the owner of its handle takes it away. -/
theorem apply_removes {target : Target} (owns : loop.owns target = true) :
    (loop.apply conduct (.remove target)).lookup target.handle = none := by
  simp only [apply, owns, ↓reduceIte]
  exact removeEvent_owner conduct target.handle

/-- Whoever has a source after a change had it before, or was brought by it to a
free handle. -/
theorem apply_seat (filed : loop.Filed) (change : Change B C)
    (seated : (loop.apply conduct change).seat? handle = some source) :
    loop.seat? handle = some source ∨
      (handleOf change = some handle ∧ sourceOf change = some source ∧
        loop.lookup handle = none) := by
  by_cases concerned : handleOf change = some handle
  · cases change with
    | add event mask =>
      have here : event.handle = handle := Option.some.inj concerned
      subst here
      rcases addEvent_owner conduct filed event mask with
        ⟨owner, standing, found, stands⟩ | ⟨free, stands⟩
      · left
        rw [seat?, apply, stands] at seated
        rw [seat?, found]
        exact seated
      · right
        refine ⟨rfl, ?_, free⟩
        rcases stands with gone | ⟨standing, stands⟩
        · rw [seat?, apply, gone] at seated
          cases seated
        · rw [seat?, apply, stands] at seated
          exact seated
    | rearm target mask =>
      have here : target.handle = handle := Option.some.inj concerned
      subst here
      left
      simp only [apply] at seated
      split at seated
      · unfold rearm at seated
        cases found : loop.lookup target.handle with
        | none =>
          rw [found] at seated
          exact seated
        | some owner =>
          obtain ⟨standing, stands⟩ := registerOwned_owner conduct loop owner mask
          rw [found] at seated
          rw [filed _ _ found] at stands
          rw [seat?, stands] at seated
          rw [seat?, found]
          exact seated
      · exact seated
    | remove target =>
      have here : target.handle = handle := Option.some.inj concerned
      subst here
      left
      simp only [apply] at seated
      split at seated
      · rw [seat?, removeEvent_owner] at seated
        cases seated
      · exact seated
    | schedule target delay =>
      left
      simp only [apply] at seated
      split at seated
      · split at seated
        · exact seated
        · exact seated
      · exact seated
    | timer callback interval delayed repeats => cases concerned
  · left
    rw [seat?, ← apply_owner conduct filed change concerned]
    exact seated

/-! ## What moves the world -/

private theorem registerOwned_moves {moves : W → W → Prop} (within : conduct.Within moves)
    (event : Event B) (mask : Interest) :
    moves loop.world (loop.registerOwned conduct event mask).2.world := by
  have outcome := Selector.register_outcome conduct mask event loop.world loop.selector
  unfold registerOwned
  generalize loop.selector.register conduct mask event loop.world = registered at outcome ⊢
  cases outcome with
  | refused fault late moved => exact moved moves within
  | done wanted late seen allowed moved => exact moved moves within

private theorem settle_moves {moves : W → W → Prop} (within : conduct.Within moves)
    (event : Event B) (mask : Interest) (loop : Loop B C W) :
    moves loop.world (loop.settle conduct event mask).2.world :=
  settle_induction conduct (motive := fun late => moves loop.world late.world)
    (fun _ => within.still _) (fun _ => registerOwned_moves conduct within event _)
    fun late registered => within.trans registered (within.clock late.world)

private theorem addEvent_moves {moves : W → W → Prop} (within : conduct.Within moves)
    (event : Event B)
    (mask : Interest) : moves loop.world (loop.addEvent conduct event mask).2.world := by
  have settled : moves loop.world ((loop.enter event).settle conduct event mask).2.world :=
    settle_moves conduct within event mask (loop.enter event)
  have reception := addEvent_reception conduct loop event mask
  generalize loop.addEvent conduct event mask = reached at reception ⊢
  cases reception with
  | pointless empty => exact within.destroy event loop.world
  | joined wishes found =>
    exact within.trans (settle_moves conduct within _ mask loop) (within.destroy event _)
  | kept wishes free done => exact settled
  | refused wishes free failed stands => exact within.trans settled (within.destroy _ _)

private theorem removeEvent_moves {moves : W → W → Prop} (within : conduct.Within moves)
    (handle : Handle) : moves loop.world (loop.removeEvent conduct handle).2.world := by
  unfold removeEvent
  split
  · exact within.still loop.world
  · rename_i owner found
    have left : moves loop.world (loop.selector.unregister conduct owner loop.world).2.2 := by
      have called := within.call .deregister { owner with standing := .absent } loop.world
      unfold Selector.unregister
      split
      · simp only
        split <;> next answer => rw [answer] at called; exact called
      · exact within.still loop.world
    exact within.trans left (within.destroy _ _)

/-- The world moves only by what objects do to it, and by the clock. -/
theorem apply_moves {moves : W → W → Prop} (within : conduct.Within moves) (loop : Loop B C W)
    (change : Change B C) :
    moves loop.world (loop.apply conduct change).world := by
  cases change with
  | add event mask => exact addEvent_moves conduct within event mask
  | rearm target mask =>
    simp only [apply]
    split
    · unfold rearm
      split
      · exact within.still loop.world
      · exact registerOwned_moves conduct within _ mask
    · exact within.still loop.world
  | remove target =>
    simp only [apply]
    split
    · exact removeEvent_moves conduct within target.handle
    · exact within.still loop.world
  | schedule target delay =>
    simp only [apply]
    split
    · split
      · exact within.clock loop.world
      · exact within.still loop.world
    · exact within.still loop.world
  | timer callback interval delayed repeats => exact within.clock loop.world

/-! ## Where a change works -/

theorem watch_watches (event : Event B) (mask : Interest) (wanted : Readiness) (world : W)
    (selector : Selector) :
    (selector.watch conduct event mask wanted world).poller.watched.get? event.source =
      some (event.handle.token, wanted) := by
  have poller : (selector.watch conduct event mask wanted world).poller =
      selector.poller.watch event.source event.handle.token wanted
        (conduct.level world event.source) := by
    simp only [Selector.watch, Selector.mark]
    split <;> rfl
  rw [poller, Poller.watched_watch, Keyed.get?_insert, if_pos rfl]

/-- A re-arm, let through or not, keeps an owner that is watched as it is. -/
theorem rearm_keeps {owner : Event B} (filed : loop.Filed) (found : loop.lookup handle = some owner)
    (added : owner.standing = .added) (mask : Interest) :
    (loop.rearm conduct handle mask).2.lookup handle = some owner := by
  have outcome := Selector.register_outcome conduct mask owner loop.world loop.selector
  have same : { owner with standing := .added } = owner := by rw [← added]
  unfold rearm
  rw [found]
  simp only [registerOwned]
  rw [filed _ _ found]
  generalize loop.selector.register conduct mask owner loop.world = registered at outcome ⊢
  cases outcome with
  | refused fault late => exact (loop.table.get?_insert handle handle owner).trans (if_pos rfl)
  | done other late =>
    rw [same]
    exact (loop.table.get?_insert handle handle owner).trans (if_pos rfl)

/-- Who owns a handle after a re-arm owned it before, and is the same but for its
standing. -/
theorem apply_rearm_owner (filed : loop.Filed) {target : Target} {mask : Interest}
    {event : Event B}
    (now : (loop.apply conduct (.rearm target mask)).lookup target.handle = some event) :
    ∃ owner, loop.lookup target.handle = some owner ∧ event.body = owner.body ∧
      (owner.standing = .added → event = owner) := by
  simp only [apply] at now
  split at now
  · cases found : loop.lookup target.handle with
    | none =>
      rw [rearm, found] at now
      cases found.symm.trans now
    | some owner =>
      refine ⟨owner, rfl, ?_, ?_⟩
      · obtain ⟨standing, stands⟩ := registerOwned_owner conduct loop owner mask
        rw [filed _ _ found] at stands
        rw [rearm, found] at now
        rw [← Option.some.inj (stands.symm.trans now)]
      · intro added
        exact Option.some.inj (now.symm.trans (rearm_keeps conduct filed found added mask))
  · exact ⟨event, now, rfl, fun _ => rfl⟩

/-- A re-arm that is let through watches the source of the owner for what the
mask says. -/
theorem rearm_watches {owner : Event B} {mask : Interest} {wanted : Readiness}
    (filed : loop.Filed) (found : loop.lookup handle = some owner)
    (added : owner.standing = .added) (wishes : mask.isEmpty = false)
    (seen : mask.readiness? = some wanted) (allowed : ¬ handle < 0)
    (called : ∀ call event, (conduct.call call event loop.world).1 = none) :
    (loop.rearm conduct handle mask).2.lookup handle = some owner ∧
      (loop.rearm conduct handle mask).2.watching? owner.source = some (handle.token, wanted) := by
  have own : owner.handle = handle := filed _ _ found
  have done := Selector.register_added conduct loop.selector added wishes seen
    (by rw [own]; exact allowed) (called _ _)
  have outcome := Selector.register_outcome conduct mask owner loop.world loop.selector
  refine ⟨rearm_keeps conduct filed found added mask, ?_⟩
  unfold rearm
  rw [found]
  simp only [registerOwned]
  generalize loop.selector.register conduct mask owner loop.world = registered at outcome done ⊢
  cases outcome with
  | refused fault late => cases done
  | done other late seenAlso =>
    have wantedSame : other = wanted := Option.some.inj (seenAlso.symm.trans seen)
    rw [← wantedSame, ← own]
    exact watch_watches conduct owner mask other late loop.selector

/-- An object that was added to a free handle for what a poller understands is
registered, or is not there. -/
theorem addEvent_registers {event : Event B} {mask : Interest}
    (free : loop.lookup event.handle = none) (io : (mask.without .timer).isEmpty = false) :
    (loop.addEvent conduct event mask).2.lookup event.handle = none ∨
      ((loop.addEvent conduct event mask).2.lookup event.handle =
          some { event with standing := .added } ∧ ¬ event.handle < 0) := by
  unfold addEvent
  split
  · exact .inl free
  · rw [free]
    have outcome := Selector.register_outcome conduct (mask.without .timer) event loop.world
      loop.selector
    simp only [settle, registerRest, io, Bool.false_eq_true, ↓reduceIte, registerOwned]
    generalize loop.selector.register conduct (mask.without .timer) event loop.world = registered
      at outcome ⊢
    cases outcome with
    | refused fault late =>
      exact .inl ((Keyed.get?_erase _ event.handle event.handle).trans (if_pos rfl))
    | done wanted late seen allowed =>
      right
      refine ⟨?_, allowed⟩
      have stands := (loop.table.insert event.handle event).get?_insert event.handle event.handle
        { event with standing := .added }
      rw [if_pos rfl] at stands
      by_cases timer : mask.includes .timer = true
      · simp only [alarmed, timer, ↓reduceIte]
        exact stands
      · simp only [alarmed, timer, Bool.false_eq_true, ↓reduceIte]
        exact stands

end Loop

/-! ## Taking up a reaction -/

/-- The change that a request asks for: it means whoever owns the handle. -/
def Request.change : Request B → Change B C
  | .add event mask => .add event mask
  | .rearm handle mask => .rearm { handle } mask
  | .remove handle => .remove { handle }
  | .schedule handle delay => .schedule { handle } delay

theorem Changes.pending_foldl (requests : List (Request B)) (changes : Changes B C) :
    (requests.foldl Changes.request changes).pending =
      changes.pending ++ requests.map Request.change := by
  induction requests generalizing changes with
  | nil => simp
  | cons request requests ih =>
    have first : (changes.request request).pending = changes.pending ++ [request.change] := by
      cases request <;> rfl
    rw [List.foldl_cons, ih, first, List.map_cons, List.append_assoc]
    rfl

/-- The change that an order sends, if it sends one. -/
def Order.change? : Order B C → Option (Change B C)
  | .change sent => some sent
  | _ => none

namespace Loop

/-- Takes up what the owner of a handle asks for. -/
def takeUp (conduct : Conduct B C W) (handle : Handle) (event : Event B)
    (reaction : Reaction B C W) (loop : Loop B C W) : Loop B C W :=
  reaction.orders.foldl (carryOut conduct)
    { loop with
      table := loop.table.insert handle { event with body := reaction.body }
      changes := reaction.requests.foldl Changes.request loop.changes
      world := reaction.world }

theorem notify_missing (conduct : Conduct B C W) {loop : Loop B C W} {handle : Handle}
    (notice : Notice) (missing : loop.lookup handle = none) :
    loop.notify conduct notice handle = loop := by
  unfold notify
  rw [missing]

theorem notify_eq (conduct : Conduct B C W) {loop : Loop B C W} {handle : Handle}
    {event : Event B} (notice : Notice) (found : loop.lookup handle = some event) :
    loop.notify conduct notice handle =
      loop.takeUp conduct handle event (conduct.notify notice event loop.outlook loop.world) := by
  unfold notify
  rw [found]
  rfl

/-- An order touches neither the table nor what was asked for. -/
theorem carryOut_keeps (conduct : Conduct B C W) (loop : Loop B C W) (order : Order B C) :
    (loop.carryOut conduct order).table = loop.table ∧
      (loop.carryOut conduct order).changes = loop.changes ∧
      (loop.carryOut conduct order).alive = loop.alive := by
  cases order with
  | stop => exact ⟨rfl, rfl, rfl⟩
  | wake => exact ⟨rfl, rfl, rfl⟩
  | change change =>
    simp only [carryOut, submit]
    split
    · next alive => exact ⟨rfl, rfl, rfl⟩
    · cases change <;> exact ⟨rfl, rfl, rfl⟩

/-- What sending orders changes: the inbox, and what wakes the poll. -/
structure Ordered (orders : List (Order B C)) (early late : Loop B C W) : Prop where
  table : late.table = early.table
  changes : late.changes = early.changes
  world : late.world = early.world
  alive : late.alive = early.alive
  inbox : late.inbox = early.inbox ++ orders.filterMap Order.change?
  watching : ∀ source, late.watching? source = early.watching? source

theorem carryOut_ordered (conduct : Conduct B C W) {loop : Loop B C W} (alive : loop.alive = true)
    (order : Order B C) : Ordered [order] loop (loop.carryOut conduct order) := by
  have woken (source : Source) : loop.wake.watching? source = loop.watching? source :=
    congrArg (Keyed.get? · source) (Poller.watched_enqueue .waker loop.selector.poller)
  cases order with
  | stop => exact ⟨rfl, rfl, rfl, rfl, (List.append_nil _).symm, woken⟩
  | wake => exact ⟨rfl, rfl, rfl, rfl, (List.append_nil _).symm, woken⟩
  | change change =>
    simp only [carryOut, submit, alive, ↓reduceIte]
    exact ⟨rfl, rfl, rfl, alive.symm ▸ rfl, rfl, woken⟩

theorem carryOutAll_ordered (conduct : Conduct B C W) (loop : Loop B C W)
    (alive : loop.alive = true) (orders : List (Order B C)) :
    Ordered orders loop (orders.foldl (carryOut conduct) loop) := by
  induction orders generalizing loop with
  | nil => exact ⟨rfl, rfl, rfl, rfl, (List.append_nil _).symm, fun _ => rfl⟩
  | cons order orders ih =>
    have first := carryOut_ordered conduct alive order
    have later := ih (loop.carryOut conduct order) (first.alive.trans alive)
    refine ⟨later.table.trans first.table, later.changes.trans first.changes,
      later.world.trans first.world, later.alive.trans first.alive, ?_,
      fun source => (later.watching source).trans (first.watching source)⟩
    rw [List.foldl_cons, later.inbox, first.inbox, List.append_assoc, ← List.filterMap_append]
    rfl

/-- Orders put nothing on the agenda. -/
theorem carryOutAll_agenda (conduct : Conduct B C W) (orders : List (Order B C))
    (loop : Loop B C W) : (orders.foldl (carryOut conduct) loop).agenda = loop.agenda := by
  induction orders generalizing loop with
  | nil => rfl
  | cons order orders ih =>
    refine (ih _).trans ?_
    cases order with
    | stop => rfl
    | wake => rfl
    | change change =>
      simp only [carryOut, submit]
      split
      · rfl
      · cases change <;> rfl

/-- What taking up a reaction changes. -/
structure Took (handle : Handle) (event : Event B) (reaction : Reaction B C W)
    (early late : Loop B C W) : Prop where
  owner : ∀ probe, late.lookup probe =
    if probe = handle then some { event with body := reaction.body } else early.lookup probe
  watching : ∀ source, late.watching? source = early.watching? source
  pending : late.changes.pending = early.changes.pending ++ reaction.requests.map Request.change
  inbox : late.inbox = early.inbox ++ reaction.orders.filterMap Order.change?
  world : late.world = reaction.world
  alive : late.alive = early.alive

theorem takeUp_took (conduct : Conduct B C W) {loop : Loop B C W} (alive : loop.alive = true)
    (handle : Handle) (event : Event B) (reaction : Reaction B C W) :
    Took handle event reaction loop (loop.takeUp conduct handle event reaction) := by
  have ordered : Ordered reaction.orders
      { loop with
        table := loop.table.insert handle { event with body := reaction.body }
        changes := reaction.requests.foldl Changes.request loop.changes
        world := reaction.world } (loop.takeUp conduct handle event reaction) := by
    refine carryOutAll_ordered conduct _ ?_ reaction.orders
    exact alive
  refine ⟨?_, ordered.watching, ?_, ordered.inbox, ordered.world, ordered.alive⟩
  · intro probe
    rw [lookup, ordered.table]
    exact loop.table.get?_insert handle probe _
  · rw [ordered.changes]
    exact Changes.pending_foldl reaction.requests loop.changes

end Loop

end EventLoop
