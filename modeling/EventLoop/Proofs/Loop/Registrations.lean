import EventLoop.Proofs.Loop.Batches
import EventLoop.Proofs.Loop.Rollbacks

/-! What a loop's table, its poller and its marks of listeners say of one another.
An owner is either absent, and then neither its source is watched nor its handle
marked, or added, and then its source is watched under the token of its handle; no
source is watched but an owner's. A change touches one handle and one source, so it
is enough to look at these two (`Coherent.concerning`): every operation then keeps the
whole in order, failures and roll-backs included. What is asked of whoever hands an
object over is that it comes absent and with a source of its own. -/
namespace EventLoop

variable {B C W : Type}

/-! ## Tokens -/

theorem token_handle (handle : Handle) : handle.token.handle = handle :=
  Int32.toInt32_toInt64 handle

/-- A token that is not the waker's is what keeps negative handles out. -/
theorem token_ne_waker {handle : Handle} (allowed : ¬ handle < 0) :
    handle.token ≠ wakerToken := by
  intro same
  have negative : handle = -1 := by
    rw [← token_handle handle, same]
    decide
  rw [negative] at allowed
  exact allowed (by decide)

namespace Loop

/-! ## One handle -/

/-- How an owner stands at its handle: absent, unknown to the poller and not marked, or
added, and watched under the token of the handle. -/
inductive Placed (loop : Loop B C W) (handle : Handle) (owner : Event B) : Prop where
  | absent (own : owner.handle = handle) (standing : owner.standing = .absent)
      (unwatched : loop.watching? owner.source = none)
      (unmarked : loop.selector.isListener handle = false)
  | added (own : owner.handle = handle) (standing : owner.standing = .added)
      (allowed : ¬ handle < 0) (wanted : Readiness)
      (watched : loop.watching? owner.source = some (handle.token, wanted))

/-- Table, poller and marks agree. -/
structure Coherent (loop : Loop B C W) : Prop where
  placed : ∀ handle owner, loop.lookup handle = some owner → loop.Placed handle owner
  unmarked : ∀ handle, loop.lookup handle = none → loop.selector.isListener handle = false
  seated : ∀ source, loop.watching? source ≠ none → ∃ handle, loop.seat? handle = some source
  apart : ∀ handle other source,
    loop.seat? handle = some source → loop.seat? other = some source → handle = other

variable {early late loop : Loop B C W} {handle : Handle} {owner event : Event B}

private theorem Placed.own (placed : loop.Placed handle owner) : owner.handle = handle := by
  cases placed with
  | absent own => exact own
  | added own => exact own

theorem Coherent.filed (coherent : loop.Coherent) : loop.Filed := by
  intro handle owner found
  exact (coherent.placed handle owner found).own

private theorem seat?_of_lookup (found : loop.lookup handle = some owner) :
    loop.seat? handle = some owner.source := by
  rw [seat?, found]
  rfl

/-- The source of an added owner is watched, under the token of its handle. -/
theorem Coherent.watched_of_added (coherent : loop.Coherent)
    (found : loop.lookup handle = some owner) (added : owner.standing = .added) :
    ¬ handle < 0 ∧ ∃ wanted, loop.watching? owner.source = some (handle.token, wanted) := by
  cases coherent.placed handle owner found with
  | absent own standing => cases standing.symm.trans added
  | added own standing allowed wanted watched => exact ⟨allowed, wanted, watched⟩

/-- No source is watched but an added owner's. -/
theorem Coherent.owner_of_watched (coherent : loop.Coherent) {source : Source} {token : Token}
    {wanted : Readiness} (watched : loop.watching? source = some (token, wanted)) :
    ∃ handle owner, loop.lookup handle = some owner ∧ owner.standing = .added ∧
      owner.source = source ∧ ¬ handle < 0 ∧ token = handle.token := by
  have known : loop.watching? source ≠ none := by
    rw [watched]
    exact Option.some_ne_none _
  obtain ⟨handle, seated⟩ := coherent.seated source known
  obtain ⟨owner, found, rfl⟩ := Option.map_eq_some_iff.1 seated
  cases coherent.placed handle owner found with
  | absent own standing unwatched => cases unwatched.symm.trans watched
  | added own standing allowed other watchedToo =>
    have same := Option.some.inj (watched.symm.trans watchedToo)
    exact ⟨handle, owner, found, standing, rfl, allowed, (Prod.mk.inj same).1⟩

/-- **Order is kept handle by handle.** If nothing has changed but at one handle and at the
source that goes with it, it is enough to look there. -/
theorem Coherent.concerning (coherent : early.Coherent) (handle : Handle) (source : Source)
    (owners : ∀ other, other ≠ handle → late.lookup other = early.lookup other)
    (marks : ∀ other, other ≠ handle →
      late.selector.isListener other = early.selector.isListener other)
    (watching : ∀ other, other ≠ source → late.watching? other = early.watching? other)
    (elsewhere : ∀ other, other ≠ handle → early.seat? other ≠ some source)
    (here : ∀ owner, late.lookup handle = some owner →
      owner.source = source ∧ late.Placed handle owner)
    (free : late.lookup handle = none →
      late.selector.isListener handle = false ∧ late.watching? source = none)
    (before : ∀ owner, early.lookup handle = some owner → owner.source = source) :
    late.Coherent := by
  have seats {other : Handle} (apart : other ≠ handle) : late.seat? other = early.seat? other := by
    rw [seat?, seat?, owners other apart]
  have seatHere {probe : Source} (seated : late.seat? handle = some probe) : probe = source := by
    obtain ⟨owner, found, rfl⟩ := Option.map_eq_some_iff.1 seated
    exact (here owner found).1
  refine ⟨?_, ?_, ?_, ?_⟩
  · intro other owner found
    by_cases same : other = handle
    · subst same
      exact (here owner found).2
    · rw [owners other same] at found
      have otherSource : owner.source ≠ source := by
        rintro rfl
        exact elsewhere other same (seat?_of_lookup found)
      cases coherent.placed other owner found with
      | absent own standing unwatched unmarked =>
        refine .absent own standing ?_ ?_
        · rw [watching _ otherSource]
          exact unwatched
        · rw [marks other same]
          exact unmarked
      | added own standing allowed wanted watched =>
        refine .added own standing allowed wanted ?_
        rw [watching _ otherSource]
        exact watched
  · intro other found
    by_cases same : other = handle
    · subst same
      exact (free found).1
    · rw [owners other same] at found
      rw [marks other same]
      exact coherent.unmarked other found
  · intro probe watched
    by_cases same : probe = source
    · subst same
      cases found : late.lookup handle with
      | none => exact absurd (free found).2 watched
      | some owner =>
        refine ⟨handle, ?_⟩
        rw [seat?_of_lookup found, (here owner found).1]
    · rw [watching probe same] at watched
      obtain ⟨other, seated⟩ := coherent.seated probe watched
      by_cases there : other = handle
      · subst there
        obtain ⟨owner, found, rfl⟩ := Option.map_eq_some_iff.1 seated
        exact absurd (before owner found) same
      · exact ⟨other, (seats there).trans seated⟩
  · intro one other probe seatedOne seatedOther
    by_cases oneHere : one = handle
    · by_cases otherHere : other = handle
      · rw [oneHere, otherHere]
      · rw [oneHere] at seatedOne
        rw [seats otherHere, seatHere seatedOne] at seatedOther
        exact absurd seatedOther (elsewhere other otherHere)
    · by_cases otherHere : other = handle
      · rw [otherHere] at seatedOther
        rw [seats oneHere, seatHere seatedOther] at seatedOne
        exact absurd seatedOne (elsewhere one oneHere)
      · rw [seats oneHere] at seatedOne
        rw [seats otherHere] at seatedOther
        exact coherent.apart one other probe seatedOne seatedOther

/-- Two loops in which the same stand at the same handles, are watched and are marked. -/
structure Still (early late : Loop B C W) : Prop where
  owners : ∀ handle, late.bare? handle = early.bare? handle
  watching : ∀ source, late.watching? source = early.watching? source
  listeners : late.selector.listeners = early.selector.listeners

theorem Still.trans {middle : Loop B C W} (first : Still early middle)
    (second : Still middle late) : Still early late :=
  ⟨fun handle => (second.owners handle).trans (first.owners handle),
    fun source => (second.watching source).trans (first.watching source),
    second.listeners.trans first.listeners⟩

private theorem Still.lookup (still : Still early late) (found : late.lookup handle = some owner) :
    ∃ resident, early.lookup handle = some resident ∧ owner.handle = resident.handle ∧
      owner.source = resident.source ∧ owner.standing = resident.standing := by
  have same := still.owners handle
  rw [bare?, found, Option.map_some] at same
  obtain ⟨resident, resides, bare⟩ := Option.map_eq_some_iff.1 same.symm
  have handles : resident.bare.handle = owner.bare.handle := by rw [bare]
  have sources : resident.bare.source = owner.bare.source := by rw [bare]
  have standings : resident.bare.standing = owner.bare.standing := by rw [bare]
  exact ⟨resident, resides, handles.symm, sources.symm, standings.symm⟩

theorem Still.seat? (still : Still early late) (handle : Handle) :
    late.seat? handle = early.seat? handle := by
  have same := congrArg (Option.map Event.source) (still.owners handle)
  rw [bare?, bare?, Option.map_map, Option.map_map] at same
  exact same

theorem Still.coherent (still : Still early late) (coherent : early.Coherent) :
    late.Coherent := by
  have marks (handle : Handle) :
      late.selector.isListener handle = early.selector.isListener handle := by
    unfold Selector.isListener
    rw [still.listeners]
  refine ⟨?_, ?_, ?_, ?_⟩
  · intro handle owner found
    obtain ⟨resident, resides, handles, sources, standings⟩ := still.lookup found
    cases coherent.placed handle resident resides with
    | absent own standing unwatched unmarked =>
      refine .absent (handles.trans own) (standings.trans standing) ?_ ?_
      · rw [sources, still.watching]
        exact unwatched
      · rw [marks]
        exact unmarked
    | added own standing allowed wanted watched =>
      refine .added (handles.trans own) (standings.trans standing) allowed wanted ?_
      rw [sources, still.watching]
      exact watched
  · intro handle free
    rw [marks]
    refine coherent.unmarked handle ?_
    have same := still.owners handle
    rw [bare?, free] at same
    exact Option.map_eq_none_iff.1 same.symm
  · intro source watched
    rw [still.watching] at watched
    obtain ⟨handle, seated⟩ := coherent.seated source watched
    exact ⟨handle, (still.seat? handle).trans seated⟩
  · intro handle other source here there
    rw [still.seat?] at here there
    exact coherent.apart handle other source here there

/-! ## Registering -/

/-- A source that no owner has. -/
def Unseated (source : Source) (loop : Loop B C W) : Prop :=
  ∀ handle, loop.seat? handle ≠ some source

private theorem Coherent.unwatched (coherent : loop.Coherent) {source : Source}
    (unseated : loop.Unseated source) : loop.watching? source = none := by
  cases watched : loop.watching? source with
  | none => rfl
  | some entry =>
    have known : loop.watching? source ≠ none := by
      rw [watched]
      exact Option.some_ne_none _
    obtain ⟨handle, seated⟩ := coherent.seated source known
    exact absurd seated (unseated handle)

theorem isListener_watch (conduct : Conduct B C W) (event : Event B) (mask : Interest)
    (wanted : Readiness) (world : W) (selector : Selector) {handle : Handle}
    (other : handle ≠ event.handle) :
    (selector.watch conduct event mask wanted world).isListener handle =
      selector.isListener handle := by
  unfold Selector.watch Selector.mark
  split
  · simp [Selector.isListener, other]
  · rfl

theorem get?_watch (conduct : Conduct B C W) (event : Event B) (mask : Interest)
    (wanted : Readiness) (world : W) (selector : Selector) (source : Source) :
    (selector.watch conduct event mask wanted world).poller.watched.get? source =
      if source = event.source then some (event.handle.token, wanted)
      else selector.poller.watched.get? source := by
  have poller : (selector.watch conduct event mask wanted world).poller =
      selector.poller.watch event.source event.handle.token wanted
        (conduct.level world event.source) := by
    simp only [Selector.watch, Selector.mark]
    split <;> rfl
  rw [poller, Poller.watched_watch, Keyed.get?_insert]

variable (conduct : Conduct B C W)

/-- A registration, let through or not, leaves the loop in order. -/
theorem registerOwned_coherent (coherent : loop.Coherent)
    (found : loop.lookup event.handle = some event) (mask : Interest) :
    (loop.registerOwned conduct event mask).2.Coherent := by
  have outcome := Selector.register_outcome conduct mask event loop.world loop.selector
  unfold registerOwned
  generalize loop.selector.register conduct mask event loop.world = registered at outcome ⊢
  cases outcome with
  | refused fault world =>
    have still : Still loop { loop with table := loop.table.insert event.handle event, world } :=
      ⟨bare?_insert found event.body, fun _ => rfl, rfl⟩
    exact still.coherent coherent
  | done wanted world seen allowed =>
    have others (handle : Handle) (other : handle ≠ event.handle) :
        (loop.table.insert event.handle { event with standing := .added }).get? handle =
          loop.lookup handle :=
      (loop.table.get?_insert event.handle handle _).trans (if_neg other)
    have own : (loop.table.insert event.handle { event with standing := .added }).get?
        event.handle = some { event with standing := .added } :=
      (loop.table.get?_insert event.handle event.handle _).trans (if_pos rfl)
    refine coherent.concerning event.handle event.source others ?_ ?_ ?_ ?_ ?_ ?_
    · intro handle other
      exact isListener_watch conduct event mask wanted world loop.selector other
    · intro source other
      exact (get?_watch conduct event mask wanted world loop.selector source).trans (if_neg other)
    · intro other apart seated
      exact apart (coherent.apart _ _ _ seated (seat?_of_lookup found))
    · intro owner stands
      cases own.symm.trans stands
      refine ⟨rfl, .added rfl rfl allowed wanted ?_⟩
      exact watch_watches conduct event mask wanted world loop.selector
    · intro free
      cases own.symm.trans free
    · intro owner resides
      rw [Option.some.inj (resides.symm.trans found)]

/-! ## Adding -/

theorem schedule_still (loop : Loop B C W) (delay : Nat) (alarm : Alarm C) :
    Still loop (loop.schedule conduct delay alarm) :=
  ⟨fun _ => rfl, fun _ => rfl, rfl⟩

/-- Registration as a part of adding. -/
theorem settle_coherent (coherent : loop.Coherent) (found : loop.lookup event.handle = some event)
    (mask : Interest) : (loop.settle conduct event mask).2.Coherent :=
  settle_induction conduct (fun _ => coherent)
    (fun _ => registerOwned_coherent conduct coherent found _)
    fun late registered => (schedule_still conduct late _ _).coherent registered

/-- The end of an object whose source is not watched leaves all that is watched. -/
theorem watching?_destroy (unwatched : loop.watching? event.source = none) (source : Source) :
    (loop.destroy conduct event).watching? source = loop.watching? source := by
  refine (loop.selector.poller.watched.get?_erase event.source source).trans ?_
  split
  · next same =>
    rw [same]
    exact unwatched.symm
  · rfl

/-- The end of an object whose source nobody has disturbs nobody. -/
theorem destroy_coherent (coherent : loop.Coherent) (unseated : loop.Unseated event.source) :
    (loop.destroy conduct event).Coherent := by
  have still : Still loop (loop.destroy conduct event) :=
    ⟨fun _ => rfl, watching?_destroy conduct (coherent.unwatched unseated), rfl⟩
  exact still.coherent coherent

/-- **Adding keeps order**: to a free handle or one that has an owner, let through or refused. -/
theorem addEvent_coherent (coherent : loop.Coherent) (absent : event.standing = .absent)
    (unseated : loop.Unseated event.source) (mask : Interest) :
    (loop.addEvent conduct event mask).2.Coherent := by
  cases outcome : (loop.addEvent conduct event mask).1 with
  | error fault =>
    obtain ⟨halted, halts, left⟩ := addEvent_failed coherent.filed outcome
    have stops : Still loop halted := by
      rw [halts.same]
      exact ⟨fun _ => rfl, fun _ => rfl, rfl⟩
    have unwatched := (stops.watching event.source).trans (coherent.unwatched unseated)
    have ends : Still halted (halted.destroy conduct event) :=
      ⟨fun _ => rfl, watching?_destroy conduct unwatched, rfl⟩
    rw [left]
    exact (stops.trans ends).coherent coherent
  | ok _ =>
    obtain ⟨_, ⟨owner, found, done⟩ | ⟨free, done⟩⟩ := addEvent_done outcome
    · have own : loop.lookup owner.handle = some owner := by
        rw [(coherent.placed _ _ found).own]
        exact found
      have settled := settle_coherent conduct coherent own mask
      rw [done]
      refine destroy_coherent conduct settled ?_
      intro handle seated
      have apart : event.source ≠ owner.source := by
        intro same
        exact unseated event.handle (same ▸ seat?_of_lookup found)
      by_cases here : handle = owner.handle
      · obtain ⟨standing, stands⟩ := settle_owner conduct own mask
        rw [here, seat?_of_lookup stands] at seated
        exact apart (Option.some.inj seated).symm
      · have spared : Spares handle event.source loop (loop.settle conduct owner mask).2 :=
          settle_spares conduct ⟨here, apart⟩ mask
        rw [seat?, spared.owner] at seated
        exact unseated handle seated
    · have own := lookup_entered event loop
      have entered : (loop.enter event).Coherent := by
        refine coherent.concerning event.handle event.source ?_ (fun _ _ => rfl)
          (fun _ _ => rfl) (fun other _ => unseated other) ?_ ?_ ?_
        · intro other apart
          exact (lookup_enter event loop other).trans (if_neg apart)
        · intro owner stands
          cases own.symm.trans stands
          exact ⟨rfl, .absent rfl absent (coherent.unwatched unseated)
            (coherent.unmarked _ free)⟩
        · intro vacant
          cases own.symm.trans vacant
        · intro owner resides
          cases free.symm.trans resides
      rw [done]
      exact settle_coherent conduct entered own mask

/-! ## Re-arming and removing -/

theorem isListener_forgetListener (forgotten handle : Handle) (selector : Selector) :
    (selector.forgetListener forgotten).isListener handle =
      (decide (handle ≠ forgotten) && selector.isListener handle) := by
  simp [Selector.forgetListener, Selector.isListener, List.contains_eq_mem, Bool.and_comm]

private theorem rearm_coherent (coherent : loop.Coherent) (handle : Handle) (mask : Interest) :
    (loop.rearm conduct handle mask).2.Coherent := by
  unfold rearm
  cases found : loop.lookup handle with
  | none => exact coherent
  | some owner =>
    refine registerOwned_coherent conduct coherent ?_ mask
    rw [(coherent.placed _ _ found).own]
    exact found

/-- Taking an object off the poller leaves the mark of a listener, which is forgotten apart. -/
theorem unregister_listeners (owner : Event B) (world : W) (selector : Selector) :
    (selector.unregister conduct owner world).2.1.listeners = selector.listeners := by
  unfold Selector.unregister
  split
  · simp only
    split <;> rfl
  · rfl

/-- **Removing keeps order**: the mark of a listener does not outlive its owner. -/
theorem removeEvent_coherent (coherent : loop.Coherent) (handle : Handle) :
    (loop.removeEvent conduct handle).2.Coherent := by
  unfold removeEvent
  cases found : loop.lookup handle with
  | none => exact coherent
  | some owner =>
    obtain ⟨same, watched⟩ := unregister_source conduct owner loop.world loop.selector
    have marks := unregister_listeners conduct owner loop.world loop.selector
    simp only
    generalize loop.selector.unregister conduct owner loop.world = gone at same watched marks ⊢
    obtain ⟨left, selector, world⟩ := gone
    simp only at same watched marks ⊢
    refine coherent.concerning handle owner.source ?_ ?_ ?_ ?_ ?_ ?_ ?_
    · intro other apart
      exact (loop.table.get?_erase handle other).trans (if_neg apart)
    · intro other apart
      have forgotten := isListener_forgetListener handle other selector
      rw [decide_eq_true apart, Bool.true_and] at forgotten
      refine forgotten.trans ?_
      unfold Selector.isListener
      rw [marks]
    · intro source other
      refine (selector.poller.watched.get?_erase left.source source).trans ?_
      rw [same, if_neg other]
      exact watched source other
    · intro other apart seated
      exact apart (coherent.apart _ _ _ seated (seat?_of_lookup found))
    · intro resident resides
      cases ((loop.table.get?_erase handle handle).trans (if_pos rfl)).symm.trans resides
    · intro _
      constructor
      · have forgotten := isListener_forgetListener handle handle selector
        rwa [decide_eq_false (not_not_intro rfl), Bool.false_and] at forgotten
      · refine (selector.poller.watched.get?_erase left.source owner.source).trans ?_
        rw [same, if_pos rfl]
    · intro resident resides
      rw [Option.some.inj (resides.symm.trans found)]

/-- **A change keeps order**, whether it does anything or not, and fails or not. -/
theorem apply_coherent (coherent : loop.Coherent) (change : Change B C)
    (handed : ∀ event ∈ eventsIn [change],
      event.standing = .absent ∧ loop.Unseated event.source) :
    (loop.apply conduct change).Coherent := by
  cases change with
  | add event mask =>
    obtain ⟨absent, unseated⟩ := handed event (List.mem_singleton_self _)
    exact addEvent_coherent conduct coherent absent unseated mask
  | rearm target mask =>
    simp only [apply]
    split
    · exact rearm_coherent conduct coherent target.handle mask
    · exact coherent
  | remove target =>
    simp only [apply]
    split
    · exact removeEvent_coherent conduct coherent target.handle
    · exact coherent
  | schedule target delay =>
    simp only [apply]
    split
    · split
      · exact (schedule_still conduct loop delay _).coherent coherent
      · exact coherent
    · exact coherent
  | timer callback interval delayed repeats =>
    exact (schedule_still conduct loop _ _).coherent coherent

end Loop
end EventLoop
