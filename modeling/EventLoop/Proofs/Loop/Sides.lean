import EventLoop.Proofs.Loop.Marks
import EventLoop.Proofs.Loop.Neighbours

/-! One side of a loop. Handles are parted in two, and sources with them, so that whoever stands at
a handle of this side is watched through a source of this side. If sources answer by what they have
gone through themselves, a change that concerns a handle of the other side makes no difference on
this one, and a change that concerns a handle of this side comes out by what there is on this side,
whatever there is on the other. -/
namespace EventLoop

open scoped List

variable {B C W P : Type}

/-- Sources keep to themselves: `past` is what a world holds of each. What a source answers to a
call, and what it has gone through then, goes by that call and by what it had gone through before;
nobody else's calls are part of that, nor readings of the clock. -/
structure Conduct.Separate (conduct : Conduct B C W) (past : W → Source → P) : Prop where
  answer : ∀ call event world other, past world event.source = past other event.source →
    (conduct.call call event world).1 = (conduct.call call event other).1
  called : ∀ call event world other, past world event.source = past other event.source →
    past (conduct.call call event world).2 event.source =
      past (conduct.call call event other).2 event.source
  ended : ∀ event world other, past world event.source = past other event.source →
    past (conduct.destroy event world) event.source =
      past (conduct.destroy event other) event.source
  uncalled : ∀ call event world source, source ≠ event.source →
    past (conduct.call call event world).2 source = past world source
  unended : ∀ event world source, source ≠ event.source →
    past (conduct.destroy event world) source = past world source
  clock : ∀ world source, past (conduct.clock world).2 source = past world source

/-- The handle of whoever an alarm is for. A callback's alarm is for nobody. -/
def Alarm.handle? : Alarm C → Option Handle
  | .event handle _ => some handle
  | .callback .. => none

/-- Some of the handles and some of the sources. What concerns no handle, as a callback's alarm
does, is on this side or on the other like a handle. -/
structure Side where
  keys : Option Handle → Bool
  sources : Source → Bool

/-- Handle and source of an object are both on this side, or both on the other. -/
structure Side.Puts (side : Side) (here : Bool) (event : Event B) : Prop where
  handle : side.keys (some event.handle) = here
  source : side.sources event.source = here

private theorem Side.other {side : Side} {handle another : Handle}
    (away : side.keys (some handle) = false) (here : side.keys (some another) = true) :
    another ≠ handle :=
  fun same => Bool.false_ne_true (away.symm.trans (same ▸ here))

private theorem Side.apart {side : Side} {source another : Source}
    (away : side.sources source = false) (here : side.sources another = true) : another ≠ source :=
  fun same => Bool.false_ne_true (away.symm.trans (same ▸ here))

/-! ## Registrations -/

namespace Selector

variable {conduct : Conduct B C W} {past : W → Source → P} {mask : Interest}
  {event acting : Event B} {world other : W} {selector another : Selector} {call : SourceCall}
  {first second : Registered B W}

private theorem Fit.source (fit : Fit mask event call acting) : acting.source = event.source := by
  have calls := fit.calls
  unfold Event.registration? at calls
  split at calls
  · cases calls
    rfl
  · cases calls
    rfl
  · cases calls

/-- A registration calls one source only. -/
theorem Admission.elsewhere {source : Source} (separate : conduct.Separate past)
    (admission : Admission conduct mask event world selector first)
    (apart : source ≠ event.source) : past first.world source = past world source := by
  have uncalled {call : SourceCall} {acting : Event B} {refusal : Option Trouble} {late : W}
      (fit : Fit mask event call acting)
      (called : conduct.call call acting world = (refusal, late)) :
      past late source = past world source := by
    have kept := separate.uncalled call acting world source (fit.source ▸ apart)
    rwa [called] at kept
  cases admission with
  | unfit unfit => rfl
  | refused fit called => exact uncalled fit called
  | done fit called => exact uncalled fit called

/-- Two registrations come out alike: both fail for one reason, or both are done. -/
inductive Alike (conduct : Conduct B C W) (mask : Interest) (event : Event B)
    (selector another : Selector) : Registered B W → Registered B W → Prop where
  | failed (fault : Fault) (late later : W) :
      Alike conduct mask event selector another ⟨.error fault, event, selector, late⟩
        ⟨.error fault, event, another, later⟩
  | done (late later : W) :
      Alike conduct mask event selector another
        ⟨.ok (), { event with standing := .added },
          selector.watch conduct event mask mask.wanted late, late⟩
        ⟨.ok (), { event with standing := .added },
          another.watch conduct event mask mask.wanted later, later⟩

/-- **What comes of a registration goes by the source's past.** -/
theorem Admission.alike (separate : conduct.Separate past)
    (one : Admission conduct mask event world selector first)
    (two : Admission conduct mask event other another second)
    (same : past world event.source = past other event.source) :
    Alike conduct mask event selector another first second ∧
      past first.world event.source = past second.world event.source := by
  have agree {call : SourceCall} {acting : Event B} {refusal : Option Trouble} {late : W}
      {call' : SourceCall} {acting' : Event B} {refusal' : Option Trouble} {late' : W}
      (fit : Fit mask event call acting) (fit' : Fit mask event call' acting')
      (called : conduct.call call acting world = (refusal, late))
      (called' : conduct.call call' acting' other = (refusal', late')) :
      refusal = refusal' ∧ past late event.source = past late' event.source := by
    cases fit.calls.symm.trans fit'.calls
    rw [← fit.source] at same ⊢
    have answers := separate.answer call acting world other same
    have moved := separate.called call acting world other same
    rw [called, called'] at answers moved
    exact ⟨answers, moved⟩
  cases one with
  | unfit unfit =>
    cases two with
    | unfit also =>
      cases unfit.unique also
      exact ⟨.failed _ _ _, same⟩
    | refused fit _ => exact (unfit.not_fit fit).elim
    | done fit _ => exact (unfit.not_fit fit).elim
  | refused fit called =>
    cases two with
    | unfit unfit => exact (unfit.not_fit fit).elim
    | refused also calledToo =>
      obtain ⟨answers, moved⟩ := agree fit also called calledToo
      cases answers
      exact ⟨.failed _ _ _, moved⟩
    | done also calledToo => cases (agree fit also called calledToo).1
  | done fit called =>
    cases two with
    | unfit unfit => exact (unfit.not_fit fit).elim
    | refused also calledToo => cases (agree fit also called calledToo).1
    | done also calledToo => exact ⟨.done _ _, (agree fit also called calledToo).2⟩

/-- Taking an object off the poller calls one source only. -/
theorem Dismissal.elsewhere {source : Source} (separate : conduct.Separate past)
    {gone : Event B × Selector × W} (dismissal : Dismissal conduct event world selector gone)
    (apart : source ≠ event.source) : past gone.2.2 source = past world source := by
  cases dismissal with
  | idle standing => rfl
  | asked added called =>
    have kept := separate.uncalled .deregister { event with standing := .absent } world source apart
    rwa [called] at kept

/-- Two objects are taken off the poller alike. -/
structure Left (past : W → Source → P) (event : Event B) (selector another : Selector)
    (first second : Event B × Selector × W) : Prop where
  object : first.1 = second.1
  watched : ∀ source,
    selector.poller.watched.get? source = another.poller.watched.get? source →
    first.2.1.poller.watched.get? source = second.2.1.poller.watched.get? source
  past : past first.2.2 event.source = past second.2.2 event.source

/-- **How an object is taken off the poller goes by its source's past.** -/
theorem Dismissal.alike (separate : conduct.Separate past)
    {first second : Event B × Selector × W}
    (one : Dismissal conduct event world selector first)
    (two : Dismissal conduct event other another second)
    (same : past world event.source = past other event.source) :
    Left past event selector another first second := by
  cases one with
  | idle standing =>
    cases two with
    | idle _ => exact ⟨rfl, fun _ => id, same⟩
    | asked added _ => exact absurd added standing
  | asked added called =>
    cases two with
    | idle standing => exact absurd added standing
    | asked _ calledToo =>
      have answers :=
        separate.answer .deregister { event with standing := .absent } world other same
      have moved :=
        separate.called .deregister { event with standing := .absent } world other same
      rw [called, calledToo] at answers moved
      cases answers
      refine ⟨rfl, fun source before => ?_, moved⟩
      simp only
      split
      · simp only [Poller.forget, Keyed.get?_erase, before]
      · exact before

end Selector

namespace Loop

/-- Everybody that is pending on the agenda, whenever it falls due. -/
def targets (loop : Loop B C W) : List (Alarm C) := loop.agenda.entries.map Prod.snd

/-- Two loops are alike on one side: there the same objects stand at the same handles, the same
handles listen, sources are watched for the same and have gone through the same, and the same is
pending. -/
structure Alike (side : Side) (past : W → Source → P) (one two : Loop B C W) : Prop where
  owners : ∀ handle, side.keys (some handle) = true → one.lookup handle = two.lookup handle
  listens : ∀ handle, side.keys (some handle) = true →
    one.selector.isListener handle = two.selector.isListener handle
  watching : ∀ source, side.sources source = true → one.watching? source = two.watching? source
  past : ∀ source, side.sources source = true → past one.world source = past two.world source
  targets : one.targets.filter (side.keys ·.handle?) ~ two.targets.filter (side.keys ·.handle?)

/-- Everybody in the table stands at its own handle, on the side of its source. -/
structure Parted (side : Side) (loop : Loop B C W) : Prop where
  filed : loop.Filed
  puts : ∀ handle owner, loop.lookup handle = some owner →
    side.Puts (side.keys (some handle)) owner

variable {side : Side} {past : W → Source → P} {conduct : Conduct B C W}
  {one two three loop : Loop B C W} {event owner : Event B} {mask : Interest} {handle : Handle}

namespace Alike

theorem refl (side : Side) (past : W → Source → P) (loop : Loop B C W) :
    Alike side past loop loop :=
  ⟨fun _ _ => rfl, fun _ _ => rfl, fun _ _ => rfl, fun _ _ => rfl, .refl _⟩

theorem symm (alike : Alike side past one two) : Alike side past two one :=
  ⟨fun handle here => (alike.owners handle here).symm,
    fun handle here => (alike.listens handle here).symm,
    fun source here => (alike.watching source here).symm,
    fun source here => (alike.past source here).symm, alike.targets.symm⟩

theorem trans (first : Alike side past one two) (second : Alike side past two three) :
    Alike side past one three :=
  ⟨fun handle here => (first.owners handle here).trans (second.owners handle here),
    fun handle here => (first.listens handle here).trans (second.listens handle here),
    fun source here => (first.watching source here).trans (second.watching source here),
    fun source here => (first.past source here).trans (second.past source here),
    first.targets.trans second.targets⟩

end Alike

private theorem targets_schedule (conduct : Conduct B C W) (delay : Nat) (alarm : Alarm C)
    (loop : Loop B C W) : (loop.schedule conduct delay alarm).targets ~ alarm :: loop.targets :=
  (Agenda.place_perm _ alarm loop.agenda.entries).map Prod.snd

/-! ## The other side -/

/-- Writing to the table where a handle of the other side stands. -/
theorem table_aside {table : Keyed Handle (Event B)}
    (kept : ∀ handle, side.keys (some handle) = true → table.get? handle = loop.lookup handle) :
    Alike side past loop { loop with table } :=
  ⟨fun handle here => (kept handle here).symm, fun _ _ => rfl, fun _ _ => rfl, fun _ _ => rfl,
    .refl _⟩

section Aside

variable (separate : conduct.Separate past)

include separate

private theorem schedule_aside {alarm : Alarm C} (away : side.keys alarm.handle? = false)
    (delay : Nat) :
    Alike side past loop (loop.schedule conduct delay alarm) := by
  refine ⟨fun _ _ => rfl, fun _ _ => rfl, fun _ _ => rfl,
    fun source _ => (separate.clock loop.world source).symm, ?_⟩
  have scheduled := (targets_schedule conduct delay alarm loop).filter (side.keys ·.handle?)
  rw [List.filter_cons, away] at scheduled
  exact scheduled.symm

private theorem destroy_aside (away : side.sources event.source = false) :
    Alike side past loop (loop.destroy conduct event) := by
  refine ⟨fun _ _ => rfl, fun _ _ => rfl, fun source here => ?_,
    fun source here => (separate.unended event loop.world source (Side.apart away here)).symm,
    .refl _⟩
  exact ((loop.selector.poller.watched.get?_erase event.source source).trans
    (if_neg (Side.apart away here))).symm

private theorem registerOwned_aside (away : side.Puts false event) (mask : Interest) :
    Alike side past loop (loop.registerOwned conduct event mask).2 := by
  have other {handle : Handle} (here : side.keys (some handle) = true) : handle ≠ event.handle :=
    Side.other away.handle here
  have apart {source : Source} (here : side.sources source = true) : source ≠ event.source :=
    Side.apart away.source here
  have admission := Selector.register_admission conduct mask event loop.world loop.selector
  have elsewhere (source : Source) (here : side.sources source = true) :=
    (admission.elsewhere separate (apart here)).symm
  unfold registerOwned
  generalize loop.selector.register conduct mask event loop.world = registered
    at admission elsewhere ⊢
  have owners (handle : Handle) (here : side.keys (some handle) = true) :
      loop.lookup handle = (loop.table.insert event.handle registered.event).get? handle :=
    ((loop.table.get?_insert event.handle handle _).trans (if_neg (other here))).symm
  cases admission with
  | unfit unfit => exact ⟨owners, fun _ _ => rfl, fun _ _ => rfl, elsewhere, .refl _⟩
  | refused fit called => exact ⟨owners, fun _ _ => rfl, fun _ _ => rfl, elsewhere, .refl _⟩
  | done fit called =>
    refine ⟨owners, fun handle here => ?_, fun source here => ?_, elsewhere, .refl _⟩
    · exact (isListener_watch conduct event mask _ _ loop.selector (other here)).symm
    · exact ((get?_watch conduct event mask _ _ loop.selector source).trans
        (if_neg (apart here))).symm

private theorem settle_aside (away : side.Puts false event) (mask : Interest) :
    Alike side past loop (loop.settle conduct event mask).2 :=
  settle_induction conduct (fun _ => .refl side past loop)
    (fun _ => registerOwned_aside separate away _)
    fun _ registered => registered.trans (schedule_aside separate away.handle _)

private theorem addEvent_aside (parted : Parted side loop) (away : side.Puts false event)
    (mask : Interest) : Alike side past loop (loop.addEvent conduct event mask).2 := by
  have entered : Alike side past loop (loop.enter event) :=
    table_aside fun handle here =>
      (loop.table.get?_insert event.handle handle event).trans
        (if_neg (Side.other away.handle here))
  have settled := entered.trans (settle_aside separate away mask)
  have reception := addEvent_reception conduct loop event mask
  generalize loop.addEvent conduct event mask = reached at reception ⊢
  cases reception with
  | pointless empty => exact destroy_aside separate away.source
  | @joined owner wishes found =>
    have puts := parted.puts event.handle owner found
    rw [away.handle] at puts
    exact (settle_aside separate puts mask).trans (destroy_aside separate away.source)
  | kept wishes free done => exact settled
  | refused wishes free failed stands =>
    have left (late : Loop B C W) : Alike side past late (late.vacate event.handle) :=
      table_aside fun handle here =>
        (late.table.get?_erase event.handle handle).trans (if_neg (Side.other away.handle here))
    exact settled.trans ((left _).trans (destroy_aside separate away.source))

private theorem removeEvent_aside (parted : Parted side loop)
    (away : side.keys (some handle) = false) :
    Alike side past loop (loop.removeEvent conduct handle).2 := by
  unfold removeEvent
  cases found : loop.lookup handle with
  | none => exact .refl side past loop
  | some owner =>
    have puts := parted.puts handle owner found
    rw [away] at puts
    obtain ⟨same, watched⟩ := unregister_source conduct owner loop.world loop.selector
    have marks := unregister_listeners conduct owner loop.world loop.selector
    have elsewhere {source : Source} (apart : source ≠ owner.source) :=
      (Selector.unregister_dismissal conduct owner loop.world loop.selector).elsewhere separate
        apart
    simp only
    generalize loop.selector.unregister conduct owner loop.world = gone at *
    obtain ⟨left, selector, world⟩ := gone
    have apart {source : Source} (here : side.sources source = true) : source ≠ owner.source :=
      Side.apart puts.source here
    have taken : Alike side past loop
        { loop with table := loop.table.erase handle
                    selector := selector.forgetListener handle
                    world } := by
      refine ⟨fun probe here => ?_, fun probe here => ?_, fun source here => ?_,
        fun source here => (elsewhere (apart here)).symm, .refl _⟩
      · exact ((loop.table.get?_erase handle probe).trans (if_neg (Side.other away here))).symm
      · have forgotten := isListener_forgetListener handle probe selector
        rw [decide_eq_true (Side.other away here), Bool.true_and] at forgotten
        exact (forgotten.trans (congrArg (List.contains · probe) marks)).symm
      · exact (watched source (apart here)).symm
    refine taken.trans (destroy_aside separate ?_)
    rw [same]
    exact puts.source

/-- **A change of the other side makes no difference on this one.** -/
theorem apply_aside (parted : Parted side loop) {change : Change B C}
    (away : side.keys (handleOf change) = false)
    (puts : ∀ event ∈ eventsIn [change], side.Puts (side.keys (some event.handle)) event) :
    Alike side past loop (loop.apply conduct change) := by
  cases change with
  | add event mask =>
    have put := puts event (List.mem_singleton_self _)
    rw [show side.keys (some event.handle) = false from away] at put
    exact addEvent_aside separate parted put mask
  | rearm target mask =>
    simp only [apply]
    split
    · unfold rearm
      cases found : loop.lookup target.handle with
      | none => exact .refl side past loop
      | some owner =>
        have put := parted.puts target.handle owner found
        rw [show side.keys (some target.handle) = false from away] at put
        exact registerOwned_aside separate put mask
    · exact .refl side past loop
  | remove target =>
    simp only [apply]
    split
    · exact removeEvent_aside separate parted away
    · exact .refl side past loop
  | schedule target delay =>
    simp only [apply]
    split
    · split
      · exact schedule_aside separate away delay
      · exact .refl side past loop
    · exact .refl side past loop
  | timer callback interval delayed repeats => exact schedule_aside separate away _

end Aside

/-! ## This side -/

/-- Two steps tell the same and lead to loops that are alike. -/
def Agree {α : Type} (side : Side) (past : W → Source → P) (first second : α × Loop B C W) : Prop :=
  first.1 = second.1 ∧ Alike side past first.2 second.2

/-- Writing the same to both tables. -/
theorem table_alike {first second : Keyed Handle (Event B)} (alike : Alike side past one two)
    (written : ∀ handle, one.table.get? handle = two.table.get? handle →
      first.get? handle = second.get? handle) :
    Alike side past { one with table := first } { two with table := second } :=
  ⟨fun handle here => written handle (alike.owners handle here), alike.listens, alike.watching,
    alike.past, alike.targets⟩

section Alike

variable (separate : conduct.Separate past) (alike : Alike side past one two)

include separate alike

private theorem schedule_alike (delay later : Nat) (alarm : Alarm C) :
    Alike side past (one.schedule conduct delay alarm) (two.schedule conduct later alarm) := by
  refine ⟨alike.owners, alike.listens, alike.watching, fun source here => ?_, ?_⟩
  · exact (separate.clock one.world source).trans
      ((alike.past source here).trans (separate.clock two.world source).symm)
  · have first := (targets_schedule conduct delay alarm one).filter (side.keys ·.handle?)
    have second := (targets_schedule conduct later alarm two).filter (side.keys ·.handle?)
    refine first.trans (.trans ?_ second.symm)
    simp only [List.filter_cons]
    split
    · exact alike.targets.cons alarm
    · exact alike.targets

private theorem destroy_alike (event : Event B) :
    Alike side past (one.destroy conduct event) (two.destroy conduct event) := by
  refine ⟨alike.owners, alike.listens, fun source here => ?_, fun source here => ?_,
    alike.targets⟩
  · have before := alike.watching source here
    simp only [watching?, destroy, Poller.forget, Keyed.get?_erase] at before ⊢
    rw [before]
  · by_cases own : source = event.source
    · subst own
      exact separate.ended event one.world two.world (alike.past _ here)
    · exact (separate.unended event one.world source own).trans
        ((alike.past source here).trans (separate.unended event two.world source own).symm)

private theorem registerOwned_alike (own : side.Puts true event) (mask : Interest) :
    Agree side past (one.registerOwned conduct event mask)
      (two.registerOwned conduct event mask) := by
  have first := Selector.register_admission conduct mask event one.world one.selector
  have second := Selector.register_admission conduct mask event two.world two.selector
  obtain ⟨same, moved⟩ := first.alike separate second (alike.past event.source own.source)
  have past (source : Source) (here : side.sources source = true) :
      past (one.selector.register conduct mask event one.world).world source =
        past (two.selector.register conduct mask event two.world).world source := by
    by_cases own : source = event.source
    · exact own ▸ moved
    · exact (first.elsewhere separate own).trans
        ((alike.past source here).trans (second.elsewhere separate own).symm)
  unfold registerOwned
  generalize one.selector.register conduct mask event one.world = registered at same past ⊢
  generalize two.selector.register conduct mask event two.world = matching at same past ⊢
  have owners (object : Event B) (handle : Handle) (here : side.keys (some handle) = true) :
      (one.table.insert event.handle object).get? handle =
        (two.table.insert event.handle object).get? handle := by
    have before := alike.owners handle here
    simp only [lookup] at before
    simp only [Keyed.get?_insert, before]
  cases same with
  | failed fault late later =>
    exact ⟨rfl, owners event, alike.listens, alike.watching, past, alike.targets⟩
  | done late later =>
    refine ⟨rfl, owners _, fun handle here => ?_, fun source here => ?_, past, alike.targets⟩
    · have before := alike.listens handle here
      by_cases own : handle = event.handle
      · subst own
        simp only [isListener_watch_self, before]
      · simp only [isListener_watch _ _ _ _ _ _ own, before]
    · have before := alike.watching source here
      simp only [watching?, get?_watch] at before ⊢
      rw [before]

private theorem settle_alike (own : side.Puts true event) (mask : Interest) :
    Agree side past (one.settle conduct event mask) (two.settle conduct event mask) := by
  have registered : Agree side past (one.registerRest conduct event mask)
      (two.registerRest conduct event mask) := by
    unfold registerRest
    split
    · exact ⟨rfl, alike⟩
    · exact registerOwned_alike separate alike own _
  rw [settle, settle]
  generalize one.registerRest conduct event mask = first at registered ⊢
  generalize two.registerRest conduct event mask = second at registered ⊢
  obtain ⟨outcome, late⟩ := first
  obtain ⟨_, later⟩ := second
  obtain ⟨rfl, alike⟩ := registered
  cases outcome with
  | error fault => exact ⟨rfl, alike⟩
  | ok _ =>
    simp only [alarmed]
    split
    · exact ⟨rfl, schedule_alike separate alike _ _ _⟩
    · exact ⟨rfl, alike⟩

private theorem addEvent_alike (parted : Parted side one) (own : side.Puts true event)
    (mask : Interest) :
    Agree side past (one.addEvent conduct event mask) (two.addEvent conduct event mask) := by
  have owner := alike.owners event.handle own.handle
  unfold addEvent
  split
  · exact ⟨rfl, destroy_alike separate alike event⟩
  · rw [← owner]
    cases found : one.lookup event.handle with
    | some owner =>
      have puts := parted.puts event.handle owner found
      rw [own.handle] at puts
      obtain ⟨same, settled⟩ := settle_alike separate alike puts mask
      exact ⟨same, destroy_alike separate settled event⟩
    | none =>
      have entered : Alike side past
          { one with table := one.table.insert event.handle event }
          { two with table := two.table.insert event.handle event } :=
        table_alike alike fun handle before => by simp only [Keyed.get?_insert, before]
      have settled := settle_alike separate entered own mask
      simp only
      generalize ({ one with table := one.table.insert event.handle event }).settle conduct event
        mask = first at settled ⊢
      generalize ({ two with table := two.table.insert event.handle event }).settle conduct event
        mask = second at settled ⊢
      obtain ⟨outcome, late⟩ := first
      obtain ⟨_, later⟩ := second
      obtain ⟨rfl, settled⟩ := settled
      cases outcome with
      | ok _ => exact ⟨rfl, settled⟩
      | error fault =>
        have erased : Alike side past
            { late with table := late.table.erase event.handle }
            { later with table := later.table.erase event.handle } :=
          table_alike settled fun handle before => by simp only [Keyed.get?_erase, before]
        have kept := settled.owners event.handle own.handle
        simp only at kept ⊢
        rw [kept]
        exact ⟨rfl, destroy_alike separate erased _⟩

private theorem rearm_alike (parted : Parted side one) (here : side.keys (some handle) = true)
    (mask : Interest) :
    Agree side past (one.rearm conduct handle mask) (two.rearm conduct handle mask) := by
  unfold rearm
  rw [← alike.owners handle here]
  cases found : one.lookup handle with
  | none => exact ⟨rfl, alike⟩
  | some owner =>
    have puts := parted.puts handle owner found
    rw [here] at puts
    exact registerOwned_alike separate alike puts mask

private theorem removeEvent_alike (parted : Parted side one)
    (here : side.keys (some handle) = true) :
    Agree side past (one.removeEvent conduct handle) (two.removeEvent conduct handle) := by
  unfold removeEvent
  rw [← alike.owners handle here]
  cases found : one.lookup handle with
  | none => exact ⟨rfl, alike⟩
  | some owner =>
    have puts := parted.puts handle owner found
    rw [here] at puts
    have first := Selector.unregister_dismissal conduct owner one.world one.selector
    have second := Selector.unregister_dismissal conduct owner two.world two.selector
    have left := first.alike separate second (alike.past owner.source puts.source)
    have moved (source : Source) (own : side.sources source = true) :
        past (one.selector.unregister conduct owner one.world).2.2 source =
          past (two.selector.unregister conduct owner two.world).2.2 source := by
      by_cases same : source = owner.source
      · exact same ▸ left.past
      · exact (first.elsewhere separate same).trans
          ((alike.past source own).trans (second.elsewhere separate same).symm)
    have marks := unregister_listeners conduct owner one.world one.selector
    have marksToo := unregister_listeners conduct owner two.world two.selector
    simp only
    generalize one.selector.unregister conduct owner one.world = gone at left moved marks ⊢
    generalize two.selector.unregister conduct owner two.world = lost at left moved marksToo ⊢
    obtain ⟨object, selector, world⟩ := gone
    obtain ⟨_, another, other⟩ := lost
    obtain ⟨rfl, watched, _⟩ := left
    have taken : Alike side past
        { one with table := one.table.erase handle
                   selector := selector.forgetListener handle
                   world }
        { two with table := two.table.erase handle
                   selector := another.forgetListener handle
                   world := other } := by
      refine ⟨fun probe own => ?_, fun probe own => ?_,
        fun source own => watched source (alike.watching source own), moved, alike.targets⟩
      · have before := alike.owners probe own
        simp only [lookup, Keyed.get?_erase] at before ⊢
        rw [before]
      · have before := alike.listens probe own
        simp only at marks marksToo ⊢
        rw [isListener_forgetListener, isListener_forgetListener]
        unfold Selector.isListener at before ⊢
        rw [marks, marksToo, before]
    exact ⟨rfl, destroy_alike separate taken object⟩

/-- **A change of this side comes out by what there is on this side.** -/
theorem apply_alike (parted : Parted side one) {change : Change B C}
    (here : side.keys (handleOf change) = true)
    (puts : ∀ event ∈ eventsIn [change], side.Puts (side.keys (some event.handle)) event) :
    Alike side past (one.apply conduct change) (two.apply conduct change) := by
  have owns (target : Target) (own : side.keys (some target.handle) = true) :
      one.owns target = two.owns target := by
    unfold owns
    rw [alike.owners target.handle own]
  cases change with
  | add event mask =>
    have put := puts event (List.mem_singleton_self _)
    rw [show side.keys (some event.handle) = true from here] at put
    exact (addEvent_alike separate alike parted put mask).2
  | rearm target mask =>
    simp only [apply, ← owns target here]
    split
    · exact (rearm_alike separate alike parted here mask).2
    · exact alike
  | remove target =>
    simp only [apply, ← owns target here]
    split
    · exact (removeEvent_alike separate alike parted here).2
    · exact alike
  | schedule target delay =>
    simp only [apply, ← owns target here, ← alike.owners target.handle here]
    split
    · split
      · exact schedule_alike separate alike _ _ _
      · exact alike
    · exact alike
  | timer callback interval delayed repeats => exact schedule_alike separate alike _ _ _

end Alike

/-! ## Changes in a row -/

/-- Whoever stands in the table goes on standing on the side of its source. -/
theorem Parted.apply (parted : Parted side loop) (change : Change B C)
    (puts : ∀ event ∈ eventsIn [change], side.Puts (side.keys (some event.handle)) event) :
    Parted side (loop.apply conduct change) := by
  obtain ⟨ended, conserves⟩ := apply_conserves conduct parted.filed change
  have filed : (loop.apply conduct change).Filed :=
    (accounts_apply conduct parted.filed change).filed
  refine ⟨filed, fun handle owner found => ?_⟩
  obtain ⟨before, same, came⟩ := conserves.came parted.filed filed found
  have own : before.handle = handle := (congrArg Event.handle same).trans (filed handle owner found)
  have puts : side.Puts (side.keys (some handle)) before := by
    rcases came with there | brought
    · exact parted.puts handle before there
    · exact own ▸ puts before brought
  exact ⟨by rw [filed handle owner found],
    (congrArg (side.sources ·.source) same).symm.trans puts.source⟩

/-- **On one side it only matters what is changed on that side.** -/
theorem applyAll_alike (separate : conduct.Separate past) (alike : Alike side past one two)
    (parted : Parted side one) (partedToo : Parted side two) (changes : List (Change B C))
    (puts : ∀ event ∈ eventsIn changes, side.Puts (side.keys (some event.handle)) event) :
    Alike side past (changes.foldl (Loop.apply conduct) one)
      ((changes.filter (side.keys <| handleOf ·)).foldl (Loop.apply conduct) two) := by
  induction changes generalizing one two with
  | nil => exact alike
  | cons change rest ih =>
    have split : eventsIn (change :: rest) = eventsIn [change] ++ eventsIn rest :=
      eventsIn_append [change] rest
    rw [split] at puts
    have first := fun event inside => puts event (List.mem_append_left _ inside)
    have others := fun event inside => puts event (List.mem_append_right _ inside)
    rw [List.foldl_cons, List.filter_cons]
    cases here : side.keys (handleOf change) with
    | true =>
      exact ih (apply_alike separate alike parted here first) (parted.apply change first)
        (partedToo.apply change first) others
    | false =>
      exact ih ((apply_aside separate parted here first).symm.trans alike)
        (parted.apply change first) partedToo others

end Loop

end EventLoop
