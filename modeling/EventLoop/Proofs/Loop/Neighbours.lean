import EventLoop.Proofs.Loop.Conservation
import EventLoop.Proofs.Loop.Registrations

/-! What is done to one owner is nothing to the others. A change that concerns one handle leaves
alone whoever stands at another: its place and all that it holds, what is watched of its source
and whether something has happened there, its mark, and its alarms. So does taking up what an
owner asks for. And whoever ends with a change was not the owner of another handle. -/
namespace EventLoop

open scoped List

variable {B C W : Type}

/-- Whether an alarm is for the owner of a handle. -/
def Alarm.isFor (handle : Handle) : Alarm C → Bool
  | .event other _ => other = handle
  | .callback .. => false

namespace Poller

variable {source : Source} {poller : Poller}

private theorem mem_enqueue {mark other : Mark} (apart : mark ≠ other) :
    mark ∈ (poller.enqueue other).queue ↔ mark ∈ poller.queue := by
  unfold enqueue
  split
  · exact Iff.rfl
  · simp [apart]

private theorem mem_watch {watched : Source} (apart : source ≠ watched) (token : Token)
    (wanted : Readiness) (level : Level) :
    .source source ∈ (poller.watch watched token wanted level).queue ↔
      .source source ∈ poller.queue := by
  unfold watch happened
  split
  · exact Iff.rfl
  · split
    · exact mem_enqueue fun same => apart (Mark.source.inj same)
    · exact Iff.rfl

private theorem mem_forget {forgotten : Source} (apart : source ≠ forgotten) :
    .source source ∈ (poller.forget forgotten).queue ↔ .source source ∈ poller.queue := by
  simp [forget, apart]

end Poller

/-- What is entered into an agenda is no matter to those who do not look for it. -/
theorem Agenda.filter_place {α : Type} {looks : Nat × α → Bool} {due : Nat} {item : α}
    (other : looks (due, item) = false) (entries : List (Nat × α)) :
    (place due item entries).filter looks = entries.filter looks := by
  induction entries with
  | nil => simp [place, other]
  | cons entry rest ih =>
    simp only [place]
    split
    · simp only [List.filter_cons, ih]
    · rw [List.filter_cons, other]
      rfl

namespace Loop

/-- The alarms on the agenda for whoever owns a handle, each with the moment it falls due. -/
def alarms (handle : Handle) (loop : Loop B C W) : List (Nat × Alarm C) :=
  loop.agenda.entries.filter fun entry => entry.2.isFor handle

/-- An owner is left alone: it stands where it stood and as it was, its source is watched as
before and is in the queue if it was there, its mark is as before, and so are its alarms. -/
structure Untouched (handle : Handle) (source : Source) (early late : Loop B C W) : Prop
    extends Spares handle source early late where
  roused : .source source ∈ late.selector.poller.queue ↔
    .source source ∈ early.selector.poller.queue
  listens : late.selector.isListener handle = early.selector.isListener handle
  alarms : late.alarms handle = early.alarms handle

variable {handle : Handle} {source : Source} {early middle late loop : Loop B C W}
  {conduct : Conduct B C W}

private theorem Untouched.refl (handle : Handle) (source : Source) (loop : Loop B C W) :
    Untouched handle source loop loop :=
  ⟨.refl handle source loop, Iff.rfl, rfl, rfl⟩

private theorem Untouched.trans (first : Untouched handle source early middle)
    (second : Untouched handle source middle late) : Untouched handle source early late :=
  ⟨first.toSpares.trans second.toSpares, second.roused.trans first.roused,
    second.listens.trans first.listens, second.alarms.trans first.alarms⟩

/-! ## Single operations -/

private theorem registerOwned_untouched {event : Event B}
    (elsewhere : Elsewhere handle source event)
    (mask : Interest) : Untouched handle source loop (loop.registerOwned conduct event mask).2 := by
  have spares : Spares handle source loop (loop.registerOwned conduct event mask).2 :=
    registerOwned_spares conduct elsewhere mask
  have outcome := Selector.register_outcome conduct mask event loop.world loop.selector
  unfold registerOwned at spares ⊢
  generalize loop.selector.register conduct mask event loop.world = registered at spares outcome ⊢
  cases outcome with
  | refused fault late => exact ⟨spares, Iff.rfl, rfl, rfl⟩
  | done wanted late =>
    refine ⟨spares, ?_, isListener_watch conduct event mask wanted late _ elsewhere.handle, rfl⟩
    simp only [Selector.watch, Selector.mark]
    split <;> exact Poller.mem_watch elsewhere.source _ _ _

private theorem schedule_untouched {alarm : Alarm C} (other : alarm.isFor handle = false)
    (delay : Nat) :
    Untouched handle source loop (loop.schedule conduct delay alarm) :=
  ⟨⟨rfl, rfl⟩, Iff.rfl, rfl, Agenda.filter_place other _⟩

/-- Taking an object off the poller is forgetting its source, unless the source refuses. -/
theorem unregister_poller (conduct : Conduct B C W) (event : Event B) (world : W)
    (selector : Selector) :
    (selector.unregister conduct event world).2.1.poller = selector.poller ∨
      (selector.unregister conduct event world).2.1.poller =
        selector.poller.forget event.source := by
  unfold Selector.unregister
  split
  · simp only
    split
    · exact .inr rfl
    · exact .inl rfl
  · exact .inl rfl

private theorem removeEvent_untouched {removed : Handle} (other : handle ≠ removed)
    (apart : ∀ owner, loop.lookup removed = some owner → source ≠ owner.source) :
    Untouched handle source loop (loop.removeEvent conduct removed).2 := by
  have spares : Spares handle source loop (loop.removeEvent conduct removed).2 :=
    removeEvent_spares conduct other apart
  unfold removeEvent at spares ⊢
  cases found : loop.lookup removed with
  | none => exact .refl handle source loop
  | some owner =>
    have same := (unregister_source conduct owner loop.world loop.selector).1
    have marks := unregister_listeners conduct owner loop.world loop.selector
    have poller := unregister_poller conduct owner loop.world loop.selector
    rw [found] at spares
    simp only at spares ⊢
    generalize loop.selector.unregister conduct owner loop.world = gone at *
    obtain ⟨left, selector, world⟩ := gone
    have away : source ≠ left.source := same ▸ apart owner found
    refine ⟨spares, (Poller.mem_forget away).trans ?_, ?_, rfl⟩
    · rcases poller with same | forgot
      · exact iff_of_eq (congrArg (.source source ∈ ·.queue) same)
      · exact (iff_of_eq (congrArg (.source source ∈ ·.queue) forgot)).trans
          (Poller.mem_forget (apart owner found))
    · have forgotten := isListener_forgetListener removed handle selector
      rw [decide_eq_true other, Bool.true_and] at forgotten
      refine forgotten.trans ?_
      unfold Selector.isListener
      rw [marks]

/-! ## Changes -/

/-- **A change leaves alone whoever it does not concern**, if it brings nobody. -/
theorem apply_untouched (filed : loop.Filed) {change : Change B C}
    (brings : sourceOf change = none) (other : handleOf change ≠ some handle)
    (apart : ∀ concerned owner, handleOf change = some concerned →
      loop.lookup concerned = some owner → source ≠ owner.source) :
    Untouched handle source loop (loop.apply conduct change) := by
  cases change with
  | add event mask => cases brings
  | rearm target mask =>
    simp only [apply]
    split
    · unfold rearm
      cases found : loop.lookup target.handle with
      | none => exact .refl handle source loop
      | some owner =>
        refine registerOwned_untouched ⟨fun same => other ?_, apart _ owner rfl found⟩ mask
        rw [same, filed _ _ found]
        rfl
    · exact .refl handle source loop
  | remove target =>
    simp only [apply]
    split
    · refine removeEvent_untouched (fun same => other ?_) fun owner found => apart _ owner rfl found
      rw [same]
      rfl
    · exact .refl handle source loop
  | schedule target delay =>
    have otherwise (generation : UInt64) :
        (.event target.handle generation : Alarm C).isFor handle = false :=
      decide_eq_false fun same => other (congrArg some same)
    simp only [apply]
    split
    · split
      · exact schedule_untouched (otherwise _) delay
      · exact .refl handle source loop
    · exact .refl handle source loop
  | timer callback interval delayed repeats => exact schedule_untouched rfl _

/-! ## Reactions -/

private theorem carryOut_untouched (alive : loop.alive = true) (order : Order B C) :
    Untouched handle source loop (loop.carryOut conduct order) := by
  have woken : .source source ∈ loop.wake.selector.poller.queue ↔
      .source source ∈ loop.selector.poller.queue := Poller.mem_enqueue Mark.noConfusion
  have spares (inbox : List (Change B C)) (stopped alive : Bool) :
      Spares handle source loop { loop with inbox, stopped, alive }.wake :=
    ⟨rfl, congrArg (Keyed.get? · source) (Poller.watched_enqueue .waker loop.selector.poller)⟩
  cases order with
  | stop => exact ⟨spares loop.inbox true loop.alive, woken, rfl, rfl⟩
  | wake => exact ⟨spares loop.inbox loop.stopped loop.alive, woken, rfl, rfl⟩
  | change change =>
    simp only [carryOut, submit, alive, ↓reduceIte]
    exact ⟨spares (loop.inbox ++ [change]) loop.stopped true, woken, rfl, rfl⟩

/-- **Taking up a reaction leaves everybody else alone.** -/
theorem takeUp_untouched (alive : loop.alive = true) {reacting : Handle}
    (other : handle ≠ reacting) (event : Event B) (reaction : Reaction B C W) :
    Untouched handle source loop (loop.takeUp conduct reacting event reaction) := by
  have ordered (orders : List (Order B C)) (loop : Loop B C W) (alive : loop.alive = true) :
      Untouched handle source loop (orders.foldl (carryOut conduct) loop) := by
    induction orders generalizing loop with
    | nil => exact .refl handle source loop
    | cons order orders ih =>
      exact (carryOut_untouched alive order).trans
        (ih _ ((carryOut_ordered conduct alive order).alive.trans alive))
  have rewritten : Untouched handle source loop
      { loop with
        table := loop.table.insert reacting { event with body := reaction.body }
        changes := reaction.requests.foldl Changes.request loop.changes
        world := reaction.world } :=
    ⟨⟨(lookup_insert reacting handle _).trans (if_neg other), rfl⟩, Iff.rfl, rfl, rfl⟩
  exact rewritten.trans (ordered reaction.orders _ alive)

/-! ## Ends -/

/-- Everybody in a table stands there once. -/
theorem Filed.distinct (filed : loop.Filed) : (loop.table.values.map Event.handle).Nodup := by
  have keys : loop.table.values.map Event.handle = loop.table.keys := by
    rw [Keyed.values, Keyed.keys, List.map_map]
    refine List.map_congr_left fun entry inside => ?_
    exact filed entry.1 entry.2 ((Keyed.get?_eq_some_iff _ _ _).2 inside)
  rw [keys]
  exact loop.table.distinct

/-- **Whoever has ended was the owner of another handle** than one that has kept its owner. -/
theorem Conserves.ended_elsewhere {ended : List (Event B)} {event : Event B}
    (conserves : Conserves conduct early [] ended late) (filed : early.Filed)
    (stays : late.lookup handle = early.lookup handle) (inside : event ∈ ended) :
    event.handle ≠ handle ∧
      ∃ resident, early.lookup event.handle = some resident ∧ resident.idle = event.idle := by
  have objects := conserves.objects
  rw [List.append_nil, List.map_append] at objects
  obtain ⟨resident, stood, same⟩ := List.mem_map.1
    (objects.mem_iff.1 (List.mem_append_right _ (List.mem_map_of_mem inside)))
  obtain ⟨⟨other, there⟩, entry, here⟩ := List.mem_map.1 stood
  obtain rfl : there = resident := here
  have found : early.lookup other = some there := (Keyed.get?_eq_some_iff _ _ _).2 entry
  have moved : there.idle.handle = event.idle.handle := congrArg Event.handle same
  have own : there.handle = other := filed _ _ found
  obtain rfl : other = event.handle := own.symm.trans moved
  refine ⟨fun concerned => ?_, there, found, same⟩
  have handles := objects.map Event.handle
  rw [List.map_append, List.map_map, List.map_map, List.map_map] at handles
  have distinct := handles.nodup_iff.2 filed.distinct
  have still : late.lookup handle = some there := stays.trans (concerned ▸ found)
  have kept : there.handle ∈ late.table.values.map (Event.handle ∘ Event.idle) :=
    List.mem_map_of_mem (Keyed.mem_values_of_get? still)
  have gone : event.handle ∈ ended.map (Event.handle ∘ Event.idle) := List.mem_map_of_mem inside
  exact (List.nodup_append.1 distinct).2.2 _ kept _ gone own

end Loop

end EventLoop
