import EventLoop.Proofs.Loop.Changes

/-! Who is still to be added comes as a stranger: nobody at home has its handle or
its source, and no two who come together share either. As long as objects come
so, no two owners ever share a source, and no addition takes up the place of
another owner. Applying what is ahead keeps this, change by change. -/
namespace EventLoop

variable {B C W : Type}

/-! ## What is ahead -/

/-- What a stage has still to apply. -/
def Stage.ahead : Stage B C → List (Change B C)
  | .applying pending _ => pending
  | _ => []

/-- What a loop has still to apply on its own account: what was asked for in its
turn, and what its thread has yet to come to of that. -/
def Site.ahead (site : Site B C W) : List (Change B C) :=
  site.loop.changes.pending ++ site.stage.ahead

namespace Loop

private theorem eventsIn_cons_add (event : Event B) (mask : Interest) (rest : List (Change B C)) :
    eventsIn (.add event mask :: rest) = event :: eventsIn rest := rfl

theorem eventsIn_cons_other {change : Change B C} (other : sourceOf change = none)
    (rest : List (Change B C)) : eventsIn (change :: rest) = eventsIn rest := by
  cases change with
  | add event mask => cases other
  | rearm target mask => rfl
  | remove target => rfl
  | schedule target delay => rfl
  | timer callback interval delayed repeats => rfl

theorem eventsIn_append (changes more : List (Change B C)) :
    eventsIn (changes ++ more) = eventsIn changes ++ eventsIn more := List.filterMap_append

theorem eventsIn_cons (change : Change B C) (rest : List (Change B C)) :
    eventsIn (change :: rest) = eventsIn [change] ++ eventsIn rest := eventsIn_append [change] rest

theorem eventsIn_append_others {requests : List (Request B)}
    (others : ∀ request ∈ requests, sourceOf (request.change : Change B C) = none)
    (ahead : List (Change B C)) :
    eventsIn (ahead ++ requests.map Request.change) = eventsIn ahead := by
  have none : eventsIn (requests.map (Request.change : Request B → Change B C)) = [] := by
    induction requests with
    | nil => rfl
    | cons request requests ih =>
      rw [List.map_cons, eventsIn_cons_other (others request List.mem_cons_self)]
      exact ih fun other inside => others other (List.mem_cons_of_mem request inside)
  rw [eventsIn, List.filterMap_append]
  exact (congrArg (eventsIn ahead ++ ·) none).trans (List.append_nil _)

/-! ## Strangers -/

/-- Objects that come as strangers to a loop and to each other. -/
structure Strangers (loop : Loop B C W) (events : List (Event B)) : Prop where
  distinct : events.Pairwise fun event other =>
    event.handle ≠ other.handle ∧ event.source ≠ other.source
  unowned : ∀ event ∈ events, loop.seat? event.handle = none
  unseated : ∀ event ∈ events, ∀ handle, loop.seat? handle ≠ some event.source

/-- A loop in which every object stands under its own handle, no two share a
source, and who is still to be added comes as a stranger. -/
structure Tidy (loop : Loop B C W) (ahead : List (Change B C)) : Prop where
  filed : loop.Filed
  apart : ∀ handle other source,
    loop.seat? handle = some source → loop.seat? other = some source → handle = other
  strangers : loop.Strangers (eventsIn ahead)

theorem seat?_eq_none {handle : Handle} {loop : Loop B C W} :
    loop.seat? handle = none ↔ loop.lookup handle = none :=
  Option.map_eq_none_iff

private theorem Strangers.of_seats {early late : Loop B C W} {events : List (Event B)}
    (strangers : early.Strangers events)
    (seats : ∀ handle, late.seat? handle = early.seat? handle) : late.Strangers events := by
  refine ⟨strangers.distinct, ?_, ?_⟩
  · intro event inside
    rw [seats]
    exact strangers.unowned event inside
  · intro event inside handle
    rw [seats]
    exact strangers.unseated event inside handle

/-- It only matters who sits where. -/
theorem Tidy.of_seats {early late : Loop B C W} {ahead further : List (Change B C)}
    (tidy : early.Tidy ahead) (filed : late.Filed)
    (seats : ∀ handle, late.seat? handle = early.seat? handle)
    (strangers : early.Strangers (eventsIn further)) : late.Tidy further := by
  refine ⟨filed, fun handle other source here there => ?_, strangers.of_seats seats⟩
  rw [seats] at here there
  exact tidy.apart handle other source here there

/-- Taking up a reaction leaves everyone in place. -/
theorem Tidy.tookUp {early late : Loop B C W} {ahead further : List (Change B C)}
    {handle : Handle} {event : Event B} {body : B} (tidy : early.Tidy ahead)
    (found : early.lookup handle = some event)
    (owner : ∀ probe, late.lookup probe =
      if probe = handle then some { event with body } else early.lookup probe)
    (strangers : early.Strangers (eventsIn further)) : late.Tidy further := by
  refine tidy.of_seats ?_ ?_ strangers
  · intro probe resident standing
    rw [owner] at standing
    by_cases here : probe = handle
    · rw [if_pos here] at standing
      rw [← Option.some.inj standing, here]
      exact tidy.filed handle event found
    · rw [if_neg here] at standing
      exact tidy.filed probe resident standing
  · intro probe
    rw [seat?, seat?, owner]
    by_cases here : probe = handle
    · rw [if_pos here, here, found]
      rfl
    · rw [if_neg here]

/-- **A change that is applied leaves the rest strangers**, and no two owners with
one source. -/
theorem Tidy.apply (conduct : Conduct B C W) {loop : Loop B C W} {change : Change B C}
    {rest : List (Change B C)} (tidy : loop.Tidy (change :: rest)) :
    (loop.apply conduct change).Tidy rest := by
  have brought {handle : Handle} {source : Source} (concerns : handleOf change = some handle)
      (brings : sourceOf change = some source) :
      ∃ event mask, change = .add event mask ∧ event.handle = handle ∧ event.source = source := by
    cases change with
    | add event mask => exact ⟨event, mask, rfl, Option.some.inj concerns, Option.some.inj brings⟩
    | rearm target mask => cases brings
    | remove target => cases brings
    | schedule target delay => cases brings
    | timer callback interval delayed repeats => cases brings
  have unseated {source : Source} (brings : sourceOf change = some source) (handle : Handle) :
      loop.seat? handle ≠ some source := by
    cases change with
    | add event mask =>
      rw [← Option.some.inj brings]
      exact tidy.strangers.unseated event List.mem_cons_self handle
    | rearm target mask => cases brings
    | remove target => cases brings
    | schedule target delay => cases brings
    | timer callback interval delayed repeats => cases brings
  have further : (eventsIn rest).Sublist (eventsIn (change :: rest)) :=
    (List.sublist_cons_self change rest).filterMap _
  refine ⟨(accounts_apply conduct tidy.filed change).filed, ?_, ?_, ?_, ?_⟩
  · intro handle other source here there
    rcases apply_seat conduct tidy.filed change here with here | ⟨concerns, brings, _⟩
    · rcases apply_seat conduct tidy.filed change there with there | ⟨_, brings, _⟩
      · exact tidy.apart handle other source here there
      · exact absurd here (unseated brings handle)
    · rcases apply_seat conduct tidy.filed change there with there | ⟨concernsToo, _, _⟩
      · exact absurd there (unseated brings other)
      · exact Option.some.inj (concerns.symm.trans concernsToo)
  · exact tidy.strangers.distinct.sublist further
  · intro event inside
    cases seated : (loop.apply conduct change).seat? event.handle with
    | none => rfl
    | some source =>
      rcases apply_seat conduct tidy.filed change seated with before | ⟨concerns, brings, _⟩
      · have unowned := tidy.strangers.unowned event (further.mem inside)
        cases unowned.symm.trans before
      · obtain ⟨newcomer, mask, rfl, sameHandle, _⟩ := brought concerns brings
        have distinct := tidy.strangers.distinct
        rw [eventsIn_cons_add] at distinct
        exact absurd sameHandle ((List.pairwise_cons.1 distinct).1 event inside).1
  · intro event inside handle seated
    rcases apply_seat conduct tidy.filed change seated with before | ⟨concerns, brings, _⟩
    · exact tidy.strangers.unseated event (further.mem inside) handle before
    · obtain ⟨newcomer, mask, rfl, _, sameSource⟩ := brought concerns brings
      have distinct := tidy.strangers.distinct
      rw [eventsIn_cons_add] at distinct
      exact ((List.pairwise_cons.1 distinct).1 event inside).2 sameSource

end Loop

end EventLoop
