import EventLoop.Selector

/-! What can come of a registration. Four things make an object unfit for it before its source is
asked: a mask that is empty or holds nothing that a poller can serve, a negative handle, and a
change of the same registration that is not over yet. Everything else is up to the source, which is
asked once, in the way that the object's standing says. `Selector.register_admission` is the one
place where the steps of a registration are gone through; whatever else is said of registrations
follows from it. -/
namespace EventLoop

variable {B C W : Type}

/-! ## Masks -/

namespace Interest

/-- What a mask has a poller watch for. -/
def wanted (mask : Interest) : Readiness :=
  ⟨mask.includes .accept || mask.includes .readable || mask.includes .hangup,
    mask.includes .writable⟩

/-- A mask wishes for something that a poller can serve. -/
def Served (mask : Interest) : Prop :=
  ∃ wish ∈ [Interest.accept, .readable, .writable, .hangup], mask.includes wish = true

instance (mask : Interest) : Decidable mask.Served := List.decidableBEx _ _

/-- What a poller understands of a mask is what it can serve. -/
theorem readiness?_eq (mask : Interest) :
    mask.readiness? = if mask.Served then some mask.wanted else Option.none := by
  obtain ⟨⟨bits⟩⟩ := mask
  revert bits
  decide

private theorem served_of_readiness {mask : Interest} {wanted : Readiness}
    (seen : mask.readiness? = some wanted) : mask.Served ∧ wanted = mask.wanted := by
  rw [readiness?_eq] at seen
  split at seen
  · next served => exact ⟨served, (Option.some.inj seen).symm⟩
  · cases seen

private theorem unserved_of_readiness {mask : Interest} (unseen : mask.readiness? = Option.none) :
    ¬ mask.Served := by
  intro served
  rw [readiness?_eq, if_pos served] at unseen
  cases unseen

theorem isEmpty_iff {mask : Interest} : mask.isEmpty = true ↔ mask = .none := by
  obtain ⟨bits⟩ := mask
  simp [isEmpty, none]

theorem not_served_none : ¬ Interest.none.Served := by decide

/-- Only an empty mask and one that wishes for an alarm alone hold nothing else. -/
theorem isEmpty_without_timer {mask : Interest} :
    (mask.without .timer).isEmpty = true ↔ mask = .none ∨ mask = .timer := by
  obtain ⟨⟨bits⟩⟩ := mask
  revert bits
  decide

end Interest

/-! ## Fitness -/

/-- The call by which an object is registered, and the object as it stands meanwhile: a change of
what is watched is asked for while the object counts as being re-armed, and none is asked for
during another. -/
def Event.registration? (wanted : Readiness) (event : Event B) : Option (SourceCall × Event B) :=
  match event.standing with
  | .absent => some (.register event.handle.token wanted, event)
  | .added => some (.reregister event.handle.token wanted, { event with standing := .rearming })
  | .rearming => none

namespace Selector

/-- Why an object cannot be registered, whatever its source would say. -/
inductive Unfit (mask : Interest) (event : Event B) : Fault → Prop where
  | emptyMask (empty : mask = .none) : Unfit mask event (.invalidArgument .emptyMask)
  | noReadiness (wishes : mask ≠ .none) (unserved : ¬ mask.Served) :
      Unfit mask event (.invalidArgument .noReadiness)
  | negativeHandle (served : mask.Served) (negative : event.handle < 0) :
      Unfit mask event (.invalidArgument .negativeHandle)
  | rearming (served : mask.Served) (allowed : ¬ event.handle < 0)
      (standing : event.standing = .rearming) :
      Unfit mask event (.invalidState event.handle .rearming "register")

/-- An object is fit to be registered by this call. -/
structure Fit (mask : Interest) (event : Event B) (call : SourceCall) (acting : Event B) :
    Prop where
  served : mask.Served
  allowed : ¬ event.handle < 0
  calls : event.registration? mask.wanted = some (call, acting)

/-- What can come of a registration: the object is unfit, its source refuses, or it is done. -/
inductive Admission (conduct : Conduct B C W) (mask : Interest) (event : Event B) (world : W)
    (selector : Selector) : Registered B W → Prop where
  | unfit {fault : Fault} (unfit : Unfit mask event fault) :
      Admission conduct mask event world selector ⟨.error fault, event, selector, world⟩
  | refused {call : SourceCall} {acting : Event B} {cause : Trouble} {late : W}
      (fit : Fit mask event call acting)
      (called : conduct.call call acting world = (some cause, late)) :
      Admission conduct mask event world selector
        ⟨.error (.refusedBySystem event.handle cause), event, selector, late⟩
  | done {call : SourceCall} {acting : Event B} {late : W} (fit : Fit mask event call acting)
      (called : conduct.call call acting world = (none, late)) :
      Admission conduct mask event world selector
        ⟨.ok (), { event with standing := .added },
          selector.watch conduct event mask mask.wanted late, late⟩

/-- **A registration is one of these**, and its steps are gone through nowhere else. -/
theorem register_admission (conduct : Conduct B C W) (mask : Interest) (event : Event B)
    (world : W) (selector : Selector) :
    Admission conduct mask event world selector
      (selector.register conduct mask event world) := by
  unfold register
  cases empty : mask.isEmpty with
  | true => exact .unfit (.emptyMask (Interest.isEmpty_iff.1 empty))
  | false =>
    have wishes : mask ≠ .none := by
      intro same
      rw [Interest.isEmpty_iff.2 same] at empty
      cases empty
    simp only [Bool.false_eq_true, ↓reduceIte]
    cases seen : mask.readiness? with
    | none => exact .unfit (.noReadiness wishes (Interest.unserved_of_readiness seen))
    | some wanted =>
      obtain ⟨served, rfl⟩ := Interest.served_of_readiness seen
      by_cases negative : event.handle < 0
      · simp only [negative, ↓reduceIte]
        exact .unfit (.negativeHandle served negative)
      · simp only [negative, ↓reduceIte]
        cases standing : event.standing with
        | absent =>
          have fit : Fit mask event (.register event.handle.token mask.wanted) event :=
            ⟨served, negative, by rw [Event.registration?, standing]⟩
          simp only
          split
          · next called => exact .refused fit called
          · next called => exact .done fit called
        | added =>
          have fit : Fit mask event (.reregister event.handle.token mask.wanted)
              { event with standing := .rearming } :=
            ⟨served, negative, by rw [Event.registration?, standing]⟩
          have same : { event with standing := .added } = event := by rw [← standing]
          simp only
          split
          · next called => exact .refused fit called
          · next late called =>
            have done : Admission conduct mask event world selector
                ⟨.ok (), { event with standing := .added },
                  selector.watch conduct event mask mask.wanted late, late⟩ := .done fit called
            rwa [same] at done
        | rearming => exact .unfit (.rearming served negative standing)

/-- Why a registration is refused: the object is unfit, or its source says no. -/
inductive Refuses (conduct : Conduct B C W) (mask : Interest) (event : Event B) (world : W) :
    Fault → Prop where
  | unfit {fault : Fault} (unfit : Unfit mask event fault) :
      Refuses conduct mask event world fault
  | bySystem {call : SourceCall} {acting : Event B} {cause : Trouble}
      (fit : Fit mask event call acting)
      (called : (conduct.call call acting world).1 = some cause) :
      Refuses conduct mask event world (.refusedBySystem event.handle cause)

variable {conduct : Conduct B C W} {mask : Interest} {event acting : Event B} {world : W}
  {call : SourceCall} {fault : Fault}

theorem Unfit.not_fit (unfit : Unfit mask event fault) : ¬ Fit mask event call acting := by
  rintro ⟨served, allowed, calls⟩
  cases unfit with
  | emptyMask empty => exact Interest.not_served_none (empty ▸ served)
  | noReadiness wishes unserved => exact unserved served
  | negativeHandle served negative => exact allowed negative
  | rearming served allowed standing =>
    rw [Event.registration?, standing] at calls
    cases calls

theorem Unfit.unique {other : Fault} (unfit : Unfit mask event fault)
    (also : Unfit mask event other) : fault = other := by
  have nothing := Interest.not_served_none
  cases unfit with
  | emptyMask empty =>
    subst empty
    cases also with
    | emptyMask empty => rfl
    | noReadiness wishes unserved => exact (wishes rfl).elim
    | negativeHandle served negative => exact (nothing served).elim
    | rearming served allowed standing => exact (nothing served).elim
  | noReadiness wishes unserved =>
    cases also with
    | emptyMask empty => exact (wishes empty).elim
    | noReadiness wishes unserved => rfl
    | negativeHandle served negative => exact (unserved served).elim
    | rearming served allowed standing => exact (unserved served).elim
  | negativeHandle served negative =>
    cases also with
    | emptyMask empty => exact (nothing (empty ▸ served)).elim
    | noReadiness wishes unserved => exact (unserved served).elim
    | negativeHandle served negative => rfl
    | rearming served allowed standing => exact (allowed negative).elim
  | rearming served allowed standing =>
    cases also with
    | emptyMask empty => exact (nothing (empty ▸ served)).elim
    | noReadiness wishes unserved => exact (unserved served).elim
    | negativeHandle served negative => exact (allowed negative).elim
    | rearming served allowed standing => rfl

/-- **A registration fails for these reasons and no other**, and tells which it was. -/
theorem register_refused_iff (selector : Selector) :
    (selector.register conduct mask event world).outcome = .error fault ↔
      Refuses conduct mask event world fault := by
  have admission := register_admission conduct mask event world selector
  generalize selector.register conduct mask event world = registered at admission ⊢
  constructor
  · intro failed
    cases admission with
    | unfit unfit =>
      cases failed
      exact .unfit unfit
    | refused fit called =>
      cases failed
      exact .bySystem fit (congrArg Prod.fst called)
    | done fit called => cases failed
  · intro refuses
    cases admission with
    | unfit unfit =>
      cases refuses with
      | unfit also => rw [unfit.unique also]
      | bySystem fit _ => exact (unfit.not_fit fit).elim
    | refused fit called =>
      cases refuses with
      | unfit unfit => exact (unfit.not_fit fit).elim
      | bySystem fitToo calledToo =>
        cases fit.calls.symm.trans fitToo.calls
        rw [called] at calledToo
        cases calledToo
        rfl
    | done fit called =>
      cases refuses with
      | unfit unfit => exact (unfit.not_fit fit).elim
      | bySystem fitToo calledToo =>
        cases fit.calls.symm.trans fitToo.calls
        rw [called] at calledToo
        cases calledToo

/-- What can come of taking an object off the poller: it was not added, or its source is asked, and
whatever the source answers, the object is absent afterwards. -/
inductive Dismissal (conduct : Conduct B C W) (event : Event B) (world : W) (selector : Selector) :
    Event B × Selector × W → Prop where
  | idle (standing : event.standing ≠ .added) :
      Dismissal conduct event world selector (event, selector, world)
  | asked {refusal : Option Trouble} {late : W} (added : event.standing = .added)
      (called : conduct.call .deregister { event with standing := .absent } world =
        (refusal, late)) :
      Dismissal conduct event world selector
        ({ event with standing := .absent },
          { selector with
            poller := if refusal.isNone then selector.poller.forget event.source
              else selector.poller },
          late)

theorem unregister_dismissal (conduct : Conduct B C W) (event : Event B) (world : W)
    (selector : Selector) :
    Dismissal conduct event world selector (selector.unregister conduct event world) := by
  unfold unregister
  by_cases added : event.standing = .added
  · simp only [added, ↓reduceIte]
    split
    · next called => exact .asked added called
    · next called => exact .asked added called
  · simp only [added, ↓reduceIte]
    exact .idle added

end Selector

end EventLoop
