import EventLoop.Proofs.Loop.Shadows
import EventLoop.Proofs.Selector.Admissions
import Mathlib.Logic.Function.Basic

/-! Registration as a machine of three standings. Objects are brought to a selector and taken off it
in any order, whatever standings they come with, whether they share a handle or not, and whatever
their sources answer. The calls that sources get are kept on a tape that the objects never hear, so
that it can be said which call is made when, and that no other is. -/
namespace EventLoop

variable {ι B C W : Type}

/-! ## The tape -/

/-- A call that a source got, and why it refused if it did. -/
structure Appeal where
  source : Source
  call : SourceCall
  refusal : Option Trouble
deriving DecidableEq, Repr

/-- Puts every call of a source on a tape, and nothing else. -/
def Appeal.scribe : Scribe B C (List Appeal) where
  call call event refusal tape := tape ++ [⟨event.source, call, refusal⟩]

/-- Acts as `conduct` does, and has every call of a source on a tape that nobody listens to. -/
def Conduct.taped (conduct : Conduct B C W) : Conduct B C (W × List Appeal) :=
  conduct.recorded Appeal.scribe

/-! ## Booths -/

/-- A selector and the objects that are brought to it, each under a name of its own. -/
structure Booth (ι B W : Type) where
  selector : Selector
  objects : ι → Event B
  world : W

/-- What is asked of a selector: `Multiplexer::register` or `Multiplexer::unregister`. -/
inductive Demand (ι : Type) where
  | register (name : ι) (mask : Interest)
  | unregister (name : ι)
deriving DecidableEq, Repr

namespace Booth

/-- A booth whose tape begins now. -/
def onTape (booth : Booth ι B W) : Booth ι B (W × List Appeal) :=
  { booth with world := (booth.world, []) }

/-- A booth without its tape. -/
def offTape (booth : Booth ι B (W × List Appeal)) : Booth ι B W :=
  { booth with world := booth.world.1 }

variable [DecidableEq ι]

/-- Meets a demand. Only a registration is answered. -/
def run (conduct : Conduct B C W) (booth : Booth ι B W) :
    Demand ι → Option (Except Fault Unit) × Booth ι B W
  | .register name mask =>
    let registered := booth.selector.register conduct mask (booth.objects name) booth.world
    (some registered.outcome,
      ⟨registered.selector, Function.update booth.objects name registered.event,
        registered.world⟩)
  | .unregister name =>
    let (event, selector, world) :=
      booth.selector.unregister conduct (booth.objects name) booth.world
    (none, ⟨selector, Function.update booth.objects name event, world⟩)

/-- Meets demands one after the other. -/
def runAll (conduct : Conduct B C W) (demands : List (Demand ι)) (booth : Booth ι B W) :
    Booth ι B W :=
  demands.foldl (fun booth demand => (booth.run conduct demand).2) booth

/-- Demands that are met one after the other, each with its answer. -/
def history (conduct : Conduct B C W) :
    List (Demand ι) → Booth ι B W → List (Demand ι × Option (Except Fault Unit))
  | [], _ => []
  | demand :: rest, booth =>
    (demand, (booth.run conduct demand).1) :: history conduct rest (booth.run conduct demand).2

end Booth

/-! ## The machine -/

/-- The calls that a registration makes in each standing. -/
def Standing.registering (token : Token) (wanted : Readiness) : Standing → List SourceCall
  | .absent => [.register token wanted]
  | .added => [.reregister token wanted]
  | .rearming => []

/-- The calls that taking an object off the poller makes in each standing. -/
def Standing.unregistering : Standing → List SourceCall
  | .added => [.deregister]
  | _ => []

/-- How a demand, answered so, moves the standing of an object. -/
def Standing.onward [DecidableEq ι] (name : ι) (standing : Standing) :
    Demand ι × Option (Except Fault Unit) → Standing
  | (.register other _, some (.ok ())) => if other = name then .added else standing
  | (.unregister other, _) =>
    if other = name ∧ standing = .added then .absent else standing
  | _ => standing

/-- What a registration does. `appeals` is what it adds to the tape. -/
structure Registers (name : ι) (mask : Interest) (before : Booth ι B (W × List Appeal))
    (appeals : List Appeal) (outcome : Except Fault Unit) (after : Booth ι B (W × List Appeal)) :
    Prop where
  taped : after.world.2 = before.world.2 ++ appeals
  source : ∀ appeal ∈ appeals, appeal.source = (before.objects name).source
  calls : appeals.map Appeal.call =
    if mask.Served ∧ ¬ (before.objects name).handle < 0 then
      (before.objects name).standing.registering (before.objects name).handle.token mask.wanted
    else []
  succeeds : outcome = .ok () ↔
    mask.Served ∧ ¬ (before.objects name).handle < 0 ∧
      ((before.objects name).standing = .absent ∨ (before.objects name).standing = .added) ∧
      ∀ appeal ∈ appeals, appeal.refusal = none
  done : outcome = .ok () →
    after.objects name = { before.objects name with standing := .added }
  failed : outcome ≠ .ok () →
    after.objects name = before.objects name ∧ after.selector = before.selector
  others : ∀ other, other ≠ name → after.objects other = before.objects other

/-- What taking an object off the poller does. `appeals` is what it adds to the tape. -/
structure Unregisters (name : ι) (before : Booth ι B (W × List Appeal)) (appeals : List Appeal)
    (after : Booth ι B (W × List Appeal)) : Prop where
  taped : after.world.2 = before.world.2 ++ appeals
  source : ∀ appeal ∈ appeals, appeal.source = (before.objects name).source
  calls : appeals.map Appeal.call = (before.objects name).standing.unregistering
  added : (before.objects name).standing = .added →
    after.objects name = { before.objects name with standing := .absent }
  otherwise : (before.objects name).standing ≠ .added → after = before
  listeners : after.selector.listeners = before.selector.listeners
  others : ∀ other, other ≠ name → after.objects other = before.objects other

/-- A demand follows the machine. -/
def Demand.Follows (before : Booth ι B (W × List Appeal)) (demand : Demand ι)
    (answer : Option (Except Fault Unit)) (after : Booth ι B (W × List Appeal)) : Prop :=
  match demand with
  | .register name mask =>
    ∃ appeals outcome, answer = some outcome ∧ Registers name mask before appeals outcome after
  | .unregister name => ∃ appeals, answer = none ∧ Unregisters name before appeals after

namespace Selector

variable {mask : Interest} {event acting : Event B} {call : SourceCall} {fault : Fault}

/-- The call for which an object is fit is the one that the machine has for its standing. -/
theorem Fit.asks (fit : Fit mask event call acting) :
    event.standing.registering event.handle.token mask.wanted = [call] ∧
      acting.source = event.source ∧ (event.standing = .absent ∨ event.standing = .added) := by
  have calls := fit.calls
  unfold Event.registration? at calls
  split at calls
  · next standing =>
    cases calls
    exact ⟨by rw [standing]; rfl, rfl, .inl standing⟩
  · next standing =>
    cases calls
    exact ⟨by rw [standing]; rfl, rfl, .inr standing⟩
  · cases calls

/-- No source is called for an object that is unfit. -/
theorem Unfit.calls_nothing (unfit : Unfit mask event fault) :
    (if mask.Served ∧ ¬ event.handle < 0 then
      event.standing.registering event.handle.token mask.wanted else []) = [] := by
  cases unfit with
  | emptyMask empty => rw [empty, if_neg fun usable => Interest.not_served_none usable.1]
  | noReadiness wishes unserved => rw [if_neg fun usable => unserved usable.1]
  | negativeHandle served negative => rw [if_neg fun usable => usable.2 negative]
  | rearming served allowed standing => rw [standing, if_pos ⟨served, allowed⟩]; rfl

private theorem Unfit.bars (unfit : Unfit mask event fault) (served : mask.Served)
    (allowed : ¬ event.handle < 0) : ¬ (event.standing = .absent ∨ event.standing = .added) := by
  cases unfit with
  | emptyMask empty => exact (Interest.not_served_none (empty ▸ served)).elim
  | noReadiness wishes unserved => exact (unserved served).elim
  | negativeHandle served negative => exact (allowed negative).elim
  | rearming served allowed standing => simp [standing]

end Selector

/-- A call on the tape is the one that was made, with its answer. -/
theorem taped_call {conduct : Conduct B C W} {call : SourceCall} {event : Event B}
    {world late : W × List Appeal} {refusal : Option Trouble}
    (called : conduct.taped.call call event world = (refusal, late)) :
    late.2 = world.2 ++ [⟨event.source, call, refusal⟩] := by
  cases called
  rfl

namespace Booth

variable [DecidableEq ι] (conduct : Conduct B C W) (booth : Booth ι B (W × List Appeal))

/-! ## Single demands -/

private theorem run_offTape (demand : Demand ι) :
    booth.offTape.run conduct demand = (booth.run conduct.taped demand).map id offTape := by
  have shadows : conduct.taped.Shadows conduct Prod.fst := recorded_shadows Appeal.scribe conduct
  cases demand with
  | register name mask =>
    have registered := Loop.register_seen shadows booth.selector mask
      (booth.objects name) booth.world
    simp only [run, offTape, Prod.map, id, registered]
  | unregister name =>
    have gone := Loop.unregister_seen shadows booth.selector (booth.objects name)
      booth.world
    simp only [run, offTape, Prod.map, id, gone]

/-- **A registration follows the machine**, whatever comes of it. -/
theorem register_follows (name : ι) (mask : Interest) :
    (Demand.register name mask).Follows booth (booth.run conduct.taped (.register name mask)).1
      (booth.run conduct.taped (.register name mask)).2 := by
  have admission := Selector.register_admission conduct.taped mask (booth.objects name) booth.world
    booth.selector
  simp only [run, Demand.Follows]
  generalize booth.selector.register conduct.taped mask (booth.objects name) booth.world =
    registered at admission ⊢
  cases admission with
  | @unfit fault unfit =>
    refine ⟨[], .error fault, rfl, ?_⟩
    exact {
      taped := (List.append_nil _).symm
      source := List.forall_mem_nil _
      calls := unfit.calls_nothing.symm
      succeeds := ⟨nofun, fun ⟨served, allowed, standing, _⟩ =>
        (unfit.bars served allowed standing).elim⟩
      done := nofun
      failed := fun _ => ⟨Function.update_self .., rfl⟩
      others := fun _ => (Function.update_of_ne · ..) }
  | @refused call acting cause late fit called =>
    refine ⟨[⟨acting.source, call, some cause⟩], .error (.refusedBySystem _ cause), rfl, ?_⟩
    obtain ⟨calls, source, _⟩ := fit.asks
    exact {
      taped := taped_call called
      source := List.forall_mem_singleton.2 source
      calls := by rw [if_pos ⟨fit.served, fit.allowed⟩, calls]; rfl
      succeeds := ⟨nofun, fun ⟨_, _, _, granted⟩ => nomatch granted _ List.mem_cons_self⟩
      done := nofun
      failed := fun _ => ⟨Function.update_self .., rfl⟩
      others := fun _ => (Function.update_of_ne · ..) }
  | @done call acting late fit called =>
    refine ⟨[⟨acting.source, call, none⟩], .ok (), rfl, ?_⟩
    obtain ⟨calls, source, standing⟩ := fit.asks
    exact {
      taped := taped_call called
      source := List.forall_mem_singleton.2 source
      calls := by rw [if_pos ⟨fit.served, fit.allowed⟩, calls]; rfl
      succeeds := ⟨fun _ => ⟨fit.served, fit.allowed, standing, by simp⟩, fun _ => rfl⟩
      done := fun _ => Function.update_self ..
      failed := fun failed => (failed rfl).elim
      others := fun _ => (Function.update_of_ne · ..) }

/-- **Taking an object off the poller follows the machine**, whatever its source answers. -/
theorem unregister_follows (name : ι) :
    (Demand.unregister name).Follows booth (booth.run conduct.taped (.unregister name)).1
      (booth.run conduct.taped (.unregister name)).2 := by
  have dismissal := Selector.unregister_dismissal conduct.taped (booth.objects name) booth.world
    booth.selector
  simp only [run, Demand.Follows]
  generalize booth.selector.unregister conduct.taped (booth.objects name) booth.world = gone
    at dismissal ⊢
  cases dismissal with
  | idle standing =>
    have untouched : Function.update booth.objects name (booth.objects name) = booth.objects :=
      Function.update_eq_self ..
    refine ⟨[], trivial, ?_⟩
    exact {
      taped := (List.append_nil _).symm
      source := List.forall_mem_nil _
      calls := by
        cases stands : (booth.objects name).standing with
        | added => exact (standing stands).elim
        | _ => rfl
      added := fun added => (standing added).elim
      otherwise := fun _ => by rw [untouched]
      listeners := rfl
      others := fun other _ => by rw [untouched] }
  | @asked refusal late added called =>
    have taped := taped_call called
    refine ⟨[⟨(booth.objects name).source, .deregister, refusal⟩], trivial, ?_⟩
    exact {
      taped
      source := List.forall_mem_singleton.2 rfl
      calls := by rw [added]; rfl
      added := fun _ => Function.update_self ..
      otherwise := fun other => (other added).elim
      listeners := rfl
      others := fun _ => (Function.update_of_ne · ..) }

private theorem run_follows (demand : Demand ι) :
    demand.Follows booth (booth.run conduct.taped demand).1 (booth.run conduct.taped demand).2 := by
  cases demand with
  | register name mask => exact register_follows conduct booth name mask
  | unregister name => exact unregister_follows conduct booth name

/-! ## Runs -/

private theorem runAll_offTape (demands : List (Demand ι)) :
    booth.offTape.runAll conduct demands = (booth.runAll conduct.taped demands).offTape := by
  induction demands generalizing booth with
  | nil => rfl
  | cons demand rest ih =>
    rw [runAll, List.foldl_cons, run_offTape]
    exact ih _

private theorem history_offTape (demands : List (Demand ι)) :
    history conduct demands booth.offTape = history conduct.taped demands booth := by
  induction demands generalizing booth with
  | nil => rfl
  | cons demand rest ih =>
    simp only [history, run_offTape, Prod.map, id]
    exact congrArg _ (ih _)

/-- A demand that follows the machine leaves every object as it was but for its standing, which
moves as the machine says. -/
theorem objects_of_follows {before after : Booth ι B (W × List Appeal)} {demand : Demand ι}
    {answer : Option (Except Fault Unit)} (follows : demand.Follows before answer after)
    (name : ι) :
    after.objects name = { before.objects name with
      standing := (before.objects name).standing.onward name (demand, answer) } := by
  cases demand with
  | register other mask =>
    obtain ⟨appeals, outcome, rfl, registers⟩ := follows
    by_cases own : other = name
    · subst own
      cases outcome with
      | ok _ =>
        simp only [Standing.onward, ↓reduceIte]
        exact registers.done rfl
      | error fault => exact (registers.failed nofun).1
    · have kept := registers.others name (Ne.symm own)
      cases outcome <;> simpa only [Standing.onward, own, ↓reduceIte] using kept
  | unregister other =>
    obtain ⟨appeals, rfl, unregisters⟩ := follows
    by_cases own : other = name
    · subst own
      by_cases added : (before.objects other).standing = .added
      · simp only [Standing.onward, added, and_self, ↓reduceIte]
        exact unregisters.added added
      · simp only [Standing.onward, added, and_false, ↓reduceIte]
        rw [unregisters.otherwise added]
    · simp only [Standing.onward, own, false_and, ↓reduceIte]
      exact unregisters.others name (Ne.symm own)

private theorem runAll_objects (demands : List (Demand ι)) (name : ι) :
    (booth.runAll conduct.taped demands).objects name = { booth.objects name with
      standing := (history conduct.taped demands booth).foldl (Standing.onward name)
        (booth.objects name).standing } := by
  induction demands generalizing booth with
  | nil => rfl
  | cons demand rest ih =>
    have first := objects_of_follows (run_follows conduct booth demand) name
    have later := ih (booth.run conduct.taped demand).2
    rw [first] at later
    exact later

end Booth

/-- **Registration is a machine of three standings, and errors leave no trace.** However many
demands have been met, on whatever objects, and whatever their sources answered: the booth is as
the tape has it; the next demand follows the machine, in the calls it makes, in its answer and in
what it leaves alone; and every object is as it was but for its standing, which is the one that
the machine comes to by the demands and their answers. -/
theorem registrations_follow_the_machine [DecidableEq ι] (conduct : Conduct B C W)
    (booth : Booth ι B W) (demands : List (Demand ι)) :
    let taped := booth.onTape.runAll conduct.taped demands
    (booth.runAll conduct demands = taped.offTape ∧
      booth.history conduct demands = booth.onTape.history conduct.taped demands) ∧
    (∀ demand : Demand ι, demand.Follows taped (taped.run conduct.taped demand).1
      (taped.run conduct.taped demand).2) ∧
    ∀ name, taped.objects name = { booth.objects name with
      standing := (booth.history conduct demands).foldl (Standing.onward name)
        (booth.objects name).standing } := by
  intro taped
  have history := Booth.history_offTape conduct booth.onTape demands
  refine ⟨⟨Booth.runAll_offTape conduct booth.onTape demands, history⟩,
    Booth.run_follows conduct taped, fun name => ?_⟩
  have objects := Booth.runAll_objects conduct booth.onTape demands name
  rw [← history] at objects
  exact objects

end EventLoop
