import EventLoop.Proofs.Loop.Minutes
import EventLoop.Proofs.Selector.Admissions

/-! What a call that fails leaves behind. A registration that is refused puts its object back as it
was, and an object that was entered for the sake of its registration is taken out again; so a loop
whose call has failed is the loop before it, in a world that a source may have been called in. What
is destroyed is the object that came, whether its handle was free or had an owner. No alarm is put
on the agenda before the registration has gone through, so none has to be taken back. Together with
what an add that is done has done (`Loop.addEvent_done`), this is all that adding can come to. -/
namespace EventLoop

variable {B C W : Type}

namespace Loop

variable {conduct : Conduct B C W} {loop : Loop B C W} {event : Event B} {mask : Interest}
  {handle : Handle} {fault : Fault}

/-! ## Failures -/

/-- Nothing has happened to a loop but to the world around it, and no object has ended there. -/
structure Halted (conduct : Conduct B C W) (early late : Loop B C W) : Prop where
  same : late = { early with world := late.world }
  world : ∀ moves, conduct.Reckons moves → moves early.world [] late.world

private theorem Halted.refl (conduct : Conduct B C W) (loop : Loop B C W) :
    Halted conduct loop loop :=
  ⟨rfl, fun _ reckons => reckons.still _⟩

/-- A registration that fails puts its object back where it stood. -/
theorem registerOwned_failed (found : loop.lookup event.handle = some event)
    (failed : (loop.registerOwned conduct event mask).1 = .error fault) :
    Halted conduct loop (loop.registerOwned conduct event mask).2 := by
  have world moves (reckons : conduct.Reckons moves) :
      moves loop.world [] (loop.selector.register conduct mask event loop.world).world :=
    Selector.register_calls reckons mask event loop.world loop.selector
  have admission := Selector.register_admission conduct mask event loop.world loop.selector
  have kept : loop.table.insert event.handle event = loop.table := Keyed.insert_of_get? found
  unfold registerOwned at failed ⊢
  generalize loop.selector.register conduct mask event loop.world = registered
    at admission failed world ⊢
  cases admission with
  | unfit unfit => exact ⟨by simp only [kept], world⟩
  | refused fit called => exact ⟨by simp only [kept], world⟩
  | done fit called => cases failed

/-- Where a mask holds nothing for a poller, nothing is registered and nothing can fail. -/
theorem settle_ok (io : (mask.without .timer).isEmpty = true) :
    (loop.settle conduct event mask).1 = .ok () := by
  rw [settle, alarmed_answer, registerRest, if_pos io]

/-- Where it holds something, adding comes out as the registration does, and ends with it if it
fails. -/
theorem settle_registers (io : (mask.without .timer).isEmpty = false) :
    (loop.settle conduct event mask).1 =
        (loop.registerOwned conduct event (mask.without .timer)).1 ∧
      ∀ fault, (loop.registerOwned conduct event (mask.without .timer)).1 = .error fault →
        loop.settle conduct event mask =
          loop.registerOwned conduct event (mask.without .timer) := by
  have rest : loop.registerRest conduct event mask =
      loop.registerOwned conduct event (mask.without .timer) := by
    rw [registerRest, io]
    rfl
  rw [settle, rest]
  refine ⟨alarmed_answer _, fun fault failed => alarmed_of_silent ?_⟩
  rintro ⟨done, _⟩
  cases failed.symm.trans done

theorem settle_error_iff :
    (loop.settle conduct event mask).1 = .error fault ↔
      (mask.without .timer).isEmpty = false ∧
        Selector.Refuses conduct (mask.without .timer) event loop.world fault := by
  cases io : (mask.without .timer).isEmpty with
  | true =>
    rw [settle_ok io]
    constructor
    · nofun
    · nofun
  | false =>
    rw [(settle_registers io).1, ← Selector.register_refused_iff loop.selector]
    exact ⟨fun refused => ⟨rfl, refused⟩, And.right⟩

private theorem settle_failed (found : loop.lookup event.handle = some event)
    (failed : (loop.settle conduct event mask).1 = .error fault) :
    Halted conduct loop (loop.settle conduct event mask).2 := by
  obtain ⟨io, refuses⟩ := settle_error_iff.1 failed
  have refused : (loop.registerOwned conduct event (mask.without .timer)).1 = .error fault :=
    (Selector.register_refused_iff loop.selector).2 refuses
  rw [(settle_registers io).2 fault refused]
  exact registerOwned_failed found refused

/-- **An add that fails is the end of the object that came**, and nothing else. -/
theorem addEvent_failed (filed : loop.Filed)
    (failed : (loop.addEvent conduct event mask).1 = .error fault) :
    ∃ halted, Halted conduct loop halted ∧
      (loop.addEvent conduct event mask).2 = halted.destroy conduct event := by
  have reception := addEvent_reception conduct loop event mask
  generalize loop.addEvent conduct event mask = reached at reception failed ⊢
  cases reception with
  | pointless empty => exact ⟨loop, .refl conduct loop, rfl⟩
  | @joined owner wishes found =>
    have owned : loop.lookup owner.handle = some owner := by
      rw [filed _ _ found]
      exact found
    exact ⟨_, settle_failed owned failed, rfl⟩
  | kept wishes free done => cases failed
  | refused wishes free refused stands =>
    -- The object is taken out of a table in which it is the last entry, and nothing but the world
    -- has changed since it was entered.
    obtain ⟨same, moves⟩ := settle_failed (lookup_entered event loop) refused
    generalize ((loop.enter event).settle conduct event mask).2 = late at same moves stands ⊢
    generalize late.world = world at same moves
    subst same
    have alike := Option.some.inj ((lookup_entered event loop).symm.trans stands)
    have restored : (loop.table.insert event.handle event).erase event.handle = loop.table :=
      Keyed.erase_insert_of_missing free event
    refine ⟨{ loop with world }, ⟨rfl, moves⟩, ?_⟩
    simp only [vacate, enter, restored, ← alike]

/-- An add that is done has registered whoever owned the handle and destroyed the object that came,
or has entered that object and registered it. -/
theorem addEvent_done (done : (loop.addEvent conduct event mask).1 = .ok ()) :
    ¬ mask.isEmpty = true ∧
      ((∃ owner, loop.lookup event.handle = some owner ∧
        (loop.addEvent conduct event mask).2 =
          (loop.settle conduct owner mask).2.destroy conduct event) ∨
      (loop.lookup event.handle = none ∧
        (loop.addEvent conduct event mask).2 =
          ((loop.enter event).settle conduct event mask).2)) := by
  have reception := addEvent_reception conduct loop event mask
  generalize loop.addEvent conduct event mask = reached at reception done ⊢
  cases reception with
  | pointless empty => cases done
  | @joined owner wishes found => exact ⟨wishes, .inl ⟨owner, found, rfl⟩⟩
  | kept wishes free settled => exact ⟨wishes, .inr ⟨free, rfl⟩⟩
  | refused wishes free failed stands => cases done

/-- **A re-arm that fails does nothing.** -/
theorem rearm_failed (filed : loop.Filed)
    (failed : (loop.rearm conduct handle mask).1 = .error fault) :
    Halted conduct loop (loop.rearm conduct handle mask).2 := by
  unfold rearm at failed ⊢
  cases found : loop.lookup handle with
  | none => exact .refl conduct loop
  | some owner =>
    simp only [found] at failed ⊢
    refine registerOwned_failed ?_ failed
    rw [filed _ _ found]
    exact found

/-! ## Faults -/

/-- Where there is something to wish for, an add fails as the registration of the owner does, or
else of the object that comes. -/
theorem addEvent_refused_iff (wishes : ¬ mask.isEmpty = true) :
    (loop.addEvent conduct event mask).1 = .error fault ↔
      (loop.settle conduct ((loop.lookup event.handle).getD event) mask).1 = .error fault := by
  -- Why a registration is refused has nothing to do with who else is in the table.
  have entered : ((loop.enter event).settle conduct event mask).1 = .error fault ↔
      (loop.settle conduct event mask).1 = .error fault := by
    rw [settle_error_iff, settle_error_iff]
    exact .rfl
  have reception := addEvent_reception conduct loop event mask
  generalize loop.addEvent conduct event mask = reached at reception ⊢
  cases reception with
  | pointless empty => exact (wishes empty).elim
  | joined _ found =>
    rw [found]
    exact .rfl
  | kept _ free done =>
    rw [free, Option.getD_none, ← entered, done]
  | refused _ free failed stands =>
    rw [free, Option.getD_none, ← entered, failed]

/-- **An add fails for these reasons and no other.** Whoever owns the handle is registered, or else
the object that comes, for what a poller can serve; a mask that wishes for an alarm alone asks
nothing of a poller, and one that wishes for nothing is refused as such. -/
theorem addEvent_error_iff :
    (loop.addEvent conduct event mask).1 = .error fault ↔
      mask ≠ .timer ∧ Selector.Refuses conduct (mask.without .timer)
        ((loop.lookup event.handle).getD event) loop.world fault := by
  by_cases empty : mask.isEmpty = true
  · obtain rfl := Interest.isEmpty_iff.1 empty
    rw [← Selector.register_refused_iff loop.selector]
    exact ⟨fun failed => ⟨by decide, failed⟩, And.right⟩
  · have wishes : mask ≠ .none := fun same => empty (Interest.isEmpty_iff.2 same)
    have io : (mask.without .timer).isEmpty = false ↔ mask ≠ .timer := by
      rw [← Bool.not_eq_true, Interest.isEmpty_without_timer]
      exact not_congr (or_iff_right wishes)
    rw [addEvent_refused_iff empty, settle_error_iff, io]

private theorem rearm_error_iff :
    (loop.rearm conduct handle mask).1 = .error fault ↔
      (loop.lookup handle = none ∧ fault = .invalidArgument .notRegistered) ∨
        ∃ owner, loop.lookup handle = some owner ∧
          Selector.Refuses conduct mask owner loop.world fault := by
  unfold rearm
  cases found : loop.lookup handle with
  | none => simp [eq_comm]
  | some owner =>
    have refused : (loop.registerOwned conduct owner mask).1 = .error fault ↔
        Selector.Refuses conduct mask owner loop.world fault :=
      Selector.register_refused_iff loop.selector
    simpa using refused

/-! ## What is left -/

/-- All that a loop owns, marks, watches, or has before it, but what the objects that ended there
took with them. -/
structure Kept (ended : List (Event B)) (early late : Loop B C W) : Prop where
  table : late.table = early.table
  listeners : late.selector.listeners = early.selector.listeners
  agenda : late.agenda = early.agenda
  watching : ∀ source, (∀ event ∈ ended, event.source ≠ source) →
    late.watching? source = early.watching? source
  rest : late =
    { early with
      selector := { early.selector with poller := late.selector.poller }
      world := late.world }

private theorem Halted.kept {late : Loop B C (W × Minutes B)}
    (halted : Halted conduct.minuted loop.onRecord late) :
    Kept [] loop late.offRecord ∧ late.ended = [] := by
  have ends := halted.world _ (minuted_reckons conduct)
  rw [halted.same]
  exact ⟨⟨rfl, rfl, rfl, fun _ _ => rfl, rfl⟩, ends⟩

private theorem Halted.kept_destroy {late : Loop B C (W × Minutes B)}
    (halted : Halted conduct.minuted loop.onRecord late) (event : Event B) :
    Kept [event] loop (late.destroy conduct.minuted event).offRecord ∧
      (late.destroy conduct.minuted event).ended = [event] := by
  have ends := halted.world _ (minuted_reckons conduct)
  have ended : (late.destroy conduct.minuted event).ended = late.world.2.ended ++ [event] := rfl
  refine ⟨?_, ended.trans (by rw [ends]; rfl)⟩
  rw [halted.same]
  refine ⟨rfl, rfl, rfl, fun source apart => ?_, rfl⟩
  refine (loop.selector.poller.watched.get?_erase event.source source).trans (if_neg ?_)
  exact Ne.symm (apart event (List.mem_singleton_self event))

end Loop

/-- **A call that fails leaves no trace.** Whatever a loop owns and has before it, whatever comes,
and whatever the sources say: on the record, which the loop itself runs along with, an add that
fails leaves all as it was and destroys the object that came, and nothing else; a re-arm that fails
leaves all as it was and destroys nothing. Each fails for the reasons that are listed, and for no
other. -/
theorem failure_leaves_no_trace (conduct : Conduct B C W) (loop : Loop B C W)
    (filed : loop.Filed) :
    (∀ event mask,
      let added := loop.onRecord.addEvent conduct.minuted event mask
      loop.addEvent conduct event mask = added.map id Loop.offRecord ∧
      (∀ fault, added.1 = .error fault →
        Loop.Kept [event] loop added.2.offRecord ∧ added.2.ended = [event]) ∧
      (∀ fault, (loop.addEvent conduct event mask).1 = .error fault ↔
        mask ≠ .timer ∧ Selector.Refuses conduct (mask.without .timer)
          ((loop.lookup event.handle).getD event) loop.world fault)) ∧
    (∀ handle mask,
      let rearmed := loop.onRecord.rearm conduct.minuted handle mask
      loop.rearm conduct handle mask = rearmed.map id Loop.offRecord ∧
      (∀ fault, rearmed.1 = .error fault →
        Loop.Kept [] loop rearmed.2.offRecord ∧ rearmed.2.ended = []) ∧
      (∀ fault, (loop.rearm conduct handle mask).1 = .error fault ↔
        (loop.lookup handle = none ∧ fault = .invalidArgument .notRegistered) ∨
          ∃ owner, loop.lookup handle = some owner ∧
            Selector.Refuses conduct mask owner loop.world fault)) := by
  have filedAtOnce : loop.onRecord.Filed := filed
  have shadows := recorded_shadows Minutes.scribe conduct
  refine ⟨fun event mask => ⟨?_, ?_, fun _ => Loop.addEvent_error_iff⟩,
    fun handle mask => ⟨?_, ?_, fun _ => Loop.rearm_error_iff⟩⟩
  · exact Loop.addEvent_seen shadows loop.onRecord event mask
  · intro fault failed
    obtain ⟨halted, halts, left⟩ := Loop.addEvent_failed filedAtOnce failed
    rw [left]
    exact halts.kept_destroy event
  · exact Loop.rearm_seen shadows loop.onRecord handle mask
  · intro fault failed
    exact (Loop.rearm_failed filedAtOnce failed).kept

/-- Grants everything but a change of what is watched. -/
def Conduct.unbending : Conduct Unit Empty Unit where
  call call _ world :=
    match call with
    | .reregister .. => (some (.system "refused"), world)
    | _ => (none, world)
  notify _ _ _ world := ⟨(), world, [], []⟩
  fire callback := nomatch callback
  level _ _ := {}
  clock world := (0, world)
  wait _ _ world := world
  unresolved _ world := world
  destroy _ world := world

/-- A listener that cannot be re-armed goes on listening, with the alarm that is set for it: whoever
is added to its handle is destroyed and sets no alarm, no more than somebody with a negative handle,
and a wish to have it re-armed changes nothing either. -/
theorem refused_newcomer_leaves_no_alarm :
    let loop : Loop Unit Empty Unit :=
      Loop.apply .unbending { world := () }
        (.add { handle := 3, source := 7, body := () } (Interest.accept.union .timer))
    let newcomer : Event Unit := { handle := 3, source := 8, body := () }
    let stray : Event Unit := { handle := -2, source := 9, body := () }
    let mask := Interest.writable.union .timer
    let added := loop.onRecord.addEvent Conduct.unbending.minuted newcomer mask
    let strayed := loop.onRecord.addEvent Conduct.unbending.minuted stray mask
    let rearmed := loop.onRecord.rearm Conduct.unbending.minuted 3 mask
    loop.Filed ∧ loop.selector.listeners = [3] ∧ loop.agenda.entries.length = 1 ∧
    (added.1 = .error (.refusedBySystem 3 (.system "refused")) ∧
      Loop.Kept [newcomer] loop added.2.offRecord ∧ added.2.ended = [newcomer]) ∧
    (strayed.1 = .error (.invalidArgument .negativeHandle) ∧
      Loop.Kept [stray] loop strayed.2.offRecord ∧ strayed.2.ended = [stray]) ∧
    (rearmed.1 = .error (.refusedBySystem 3 (.system "refused")) ∧
      Loop.Kept [] loop rearmed.2.offRecord ∧ rearmed.2.ended = []) := by
  have vacant : ({ world := () } : Loop Unit Empty Unit).Filed :=
    fun handle event found => nomatch found
  have filed := (Loop.accounts_apply .unbending vacant
    (.add { handle := 3, source := 7, body := () } (Interest.accept.union .timer))).filed
  obtain ⟨adding, rearming⟩ := failure_leaves_no_trace .unbending _ filed
  exact ⟨filed, by decide, by decide, ⟨rfl, (adding _ _).2.1 _ rfl⟩,
    ⟨rfl, (adding _ _).2.1 _ rfl⟩, rfl, (rearming _ _).2.1 _ rfl⟩

end EventLoop
