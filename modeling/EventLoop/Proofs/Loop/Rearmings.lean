import EventLoop.Proofs.Loop.Marks

/-! Two ways to re-arm the owner of a handle. It can be asked for by the handle, or somebody can be
added under that handle, who is destroyed on arrival. Both register the owner under the mask, the
second one without the wish for an alarm, and a poller takes no notice of that wish; so what one
comes to is what the other comes to. But an alarm is set by the second alone: the first takes the
wish along to the selector, where it is lost among others and refused if there are none. All that
can be said of the two follows from that one equation (`Loop.addEvent_eq_rearm`) and from what
becomes of a wish for an alarm alone (`Loop.addEvent_timer`, `Loop.rearm_unfit`). -/
namespace EventLoop

variable {B C W : Type}

/-! ## What a selector makes of the wish for an alarm -/

namespace Interest

private theorem readiness?_without_timer (mask : Interest) :
    (mask.without .timer).readiness? = mask.readiness? := by
  obtain ⟨⟨bits⟩⟩ := mask
  revert bits
  decide

private theorem includes_accept_without_timer (mask : Interest) :
    (mask.without .timer).includes .accept = mask.includes .accept := by
  obtain ⟨⟨bits⟩⟩ := mask
  revert bits
  decide

end Interest

/-- A registration that wishes for more than an alarm goes the same way without that wish. -/
theorem Selector.register_without_timer (conduct : Conduct B C W) {mask : Interest}
    (more : mask ≠ .timer) (event : Event B) (world : W) (selector : Selector) :
    selector.register conduct (mask.without .timer) event world =
      selector.register conduct mask event world := by
  have empty : (mask.without .timer).isEmpty = mask.isEmpty := by
    rw [Bool.eq_iff_iff, Interest.isEmpty_without_timer, Interest.isEmpty_iff, or_iff_left more]
  have watch (wanted : Readiness) (late : W) :
      selector.watch conduct event (mask.without .timer) wanted late =
        selector.watch conduct event mask wanted late := by
    simp only [watch, mark, Interest.includes_accept_without_timer]
  simp only [register, empty, Interest.readiness?_without_timer, watch]

namespace Loop

variable {conduct : Conduct B C W} {loop : Loop B C W} {owner newcomer : Event B}
  {mask : Interest} {handle : Handle} {source : Source}

/-! ## The two ways -/

private theorem rearm_owned (found : loop.lookup handle = some owner) :
    loop.rearm conduct handle mask = loop.registerOwned conduct owner mask := by
  unfold rearm
  rw [found]

/-- Where an owner cannot be registered under a mask, a re-arm does nothing at all. -/
theorem rearm_unfit (filed : loop.Filed) (found : loop.lookup handle = some owner) {fault : Fault}
    (unfit : Selector.Unfit mask owner fault) :
    loop.rearm conduct handle mask = (.error fault, loop) := by
  have kept : loop.table.insert owner.handle owner = loop.table := by
    refine Keyed.insert_of_get? ?_
    rw [filed _ _ found]
    exact found
  have admission := Selector.register_admission conduct mask owner loop.world loop.selector
  rw [rearm_owned found]
  unfold registerOwned
  generalize loop.selector.register conduct mask owner loop.world = registered at admission ⊢
  cases admission with
  | unfit other => simp only [kept, other.unique unfit]
  | refused fit called => exact (unfit.not_fit fit).elim
  | done fit called => exact (unfit.not_fit fit).elim

private theorem addEvent_owned (found : loop.lookup newcomer.handle = some owner)
    (wishes : mask ≠ .none) :
    loop.addEvent conduct newcomer mask =
      (loop.settle conduct owner mask).map id (·.destroy conduct newcomer) := by
  unfold addEvent
  rw [if_neg (mt Interest.isEmpty_iff.1 wishes), found]
  rfl

/-- **Adding somebody to a handle that has an owner is a re-arm and an alarm**, and the end of
whoever came. -/
theorem addEvent_eq_rearm (filed : loop.Filed) (found : loop.lookup newcomer.handle = some owner)
    (more : mask ≠ .timer) :
    loop.addEvent conduct newcomer mask =
      (alarmed conduct owner mask (loop.rearm conduct newcomer.handle mask)).map id
        (·.destroy conduct newcomer) := by
  by_cases wishes : mask = .none
  -- Adding looks at an empty mask before it looks for an owner, a re-arm after that.
  · subst wishes
    rw [rearm_unfit filed found (.emptyMask rfl)]
    rfl
  · have served : ¬ (mask.without .timer).isEmpty = true := fun empty =>
      (Interest.isEmpty_without_timer.1 empty).elim wishes more
    have registered : loop.registerOwned conduct owner (mask.without .timer) =
        loop.registerOwned conduct owner mask := by
      simp only [registerOwned, Selector.register_without_timer conduct more]
    rw [addEvent_owned found wishes, settle, registerRest, if_neg served, registered,
      rearm_owned found]

/-- A mask that wishes for an alarm alone gets one from adding, and nothing else happens but the
end of whoever came. -/
theorem addEvent_timer (found : loop.lookup newcomer.handle = some owner) :
    loop.addEvent conduct newcomer .timer =
      (alarmed conduct owner .timer (.ok (), loop)).map id (·.destroy conduct newcomer) := by
  have alone : (Interest.timer.without .timer).isEmpty = true := by decide
  rw [addEvent_owned found (by decide), settle, registerRest, if_pos alone]

/-- Both ways answer alike, unless an alarm is all that is wished for. -/
theorem addEvent_answer_iff (filed : loop.Filed)
    (found : loop.lookup newcomer.handle = some owner) :
    (loop.addEvent conduct newcomer mask).1 = (loop.rearm conduct newcomer.handle mask).1 ↔
      mask ≠ .timer := by
  constructor
  · rintro same rfl
    rw [addEvent_timer found, rearm_unfit filed found (.noReadiness (by decide) (by decide))]
      at same
    cases same
  · intro more
    rw [addEvent_eq_rearm filed found more]
    exact alarmed_answer _

/-! ## What they come to -/

/-- Two calls have come to the same for a handle and a source: they are answered alike, the same
object owns the handle and has come as far, its source is watched for the same, the handle counts
as listening after both or after neither, and the same alarms are set. -/
structure Matches (handle : Handle) (source : Source)
    (first second : Except Fault Unit × Loop B C W) : Prop where
  answer : first.1 = second.1
  owner : first.2.lookup handle = second.2.lookup handle
  watching : first.2.watching? source = second.2.watching? source
  listens : first.2.selector.isListener handle = second.2.selector.isListener handle
  agenda : first.2.agenda = second.2.agenda

/-- The end of an object with another source makes no difference. -/
theorem matches_destroy (apart : newcomer.source ≠ source)
    (reached : Except Fault Unit × Loop B C W) :
    Matches handle source reached (reached.map id (·.destroy conduct newcomer)) := by
  have spared : Spares handle source reached.2 (reached.2.destroy conduct newcomer) :=
    destroy_spares conduct apart.symm
  exact ⟨rfl, spared.owner.symm, spared.watching.symm, rfl, rfl⟩

/-- No agenda is the same with one more alarm. -/
theorem schedule_ne (agenda : Agenda (Alarm C)) (due : Nat) (alarm : Alarm C) :
    agenda.schedule due alarm ≠ agenda := by
  intro same
  have longer : (agenda.schedule due alarm).entries.length = agenda.entries.length + 1 :=
    (Agenda.place_perm due alarm agenda.entries).length_eq
  rw [same] at longer
  omega

/-- Somebody who is added to a handle that has an owner sets an alarm for that owner if the mask
wishes for one, as soon as the owner has been registered for the rest. -/
theorem addEvent_sets_alarm (filed : loop.Filed)
    (found : loop.lookup newcomer.handle = some owner)
    (done : (loop.addEvent conduct newcomer mask).1 = .ok ())
    (timer : mask.includes .timer = true) :
    (loop.addEvent conduct newcomer mask).2.agenda =
      loop.agenda.schedule
        ((conduct.clock (loop.rearm conduct newcomer.handle mask).2.world).1 + loop.pause)
        (.event newcomer.handle owner.generation) := by
  have named : owner.handle = newcomer.handle := filed _ _ found
  by_cases alone : mask = .timer
  · subst alone
    rw [rearm_unfit filed found (.noReadiness (by decide) (by decide)), addEvent_timer found,
      alarmed_of_wish rfl timer, named]
    rfl
  · rw [addEvent_eq_rearm filed found alone] at done ⊢
    have registered : (loop.rearm conduct newcomer.handle mask).1 = .ok () :=
      (alarmed_answer _).symm.trans done
    rw [alarmed_of_wish registered timer, rearm_owned found, named]
    rfl

/-- Where no alarm is set, the two ways come to the same. -/
theorem rearm_matches (filed : loop.Filed) (found : loop.lookup newcomer.handle = some owner)
    (apart : newcomer.source ≠ owner.source)
    (silent : ¬ ((loop.addEvent conduct newcomer mask).1 = .ok () ∧
      mask.includes .timer = true)) :
    Matches newcomer.handle owner.source (loop.rearm conduct newcomer.handle mask)
      (loop.addEvent conduct newcomer mask) := by
  have more : mask ≠ .timer := by
    rintro rfl
    exact silent ⟨by rw [addEvent_timer found]; rfl, by decide⟩
  have same : loop.addEvent conduct newcomer mask =
      (alarmed conduct owner mask (loop.rearm conduct newcomer.handle mask)).map id
        (·.destroy conduct newcomer) := addEvent_eq_rearm filed found more
  rw [same] at silent ⊢
  rw [alarmed_of_silent fun ⟨done, timer⟩ => silent ⟨(alarmed_answer _).trans done, timer⟩]
  exact matches_destroy apart _

end Loop

/-- **Re-arming an owner and adding somebody under its handle differ in the alarm, and in nothing
else.** Whatever a loop owns and has before it, whoever comes, under whatever mask and whatever the
sources say: a change that means the owner re-arms it as the call does. What adding comes to is what
the re-arm comes to, with an alarm for the owner if it is done and the mask wishes for one, and the
end of whoever came. Only a mask that wishes for nothing but an alarm is answered differently: the
re-arm refuses it and leaves everything as it is, while adding sets the alarm. No re-arm ever sets
one, and adding always does where it grants a mask that wishes for one. So the two come to the same
exactly if adding fails or the mask does not wish for an alarm. -/
theorem rearming_and_adding_differ_in_the_alarm (conduct : Conduct B C W) {loop : Loop B C W}
    (filed : loop.Filed) {owner newcomer : Event B}
    (found : loop.lookup newcomer.handle = some owner) (apart : newcomer.source ≠ owner.source)
    (mask : Interest) :
    let rearmed := loop.rearm conduct newcomer.handle mask
    let added := loop.addEvent conduct newcomer mask
    (∀ target, target.handle = newcomer.handle → loop.owns target = true →
      loop.apply conduct (.rearm target mask) = rearmed.2) ∧
    (added.1 = rearmed.1 ↔ mask ≠ .timer) ∧
    (mask ≠ .timer →
      added = (Loop.alarmed conduct owner mask rearmed).map id (·.destroy conduct newcomer)) ∧
    (mask = .timer →
      rearmed = (.error (.invalidArgument .noReadiness), loop) ∧
      added = (Loop.alarmed conduct owner mask (.ok (), loop)).map id
        (·.destroy conduct newcomer)) ∧
    rearmed.2.agenda = loop.agenda ∧
    (added.1 = .ok () → mask.includes .timer = true →
      added.2.agenda = loop.agenda.schedule ((conduct.clock rearmed.2.world).1 + loop.pause)
        (.event newcomer.handle owner.generation)) ∧
    (Loop.Matches newcomer.handle owner.source rearmed added ↔
      ¬ (added.1 = .ok () ∧ mask.includes .timer = true)) := by
  have still : (loop.rearm conduct newcomer.handle mask).2.agenda = loop.agenda := by
    rw [Loop.rearm_owned found]
    rfl
  refine ⟨?_, Loop.addEvent_answer_iff filed found, Loop.addEvent_eq_rearm filed found, ?_, still,
    Loop.addEvent_sets_alarm filed found, ?_, Loop.rearm_matches filed found apart⟩
  · intro target same owned
    rw [← same]
    exact if_pos owned
  · rintro rfl
    exact ⟨Loop.rearm_unfit filed found (.noReadiness (by decide) (by decide)),
      Loop.addEvent_timer found⟩
  · rintro alike ⟨done, timer⟩
    have set := Loop.addEvent_sets_alarm filed found done timer
    exact Loop.schedule_ne _ _ _ (set.symm.trans (alike.agenda.symm.trans still))

/-! ## A reader that is re-armed -/

/-- An object that waits for something to read, and nobody else. -/
def reading : Loop Unit Unit Unit :=
  Site.fresh.loop.apply idle
    (.add { handle := 3, generation := 1, source := 7, body := () } .readable)

/-- Somebody who comes to the reader's handle. -/
def usurper : Event Unit := { handle := 3, source := 8, body := () }

private theorem reading_filed : reading.Filed :=
  (Loop.accounts_apply idle Site.fresh_unused.in_order.coherent.filed _).filed

/-- A reader that is to write as well comes to the same either way; if an alarm is wished for too,
adding sets it for the reader. -/
theorem reader_turns_to_writing_either_way :
    let reader : Event Unit :=
      { handle := 3, generation := 1, source := 7, standing := .added, body := () }
    let rearmed := reading.rearm idle 3 .both
    let added := reading.addEvent idle usurper .both
    let timed := reading.addEvent idle usurper (Interest.both.union .timer)
    reading.Filed ∧ reading.lookup usurper.handle = some reader ∧ usurper.source ≠ reader.source ∧
    rearmed.1 = .ok () ∧ rearmed.2.watching? 7 = some (3, ⟨true, true⟩) ∧
    Loop.Matches 3 7 rearmed added ∧
    timed.1 = .ok () ∧ timed.2.agenda.entries = [(100, .event 3 1)] := by
  intro reader rearmed added timed
  have found : reading.lookup usurper.handle = some reader := rfl
  have apart : usurper.source ≠ reader.source := by decide
  have silent : ¬ (added.1 = .ok () ∧ Interest.both.includes .timer = true) := by
    rintro ⟨_, wishes⟩
    exact absurd wishes (by decide)
  obtain ⟨_, _, _, _, _, _, alike⟩ :=
    rearming_and_adding_differ_in_the_alarm idle reading_filed found apart .both
  obtain ⟨_, _, _, _, _, sets, _⟩ := rearming_and_adding_differ_in_the_alarm idle reading_filed found
    apart (Interest.both.union .timer)
  have agenda := sets rfl (by decide)
  exact ⟨reading_filed, found, apart, rfl, rfl, alike.2 silent, rfl,
    (congrArg Agenda.entries agenda).trans rfl⟩

/-- A reader that is to go on reading and to have an alarm is granted this either way, but gets its
alarm only if somebody is added to its handle; and its wish for nothing but an alarm is refused one
way and granted the other. -/
theorem accepted_wish_for_an_alarm_is_lost :
    let rearmed := reading.rearm idle 3 (Interest.readable.union .timer)
    let applied := reading.apply idle
      (.rearm { handle := 3, generation := some 1 } (Interest.readable.union .timer))
    let added := reading.addEvent idle usurper (Interest.readable.union .timer)
    rearmed.1 = .ok () ∧ rearmed.2.agenda.entries = [] ∧
    reading.owns { handle := 3, generation := some 1 } = true ∧ applied.agenda.entries = [] ∧
    added.1 = .ok () ∧ added.2.agenda.entries = [(100, .event 3 1)] ∧
    ¬ Loop.Matches 3 7 rearmed added ∧
    (reading.rearm idle 3 .timer).1 = .error (.invalidArgument .noReadiness) ∧
    (reading.addEvent idle usurper .timer).1 = .ok () := by
  intro rearmed applied added
  have lost : rearmed.2.agenda.entries = [] := rfl
  have set : added.2.agenda.entries = [(100, .event 3 1)] := rfl
  refine ⟨rfl, lost, rfl, rfl, rfl, set, ?_, rfl, rfl⟩
  intro alike
  rw [← alike.agenda, lost] at set
  cases set

end EventLoop
