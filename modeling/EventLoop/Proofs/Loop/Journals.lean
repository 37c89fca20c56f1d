import EventLoop.Proofs.Loop.Conservation
import EventLoop.Proofs.Loop.Shadows

/-! The journal of a loop: every callback that runs and everything that an object is told, in
order. A step writes into it what `Site.doings` says that the step calls for, and nothing else
does. So whatever a history tells by way of `Site.doings`, which notices were given, which timers
were asked for, which objects were handed over, it tells of calls that were made. -/
namespace EventLoop

variable {B C W : Type}

/-- Writes down everything that is called for. -/
def Doing.scribe : Scribe B C (List (Doing B C)) where
  doing doing journal := journal ++ [doing]

/-- Acts as `conduct` does, and keeps a journal that nobody gets to see. -/
def Conduct.journaled (conduct : Conduct B C W) : Conduct B C (W × List (Doing B C)) :=
  conduct.recorded Doing.scribe

namespace Loop

/-- A loop that begins to keep a journal. -/
def journaling (loop : Loop B C W) : Loop B C (W × List (Doing B C)) := loop.keeping []

/-- What is in a loop's journal. -/
def journal (loop : Loop B C (W × List (Doing B C))) : List (Doing B C) := loop.world.2

/-! ## What is written down -/

theorem carryOut_journal (conduct : Conduct B C W) (order : Order B C)
    (loop : Loop B C (W × List (Doing B C))) :
    (loop.carryOut conduct.journaled order).journal = loop.journal := by
  cases order with
  | stop => rfl
  | wake => rfl
  | change change =>
    simp only [carryOut, submit]
    split
    · rfl
    · cases change <;> rfl

/-- Orders are neither written down nor do they touch what is owned or asked for. -/
theorem carryOutAll_journal (conduct : Conduct B C W) (orders : List (Order B C))
    (loop : Loop B C (W × List (Doing B C))) :
    (orders.foldl (carryOut conduct.journaled) loop).journal = loop.journal ∧
      (orders.foldl (carryOut conduct.journaled) loop).table = loop.table ∧
      (orders.foldl (carryOut conduct.journaled) loop).changes = loop.changes := by
  induction orders generalizing loop with
  | nil => exact ⟨rfl, rfl, rfl⟩
  | cons order orders ih =>
    obtain ⟨journal, table, changes⟩ := ih (loop.carryOut conduct.journaled order)
    obtain ⟨tableHere, changesHere, _⟩ := carryOut_keeps conduct.journaled loop order
    exact ⟨journal.trans (carryOut_journal conduct order loop), table.trans tableHere,
      changes.trans changesHere⟩

variable (conduct : Conduct B C W) (loop : Loop B C (W × List (Doing B C)))

private theorem notify_journal (notice : Notice) (handle : Handle) :
    (loop.notify conduct.journaled notice handle).journal =
      loop.journal ++ loop.tellings conduct.journaled notice handle := by
  cases found : loop.lookup handle with
  | none =>
    rw [notify_missing conduct.journaled notice found,
      tellings_of_missing conduct.journaled notice found, List.append_nil]
  | some event =>
    rw [notify_eq conduct.journaled notice found, tellings_of_found conduct.journaled notice found]
    exact (carryOutAll_journal conduct _ _).1

private theorem fire_journal (now : Nat) (callback : C) (interval : Nat) (left : Option Nat) :
    (loop.serve conduct.journaled now (.callback callback interval left)).journal =
      loop.journal ++ [loop.runs conduct.journaled callback] := by
  have ordered := (carryOutAll_journal conduct
    (conduct.journaled.fire callback loop.outlook loop.world).orders
    { loop with world := (conduct.journaled.fire callback loop.outlook loop.world).world }).1
  simp only [serve]
  split <;> exact ordered

/-- Applying a change calls for nothing. -/
theorem apply_journal (change : Change B C) :
    (loop.apply conduct.journaled change).journal = loop.journal := by
  have within : conduct.journaled.Within fun early late => late.2 = early.2 :=
    { still := fun _ => rfl
      trans := fun first second => second.trans first
      call := fun _ _ _ => rfl
      destroy := fun _ _ => rfl
      clock := fun _ => rfl }
  exact apply_moves conduct.journaled within loop change

/-- The end of a loop is not written down. -/
theorem close_journal : (loop.close conduct.journaled).journal = loop.journal := by
  have reckons : conduct.journaled.Reckons fun early _ late => late.2 = early.2 :=
    { still := fun _ => rfl
      trans := fun first second => second.trans first
      call := fun _ _ _ => rfl
      destroy := fun _ _ => rfl
      clock := fun _ => rfl }
  exact close_ends conduct.journaled loop reckons

end Loop

namespace Site

/-- A site whose journal begins now. -/
def journaling (site : Site B C W) : Site B C (W × List (Doing B C)) :=
  ⟨site.loop.journaling, site.stage⟩

/-- **A step writes down what it calls for**, and nothing else. -/
theorem Step.journaled {conduct : Conduct B C W} {early late : Site B C (W × List (Doing B C))}
    {deeds : List Deed} (step : Step conduct.journaled early deeds late) :
    late.loop.journal = early.loop.journal ++ early.doings conduct.journaled := by
  have silent {journal : List (Doing B C)} (same : journal = early.loop.journal)
      (nothing : early.doings conduct.journaled = []) :
      journal = early.loop.journal ++ early.doings conduct.journaled := by
    rw [same, nothing, List.append_nil]
  cases step with
  | @take loop change rest => exact silent (Loop.apply_journal conduct _ change) rfl
  | apply loop change => exact silent (Loop.apply_journal conduct loop change) rfl
  | @pass loop entry entries unheard =>
    refine silent ?_ (doings_of_unheard _ entries unheard)
    unfold Loop.passOver
    split
    · rfl
    · split <;> rfl
  | @hear loop entry entries event heard input =>
    rw [doings_of_input _ entries heard input]
    exact Loop.notify_journal conduct loop _ _
  | @hearNothing loop entry entries event heard input =>
    exact silent rfl (doings_of_no_input _ entries input)
  | @answer loop handle entries kept =>
    rw [doings_of_output _ entries kept]
    exact Loop.notify_journal conduct loop _ _
  | @answerNothing loop handle output entries quiet =>
    exact silent rfl (doings_of_no_output _ entries quiet)
  | serve loop now alarm due =>
    cases alarm with
    | event handle generation =>
      cases roused : loop.roused? handle generation with
      | some event =>
        rw [doings_of_roused _ now due roused, Loop.serve_of_roused _ now roused]
        exact Loop.notify_journal conduct loop _ _
      | none =>
        rw [Loop.serve_of_unroused _ now roused]
        exact silent rfl (doings_of_unroused _ now due roused)
    | callback callback interval left => exact Loop.fire_journal conduct loop now _ _ _
  | _ => exact silent rfl rfl

end Site

/-! ## What is told -/

namespace Loop

/-- A change tells nobody anything. -/
theorem changeDeeds_untold (conduct : Conduct B C W) (loop : Loop B C W) (change : Change B C) :
    (loop.changeDeeds conduct change).filter Deed.isTold = [] := by
  cases change with
  | add event mask =>
    simp only [changeDeeds, addDeeds]
    split
    · rfl
    · split <;> split <;> rfl
  | remove target =>
    simp only [changeDeeds]
    split
    · cases loop.owner? target.handle <;> rfl
    · rfl
  | schedule target delay =>
    simp only [changeDeeds]
    split
    · cases loop.owner? target.handle <;> rfl
    · rfl
  | _ => rfl

/-- Whoever owns a handle and is told something stands under that handle. -/
theorem noticeDeeds_told (conduct : Conduct B C W) {loop : Loop B C W} (filed : loop.Filed)
    (notice : Notice) (handle : Handle) :
    (loop.noticeDeeds notice handle).filter Deed.isTold =
      (loop.tellings conduct notice handle).filterMap Doing.deed? := by
  unfold noticeDeeds owner?
  cases found : loop.lookup handle with
  | none => rw [tellings_of_missing conduct notice found]; rfl
  | some event =>
    rw [tellings_of_found conduct notice found]
    have own := filed _ _ found
    subst own
    rfl

end Loop

/-- **A history tells of the notices that are given**, each to whoever it was given to, and of no
other. -/
theorem Site.Step.notices {conduct : Conduct B C W} {early late : Site B C W} {deeds : List Deed}
    (step : Step conduct early deeds late) (filed : early.loop.Filed) :
    deeds.filter Deed.isTold = (early.doings conduct).filterMap Doing.deed? := by
  cases step with
  | @take loop change rest => exact Loop.changeDeeds_untold conduct _ change
  | apply loop change => exact Loop.changeDeeds_untold conduct loop change
  | @pass loop entry entries unheard => rw [doings_of_unheard conduct entries unheard]; rfl
  | @hear loop entry entries event heard input =>
    rw [doings_of_input conduct entries heard input]
    exact Loop.noticeDeeds_told conduct filed _ _
  | @hearNothing loop entry entries event heard input =>
    rw [doings_of_no_input conduct entries input]
    rfl
  | @answer loop handle entries kept =>
    rw [doings_of_output conduct entries kept]
    exact Loop.noticeDeeds_told conduct filed _ _
  | @answerNothing loop handle output entries quiet =>
    rw [doings_of_no_output conduct entries quiet]
    rfl
  | serve loop now alarm due =>
    cases alarm with
    | event handle generation =>
      cases roused : loop.roused? handle generation with
      | some event =>
        rw [doings_of_roused conduct now due roused, Loop.alarmDeeds_of_roused roused]
        exact Loop.noticeDeeds_told conduct filed _ _
      | none =>
        rw [doings_of_unroused conduct now due roused, Loop.alarmDeeds_of_unroused roused]
        rfl
    | callback callback interval left => rfl
  | _ => rfl

end EventLoop
