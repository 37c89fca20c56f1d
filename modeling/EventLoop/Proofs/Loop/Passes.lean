import EventLoop.Proofs.Agenda.Dockets
import EventLoop.Proofs.Loop.Batches
import EventLoop.Proofs.Loop.Journals
import EventLoop.Proofs.Loop.Metronomes

/-! One pass over the agenda, as the journal has it. A round says from the alarms that have
fallen due, the owners and the handles that are to be removed what comes into the journal and
what goes back on the agenda: one entry for each callback, one for each alarm that still means
the owner of its handle, and nothing else. What is asked for meanwhile is not part of the round,
however early it falls due. -/
namespace EventLoop

variable {B C W ι : Type}

/-! ## Rounds -/

/-- The callback that ran. -/
def Doing.ran? : Doing B C → Option C
  | .ran callback _ _ _ => some callback
  | .told _ _ => none

/-- The callback that an alarm is there to run. -/
def Alarm.runs? : Alarm C → Option C
  | .event _ _ => none
  | .callback runs _ _ => some runs

namespace Loop

/-- What goes back on the agenda when a callback has run at `now`. -/
def rearmed (now interval : Nat) (left : Option Nat) (again : Bool) (kept : C) :
    List (Nat × Alarm C) :=
  if again && left.map (· - 1) ≠ some 0 then
    [(now + interval, .callback kept interval (left.map (· - 1)))]
  else []

/-- What comes of the alarms that have fallen due by `now`, alarm by alarm, and what goes back on
the agenda. `owner` says who owns which handle, and no handle that is silenced hears anything. A
handle whose removal is asked for is silenced from then on. -/
inductive Round (now : Nat) (owner : Handle → Option (Event Unit)) :
    (Handle → Prop) → List (Alarm C) → List (Doing B C) → List (Nat × Alarm C) → Prop where
  | done (silenced : Handle → Prop) : Round now owner silenced [] [] []
  | ran {silenced : Handle → Prop} {due : List (Alarm C)} {doings : List (Doing B C)}
      {back : List (Nat × Alarm C)} (callback : C) (interval : Nat) (left : Option Nat)
      (again : Bool) (kept : C) (orders : List (Order B C))
      (later : Round now owner silenced due doings back) :
      Round now owner silenced (.callback callback interval left :: due)
        (.ran callback again kept orders :: doings)
        (rearmed now interval left again kept ++ back)
  | told {silenced : Handle → Prop} {due : List (Alarm C)} {doings : List (Doing B C)}
      {back : List (Nat × Alarm C)} {handle : Handle} {telling : Telling B}
      {orders : List (Order B C)} (owned : owner handle = some telling.event.bare)
      (heard : ¬ silenced handle)
      (kind : telling.notice = .timer)
      (later : Round now owner (fun probe => silenced probe ∨ telling.Silences probe) due doings
        back) :
      Round now owner silenced (.event handle telling.event.generation :: due)
        (.told telling orders :: doings) back
  | lapsed {silenced : Handle → Prop} {due : List (Alarm C)} {doings : List (Doing B C)}
      {back : List (Nat × Alarm C)} {handle : Handle} {generation : UInt64}
      (unheard : (∀ event, owner handle = some event → event.generation ≠ generation) ∨
        silenced handle)
      (later : Round now owner silenced due doings back) :
      Round now owner silenced (.event handle generation :: due) doings back

/-- The callbacks that run in a round are those that have fallen due, each once and in order. -/
theorem Round.callbacks {now : Nat} {owner : Handle → Option (Event Unit)}
    {silenced : Handle → Prop} {due : List (Alarm C)} {doings : List (Doing B C)}
    {back : List (Nat × Alarm C)} (round : Round now owner silenced due doings back) :
    doings.filterMap Doing.ran? = due.filterMap Alarm.runs? := by
  induction round with
  | done => rfl
  | ran callback interval left again kept orders later ih => exact congrArg (callback :: ·) ih
  | told owned heard kind later ih => exact ih
  | lapsed unheard later ih => exact ih

variable {conduct : Conduct B C W} {early middle late loop : Loop B C (W × List (Doing B C))}

/-- What one step of a round leaves as it was. -/
structure Serves (early : Loop B C (W × List (Doing B C))) (doings : List (Doing B C))
    (silences : Handle → Prop) (back : List (Nat × Alarm C))
    (late : Loop B C (W × List (Doing B C))) : Prop where
  journal : late.journal = early.journal ++ doings
  owners : late.bare? = early.bare?
  removed : ∀ handle, late.changes.isRemoved handle = true ↔
    early.changes.isRemoved handle = true ∨ silences handle
  agenda : late.agenda = early.agenda.scheduleAll back

/-- The owner of a handle is told something, which is written down. -/
theorem notify_serves (conduct : Conduct B C W) {handle : Handle} {event : Event B}
    (found : loop.lookup handle = some event) (notice : Notice) :
    ∃ (telling : Telling B) (orders : List (Order B C)),
      telling.notice = notice ∧ telling.event = event ∧
      Serves loop [.told telling orders] telling.Silences []
        (loop.notify conduct.journaled notice handle) := by
  refine ⟨⟨notice, event, (conduct.notify notice event loop.outlook loop.world.1).requests⟩,
    (conduct.notify notice event loop.outlook loop.world.1).orders, rfl, rfl, ?_⟩
  rw [notify_eq conduct.journaled notice found]
  obtain ⟨journal, table, changes⟩ := carryOutAll_journal conduct
    (conduct.journaled.notify notice event loop.outlook loop.world).orders
    { loop with
      table := loop.table.insert handle
        { event with body := (conduct.journaled.notify notice event loop.outlook loop.world).body }
      changes := (conduct.journaled.notify notice event loop.outlook
        loop.world).requests.foldl Changes.request loop.changes
      world := (conduct.journaled.notify notice event loop.outlook loop.world).world }
  refine ⟨journal, funext fun probe => ?_, fun probe => ?_, carryOutAll_agenda _ _ _⟩
  · rw [bare?, lookup, takeUp, table]
    exact bare?_insert found _ probe
  · rw [takeUp, changes]
    exact Changes.isRemoved_foldl _ _ _

/-- A callback runs, which is written down, and may go back on the agenda. -/
theorem fire_serves (conduct : Conduct B C W) (loop : Loop B C (W × List (Doing B C)))
    (now : Nat) (callback : C) (interval : Nat) (left : Option Nat) :
    ∃ again kept orders, Serves loop [.ran callback again kept orders] (fun _ => False)
      (rearmed now interval left again kept)
      (loop.serve conduct.journaled now (.callback callback interval left)) := by
  refine ⟨(conduct.fire callback loop.outlook loop.world.1).again,
    (conduct.fire callback loop.outlook loop.world.1).callback,
    (conduct.fire callback loop.outlook loop.world.1).orders, ?_⟩
  obtain ⟨journal, table, changes⟩ := carryOutAll_journal conduct
    (conduct.journaled.fire callback loop.outlook loop.world).orders
    { loop with world := (conduct.journaled.fire callback loop.outlook loop.world).world }
  have agenda := carryOutAll_agenda conduct.journaled
    (conduct.journaled.fire callback loop.outlook loop.world).orders
    { loop with world := (conduct.journaled.fire callback loop.outlook loop.world).world }
  have owners : (((conduct.journaled.fire callback loop.outlook loop.world).orders.foldl
      (carryOut conduct.journaled) { loop with
        world := (conduct.journaled.fire callback loop.outlook loop.world).world })).bare? =
      loop.bare? := by
    funext handle
    rw [bare?, lookup, table]
    rfl
  have removed (handle : Handle) : (((conduct.journaled.fire callback loop.outlook
      loop.world).orders.foldl (carryOut conduct.journaled) { loop with
        world := (conduct.journaled.fire callback loop.outlook
          loop.world).world })).changes.isRemoved handle = true ↔
      loop.changes.isRemoved handle = true ∨ False := by
    rw [changes, or_false]
  by_cases more : ((conduct.fire callback loop.outlook loop.world.1).again &&
      decide (left.map (· - 1) ≠ some 0)) = true
  · have served : loop.serve conduct.journaled now (.callback callback interval left) = _ :=
      if_pos more
    rw [served, rearmed, if_pos more]
    exact ⟨journal, owners, removed, congrArg (Agenda.schedule · _ _) agenda⟩
  · have served : loop.serve conduct.journaled now (.callback callback interval left) = _ :=
      if_neg more
    rw [served, rearmed, if_neg more]
    exact ⟨journal, owners, removed, agenda⟩

/-- What comes after a step of a round is a round of what the step has left. -/
theorem Serves.round {now : Nat} {silences : Handle → Prop} {doings more : List (Doing B C)}
    {due : List (Alarm C)} {back again : List (Nat × Alarm C)}
    (serves : Serves early doings silences back late)
    (later : Round now late.bare? late.Removed due more again) :
    Round now early.bare? (fun probe => early.Removed probe ∨ silences probe) due more again := by
  have silenced : late.Removed = fun probe => early.Removed probe ∨ silences probe :=
    funext fun probe => propext (serves.removed probe)
  rwa [serves.owners, silenced] at later

/-- **Serving alarms is a round**, and what goes back on the agenda goes there in its order. -/
theorem serveAll_round (conduct : Conduct B C W) (now : Nat) (due : List (Alarm C))
    (loop : Loop B C (W × List (Doing B C))) :
    ∃ doings back, Round now loop.bare? loop.Removed due doings back ∧
      (due.foldl (serve conduct.journaled now) loop).journal = loop.journal ++ doings ∧
      (due.foldl (serve conduct.journaled now) loop).agenda =
        loop.agenda.scheduleAll back := by
  induction due generalizing loop with
  | nil => exact ⟨[], [], .done _, (List.append_nil _).symm, rfl⟩
  | cons alarm due ih =>
    obtain ⟨doings, back, later, written, placed⟩ := ih (loop.serve conduct.journaled now alarm)
    rw [List.foldl_cons]
    cases alarm with
    | callback callback interval left =>
      obtain ⟨again, kept, orders, serves⟩ := fire_serves conduct loop now callback interval left
      refine ⟨.ran callback again kept orders :: doings,
        rearmed now interval left again kept ++ back,
        .ran callback interval left again kept orders ?_, ?_, ?_⟩
      · simpa using serves.round later
      · rw [written, serves.journal, List.append_assoc]
        rfl
      · rw [placed, serves.agenda, Agenda.scheduleAll, Agenda.scheduleAll, Agenda.scheduleAll,
          List.foldl_append]
    | event handle generation =>
      cases roused : loop.roused? handle generation with
      | some event =>
        obtain ⟨kept, found, rfl⟩ := roused?_eq_some.1 roused
        rw [serve_of_roused conduct.journaled now roused] at later written placed ⊢
        obtain ⟨telling, orders, kind, rfl, serves⟩ := notify_serves conduct found .timer
        have unsilenced : ¬ loop.Removed handle := by simpa [Removed] using kept
        refine ⟨.told telling orders :: doings, back, ?_, ?_, ?_⟩
        · refine .told ?_ unsilenced kind (serves.round later)
          rw [bare?, found]
          rfl
        · rw [written, serves.journal, List.append_assoc]
          rfl
        · rw [placed, serves.agenda]
          rfl
      | none =>
        rw [serve_of_unroused conduct.journaled now roused] at later written placed ⊢
        refine ⟨doings, back, .lapsed ?_ later, written, placed⟩
        by_cases silenced : loop.Removed handle
        · exact .inr silenced
        · refine .inl fun event owned meant => ?_
          obtain ⟨owner, found, rfl⟩ := Option.map_eq_some_iff.1 owned
          have kept : loop.changes.isRemoved handle = false := by simpa [Removed] using silenced
          cases roused.symm.trans (roused?_eq_some.2 ⟨kept, found, meant⟩)

/-! ## Passes -/

/-- What a pass at `now` makes of a loop: `due` is what has fallen due, `doings` is what comes of
it, and `back` is what goes back on the agenda. What had not fallen due stays there as it was, and
nothing else comes there. In whichever order the agenda was filled, what fell due is served in the
order of the moments and, where they are the same, in that in which it was entered; what goes back
is entered after all that. -/
structure Passes (now : Nat) (early : Loop B C (W × List (Doing B C))) (due : List (Alarm C))
    (doings : List (Doing B C)) (back : List (Nat × Alarm C))
    (late : Loop B C (W × List (Doing B C))) : Prop where
  taken : due = (early.agenda.entries.filter (·.1 ≤ now)).map Prod.snd
  round : Round now early.bare? early.Removed due doings back
  journal : late.journal = early.journal ++ doings
  untouched : (early.agenda.entries.filter (now < ·.1)).Sublist late.agenda.entries
  agenda : late.agenda.entries.Perm (early.agenda.entries.filter (now < ·.1) ++ back)
  inOrder (docket : Docket (Alarm C)) (held : List (Ticket (Alarm C)))
    (numbered : docket.Numbered) (holds : early.agenda.Holds docket held) :
    due = (docket.due now).map Ticket.item ∧
      ∃ placed, late.agenda.Holds ((docket.giveOut now).enterAll back) placed

private theorem fireAlarms_passes (conduct : Conduct B C W)
    (loop : Loop B C (W × List (Doing B C))) :
    ∃ due doings back, Passes (loop.readClock conduct.journaled).1 loop due doings back
      (loop.fireAlarms conduct.journaled) := by
  obtain ⟨came, stays⟩ := loop.agenda.expired_eq (loop.readClock conduct.journaled).1
  obtain ⟨doings, back, round, journal, agenda⟩ := serveAll_round conduct
    (loop.readClock conduct.journaled).1
    (loop.agenda.expired (loop.readClock conduct.journaled).1).1
    { (loop.readClock conduct.journaled).2 with
      agenda := (loop.agenda.expired (loop.readClock conduct.journaled).1).2 }
  have replaced : (loop.fireAlarms conduct.journaled).agenda =
      (loop.agenda.expired (loop.readClock conduct.journaled).1).2.scheduleAll back := agenda
  obtain ⟨kept, complete⟩ :=
    (loop.agenda.expired (loop.readClock conduct.journaled).1).2.scheduleAll_entries back
  refine ⟨_, doings, back, came, round, journal, ?_, ?_, fun docket held numbered holds => ?_⟩
  · rwa [replaced, ← stays]
  · rwa [replaced, ← stays]
  · obtain ⟨out, left⟩ := holds.expired numbered (loop.readClock conduct.journaled).1
    refine ⟨out, ?_⟩
    rw [replaced]
    exact left.scheduleAll (numbered.giveOut _) back

end Loop

/-- **Each alarm that has fallen due is served once, and the pass ends.** Whatever a loop's objects
and callbacks do, what a pass makes of it is a round of exactly what had fallen due when the clock
was read: each callback runs once, and whoever still owns the handle that an alarm means, and has
not been asked to be removed, is told once. What had not fallen due stays, and what is asked for or
goes back on the agenda meanwhile is left for later. In a whole run there is one alarm at the most
for a timer that was asked for once. -/
theorem each_due_alarm_is_served_once (conduct : Conduct B C W) :
    (∀ loop : Loop B C W, ∃ due doings back,
      loop.journaling.Passes (loop.readClock conduct).1 due doings back
        (loop.journaling.fireAlarms conduct.journaled) ∧
      (loop.journaling.fireAlarms conduct.journaled).seen Prod.fst = loop.fireAlarms conduct ∧
      doings.filterMap Doing.ran? = due.filterMap Alarm.runs?) ∧
    ∀ {ι : Type} [DecidableEq ι] {name : C → ι} {timer : ι} {start site : Site B C W}
      {ticks : List (Tick C)}, conduct.Recalls name → start.Shows name timer .unasked →
      Site.Vigil conduct start ticks site →
      ((storyOf name timer ticks).filterMap Tick.wish?).length ≤ 1 →
      (settingsIn name timer site.loop.agenda.entries ++
        site.stage.calls name timer).length ≤ 1 := by
  refine ⟨fun loop => ?_, fun {_ _ _ _ _ _ _} recalls fresh vigil once => ?_⟩
  · obtain ⟨due, doings, back, passes⟩ := Loop.fireAlarms_passes conduct loop.journaling
    exact ⟨due, doings, back, passes,
      (Loop.fireAlarms_seen (recorded_shadows Doing.scribe conduct) loop.journaling).symm,
      passes.round.callbacks⟩
  · obtain ⟨beat, _, shows⟩ := vigil.shown recalls fresh once
    rw [shows.agenda, shows.calls]
    cases beat <;> simp [Beat.settings, Beat.calls]

/-- A callback without an interval runs once in a pass, although it goes back on the agenda for the
same moment, where it stands once. -/
theorem no_interval_waits_for_the_next_pass :
    let loop : Loop Unit Unit Nat :=
      { agenda := Agenda.empty.schedule 0 (.callback () 0 none), world := 5 }
    (loop.fireAlarms .ticking).agenda.entries = [(5, .callback () 0 none)] ∧
      (∃ due doings back, loop.journaling.Passes 5 due doings back
        (loop.journaling.fireAlarms (Conduct.journaled .ticking)) ∧
        doings.filterMap Doing.ran? = [()]) ∧
      ∃ ticks site, Site.Vigil .ticking ⟨{ world := 5 }, .resting⟩ ticks site ∧
        answersIn (storyOf id () ticks) = [true] ∧
        (settingsIn id () site.loop.agenda.entries ++ site.stage.calls id ()).length ≤ 1 := by
  intro loop
  obtain ⟨passes, runs⟩ := each_due_alarm_is_served_once Conduct.ticking
  obtain ⟨due, doings, back, pass, _, ran⟩ := passes loop
  have taken : due = [.callback () 0 none] := pass.taken
  have recalls : Conduct.ticking.Recalls id := fun _ _ _ => rfl
  have fresh : (⟨{ world := 5 }, .resting⟩ : Site Unit Unit Nat).Shows id () .unasked :=
    ⟨rfl, rfl, rfl, rfl, rfl⟩
  have asked : Site.Vigil .ticking ⟨{ world := 5 }, .resting⟩ _ _ :=
    Site.Vigil.start.order (.change (.timer () 0 false none))
  have polled : Site.Vigil .ticking ⟨{ world := 5 }, .resting⟩ _ _ :=
    ((asked.step (.begin _)).step (.take rfl)).step (.poll rfl false none [] [])
  have served : Site.Vigil .ticking ⟨{ world := 5 }, .resting⟩ _ _ :=
    ((polled.step (.handOver _)).step (.ring _)).step (.serve _ _ _ _)
  refine ⟨rfl, ⟨due, doings, back, pass, ?_⟩, _, _, served, rfl,
    runs recalls fresh served (by decide)⟩
  rw [ran, taken]
  rfl

end EventLoop
