import EventLoop.Proofs.Loop.Vigils

/-! At every step a timer is where its story says. Orders bring a wish for it into the inbox,
applying a change moves the wish to the agenda, a pass moves what is due to what is served, and
serving moves it back to the agenda or out of the loop. Everything else that a loop does leaves
all of this alone, whatever else it does. -/
namespace EventLoop

variable {B C W ι : Type} [DecidableEq ι] {name : C → ι} {timer : ι} {conduct : Conduct B C W}

/-! ## What a tick is to one timer -/

private theorem storyOf_append (ticks more : List (Tick C)) :
    storyOf name timer (ticks ++ more) = storyOf name timer ticks ++ storyOf name timer more :=
  List.filterMap_append

private theorem wishesIn_append (changes more : List (Change B C)) :
    wishesIn name timer (changes ++ more) =
      wishesIn name timer changes ++ wishesIn name timer more :=
  List.filterMap_append

private theorem wishesIn_cons (change : Change B C) (changes : List (Change B C)) :
    wishesIn name timer (change :: changes) =
      (change.wish? name timer).toList ++ wishesIn name timer changes := by
  unfold wishesIn
  cases wish : change.wish? name timer with
  | none => rw [List.filterMap_cons_none wish]; rfl
  | some found => rw [List.filterMap_cons_some wish]; rfl

private theorem storyOf_asks (changes : List (Change B C)) :
    storyOf name timer (Loop.asks changes) =
      (wishesIn name timer changes).map (Tick.asked ()) := by
  induction changes with
  | nil => rfl
  | cons change changes ih =>
    rw [wishesIn_cons, List.map_append, ← ih]
    cases asked : change.timer? with
    | none => simp [Loop.asks, Change.wish?, asked]
    | some wanted =>
      by_cases same : name wanted.1 = timer <;>
        simp [Loop.asks, Change.wish?, asked, same, storyOf, Tick.about]

private theorem storyOf_changeTicks (loop : Loop B C W) (change : Change B C) :
    storyOf name timer (loop.changeTicks conduct change) =
      (change.wish? name timer).toList.map fun wish =>
        .set () (loop.readClock conduct).1 ((loop.readClock conduct).1 + wish.delay) := by
  cases asked : change.timer? with
  | none => simp [Loop.changeTicks, Change.wish?, asked, storyOf]
  | some wanted =>
    by_cases same : name wanted.1 = timer <;>
      simp [Loop.changeTicks, Change.wish?, asked, same, storyOf, Tick.about]

/-- Objects do not ask for timers. -/
theorem wishesIn_requests (requests : List (Request B)) :
    wishesIn (B := B) name timer (requests.map Request.change) = [] := by
  refine List.filterMap_eq_nil_iff.2 fun change inside => ?_
  obtain ⟨request, _, rfl⟩ := List.mem_map.1 inside
  cases request <;> rfl

/-! ## What stands on the agenda -/

private theorem settingsIn_place (name : C → ι) (timer : ι) (due : Nat) (alarm : Alarm C)
    (entries : List (Nat × Alarm C)) :
    (settingsIn name timer (Agenda.place due alarm entries)).Perm
      ((alarm.run? name timer).toList.map (Prod.mk due) ++ settingsIn name timer entries) := by
  refine ((Agenda.place_perm due alarm entries).filterMap _).trans (.of_eq ?_)
  cases run : alarm.run? name timer <;> simp [settingsIn, run]

/-- What is found due is what was set for then, and the rest stays. -/
theorem settingsIn_expired (name : C → ι) (timer : ι) (agenda : Agenda (Alarm C)) (now : Nat) :
    settingsIn name timer (agenda.expired now).2.entries =
        (settingsIn name timer agenda.entries).filter (now < ·.1) ∧
      ((agenda.expired now).1.filterMap (Alarm.run? name timer)).map (Prod.mk now) =
        ((settingsIn name timer agenda.entries).filter (·.1 ≤ now)).map
          fun setting => (now, setting.2) := by
  obtain ⟨came, stays⟩ := agenda.expired_eq now
  rw [came, stays]
  generalize agenda.entries = entries
  induction entries with
  | nil => exact ⟨rfl, rfl⟩
  | cons entry rest ih =>
    obtain ⟨late, early⟩ := ih
    cases run : Alarm.run? name timer entry.2 with
    | none =>
      by_cases due : entry.1 ≤ now <;> simp_all [settingsIn, Nat.not_lt.2]
    | some found =>
      by_cases due : entry.1 ≤ now <;> simp_all [settingsIn, Nat.not_lt.2]

namespace Loop

variable {loop : Loop B C W}

/-- What stands on the agenda of a timer is as before but for what `fresh` says. -/
def Sets (name : C → ι) (timer : ι) (fresh : List (Nat × Nat × Option Nat))
    (early late : Loop B C W) : Prop :=
  (settingsIn name timer late.agenda.entries).Perm
    (fresh ++ settingsIn name timer early.agenda.entries)

private theorem sets_of_agenda {early late : Loop B C W} (same : late.agenda = early.agenda) :
    Sets name timer [] early late :=
  .of_eq (congrArg (settingsIn name timer ·.entries) same)

/-- An alarm for an object is no timer. -/
theorem schedule_sets (delay : Nat) (handle : Handle) (generation : UInt64) :
    Sets name timer [] loop (loop.schedule conduct delay (.event handle generation)) :=
  settingsIn_place name timer _ (.event handle generation) _

private theorem settle_sets (event : Event B) (mask : Interest) :
    Sets name timer [] loop (loop.settle conduct event mask).2 :=
  settle_induction conduct (fun _ => sets_of_agenda rfl) (fun _ => sets_of_agenda rfl)
    fun _ registered => (schedule_sets _ _ _).trans registered

private theorem addEvent_sets (event : Event B) (mask : Interest) :
    Sets name timer [] loop (loop.addEvent conduct event mask).2 := by
  have settled : Sets name timer [] (loop.enter event)
      ((loop.enter event).settle conduct event mask).2 := settle_sets event mask
  have reception := addEvent_reception conduct loop event mask
  generalize loop.addEvent conduct event mask = reached at reception ⊢
  cases reception with
  | pointless empty => exact sets_of_agenda rfl
  | @joined owner wishes found => exact settle_sets owner mask
  | kept wishes free done => exact settled
  | refused wishes free failed stands => exact settled

/-- A change sets the timer that it wishes for, and no other. -/
theorem apply_sets (change : Change B C) :
    Sets name timer
      ((change.wish? name timer).toList.map fun wish =>
        ((loop.readClock conduct).1 + wish.delay, wish.interval, wish.repeats))
      loop (loop.apply conduct change) := by
  cases change with
  | add event mask => exact addEvent_sets event mask
  | rearm target mask =>
    simp only [apply]
    split
    · unfold rearm
      split <;> exact sets_of_agenda rfl
    · exact sets_of_agenda rfl
  | remove target =>
    simp only [apply]
    split
    · unfold removeEvent
      split <;> exact sets_of_agenda rfl
    · exact sets_of_agenda rfl
  | schedule target delay =>
    simp only [apply]
    split
    · split
      · exact schedule_sets _ _ _
      · exact sets_of_agenda rfl
    · exact sets_of_agenda rfl
  | timer callback interval delayed repeats =>
    have placed := settingsIn_place name timer
      ((loop.readClock conduct).1 + if delayed then interval else 0)
      (.callback callback interval repeats) loop.agenda.entries
    refine placed.trans (.of_eq ?_)
    by_cases same : name callback = timer <;>
      simp [Change.wish?, Change.timer?, Alarm.run?, same, Wish.delay]

/-! ## What is sent -/

/-- What a notification or an alarm sends to the inbox, and what else it may not touch. -/
structure Sends (name : C → ι) (timer : ι) (sent : List (Change B C)) (early late : Loop B C W) :
    Prop where
  inbox : late.inbox = early.inbox ++ sent
  pending : wishesIn name timer late.changes.pending = wishesIn name timer early.changes.pending
  alive : late.alive = early.alive

/-- The owner of a handle asks for timers by orders only. -/
theorem notify_sends (name : C → ι) (timer : ι) (conduct : Conduct B C W)
    (alive : loop.alive = true) (notice : Notice) (handle : Handle) :
    ∃ sent, Sends name timer sent loop (loop.notify conduct notice handle) ∧
      asks sent = (loop.tellings conduct notice handle).flatMap Doing.ticks ∧
      (loop.notify conduct notice handle).agenda = loop.agenda := by
  cases found : loop.lookup handle with
  | none =>
    rw [notify_missing conduct notice found, tellings_of_missing conduct notice found]
    exact ⟨[], ⟨(List.append_nil _).symm, rfl, rfl⟩, rfl, rfl⟩
  | some event =>
    rw [notify_eq conduct notice found, tellings_of_found conduct notice found]
    have took := takeUp_took conduct alive handle event
      (conduct.notify notice event loop.outlook loop.world)
    refine ⟨_, ⟨took.inbox, ?_, took.alive⟩, (List.append_nil _).symm,
      carryOutAll_agenda conduct _ _⟩
    rw [took.pending, wishesIn_append, wishesIn_requests, List.append_nil]

end Loop

namespace Site

variable {site next : Site B C W} {told : List (Tick Unit)} {beat : Beat} {deeds : List Deed}

/-- The story goes on, and the timer is where it says. -/
def Continues (name : C → ι) (timer : ι) (told more : List (Tick Unit)) (site : Site B C W) :
    Prop :=
  ∃ late, Story (told ++ more) late ∧ site.Shows name timer late

/-- Where nothing but orders happens, the timer may be asked for. -/
theorem Shows.sent (shows : site.Shows name timer beat) (story : Story told beat)
    {sent : List (Change B C)} (inbox : next.loop.inbox = site.loop.inbox ++ sent)
    (ahead : wishesIn name timer next.ahead = [])
    (agenda : Loop.Sets name timer [] site.loop next.loop)
    (calls : next.stage.calls name timer = site.stage.calls name timer)
    (alive : next.loop.alive = true)
    (once : ((told ++ storyOf name timer (Loop.asks sent)).filterMap Tick.wish?).length ≤ 1) :
    next.Continues name timer told (storyOf name timer (Loop.asks sent)) := by
  rw [storyOf_asks] at once ⊢
  obtain ⟨late, onward⟩ := story.asks _ once
  refine ⟨late, onward.story, ?_, ahead, ?_, ?_, alive⟩
  · rw [inbox, wishesIn_append, shows.inbox, onward.wishes]
  · refine Beat.settings_of_perm ?_
    rw [onward.settings, ← shows.agenda]
    exact agenda
  · rw [calls, shows.calls, onward.calls]

/-- Where nothing happens that concerns timers, the timer stays where it is. -/
theorem Shows.still (shows : site.Shows name timer beat) (story : Story told beat)
    (inbox : next.loop.inbox = site.loop.inbox) (ahead : next.ahead = site.ahead)
    (agenda : next.loop.agenda = site.loop.agenda)
    (calls : next.stage.calls name timer = site.stage.calls name timer)
    (alive : next.loop.alive = true) : next.Continues name timer told [] := by
  refine ⟨beat, ?_, ?_, ?_, ?_, ?_, alive⟩
  · rwa [List.append_nil]
  · rw [inbox, shows.inbox]
  · rw [ahead, shows.ahead]
  · rw [agenda, shows.agenda]
  · rw [calls, shows.calls]

/-- The owner of a handle is told something. -/
theorem Shows.notified {loop : Loop B C W} {stage later : Stage B C}
    (shows : Shows name timer beat ⟨loop, stage⟩) (story : Story told beat) (notice : Notice)
    (handle : Handle) (ahead : later.ahead = stage.ahead)
    (calls : later.calls name timer = stage.calls name timer)
    (once : ((told ++ storyOf name timer
      ((loop.tellings conduct notice handle).flatMap Doing.ticks)).filterMap
        Tick.wish?).length ≤ 1) :
    (⟨loop.notify conduct notice handle, later⟩ : Site B C W).Continues name timer told
      (storyOf name timer ((loop.tellings conduct notice handle).flatMap Doing.ticks)) := by
  obtain ⟨sent, sends, asked, agenda⟩ :=
    Loop.notify_sends name timer conduct shows.alive notice handle
  rw [← asked] at once ⊢
  refine shows.sent story sends.inbox ?_ (Loop.sets_of_agenda agenda) calls
    (sends.alive.trans shows.alive) once
  have before := shows.ahead
  rw [Site.ahead, wishesIn_append] at before ⊢
  rwa [sends.pending, ahead]

/-- A change sets the timer that has waited for it. -/
theorem Shows.granted (loop : Loop B C W) {change : Change B C} {rest : List Wish}
    (story : Story told beat) (waits : beat.wishes = (change.wish? name timer).toList ++ rest)
    (inbox : wishesIn name timer loop.inbox = rest)
    (agenda : settingsIn name timer loop.agenda.entries = beat.settings)
    {stage : Stage B C} (ahead : wishesIn name timer (Site.ahead ⟨loop, stage⟩) = [])
    (calls : stage.calls name timer = beat.calls) (alive : loop.alive = true) :
    (⟨loop.apply conduct change, stage⟩ : Site B C W).Continues name timer told
      (storyOf name timer (loop.changeTicks conduct change)) := by
  obtain ⟨left, kept, lives⟩ := loop.apply_keeps conduct change
  obtain ⟨late, onward⟩ := story.grants _ waits (loop.readClock conduct).1
  rw [storyOf_changeTicks]
  refine ⟨late, onward.story, ?_, ?_, ?_, ?_, lives.trans alive⟩
  · rw [left, inbox, onward.wishes]
  · rw [Site.ahead, kept]
    exact ahead
  · refine Beat.settings_of_perm ?_
    rw [onward.settings, ← agenda]
    exact Loop.apply_sets change
  · rw [calls, onward.calls]

/-- A pass takes the timer off the agenda if it is due. -/
theorem Shows.passed {loop : Loop B C W} (shows : Shows name timer beat ⟨loop, .applying [] false⟩)
    (story : Story told beat) :
    (⟨{ (loop.readClock conduct).2 with
          agenda := (loop.agenda.expired (loop.readClock conduct).1).2 },
        .ringing (loop.readClock conduct).1
          (loop.agenda.expired (loop.readClock conduct).1).1⟩ : Site B C W).Continues name timer
      told [.pass (loop.readClock conduct).1] := by
  obtain ⟨stays, came⟩ := settingsIn_expired name timer loop.agenda
    (loop.readClock conduct).1
  obtain ⟨late, onward⟩ := story.passes shows.calls.symm (loop.readClock conduct).1
  refine ⟨late, onward.story, ?_, shows.ahead, ?_, ?_, shows.alive⟩
  · rw [onward.wishes, ← shows.inbox]
    rfl
  · rw [onward.settings, ← shows.agenda]
    exact stays
  · rw [onward.calls, ← shows.agenda]
    exact came

/-- A callback has run. If it is the timer's, the timer is set again or over. -/
theorem Shows.fired {loop : Loop B C W} {now interval : Nat} {callback kept : C}
    {left : Option Nat} {due : List (Alarm C)}
    (shows : Shows name timer beat ⟨loop, .ringing now (.callback callback interval left :: due)⟩)
    (again : Bool) (same : name kept = name callback) (story : Story told beat) :
    (⟨if again && left.map (· - 1) ≠ some 0 then
        { loop with
          agenda := loop.agenda.schedule (now + interval)
            (.callback kept interval (left.map (· - 1))) }
      else loop, .ringing now due⟩ : Site B C W).Continues name timer told
      (storyOf name timer [.ran callback again]) := by
  have placed := settingsIn_place name timer (now + interval)
    (.callback kept interval (left.map (· - 1))) loop.agenda.entries
  have calls := shows.calls
  generalize served : (if (again && decide (left.map (· - 1) ≠ some 0)) = true then
      { loop with
        agenda := loop.agenda.schedule (now + interval)
          (.callback kept interval (left.map (· - 1))) }
    else loop : Loop B C W) = late
  -- Whether it goes on or not, nothing but the agenda changes.
  have inbox : late.inbox = loop.inbox := by rw [← served]; split <;> rfl
  have changes : late.changes = loop.changes := by rw [← served]; split <;> rfl
  have alive : late.alive = loop.alive := by rw [← served]; split <;> rfl
  have ahead : wishesIn name timer (Site.ahead ⟨late, .ringing now due⟩) = [] := by
    rw [Site.ahead, changes]
    exact shows.ahead
  by_cases mine : name callback = timer
  · have run : Alarm.run? name timer (.callback callback interval left) = some (interval, left) :=
      if_pos mine
    have rerun : Alarm.run? name timer (.callback kept interval (left.map (· - 1))) =
        some (interval, left.map (· - 1)) := if_pos (same.trans mine)
    have told_run : storyOf name timer [.ran callback again] = [.ran () again] := by
      simp [storyOf, Tick.about, mine]
    simp only [Stage.calls, List.filterMap_cons, run, List.map_cons] at calls
    obtain ⟨beat, onward⟩ := story.runs calls.symm again
    rw [told_run]
    rw [rerun] at placed
    refine ⟨beat, onward.story, ?_, ahead, ?_, onward.calls.symm, alive.trans shows.alive⟩
    · rw [onward.wishes, ← shows.inbox, inbox]
    · refine Beat.settings_of_perm ?_
      rw [onward.settings, ← shows.agenda, ← served]
      split
      · exact placed
      · exact .refl _
  · have run : Alarm.run? name timer (.callback callback interval left) = none := if_neg mine
    have rerun : Alarm.run? name timer (.callback kept interval (left.map (· - 1))) = none :=
      if_neg (same ▸ mine)
    have told_none : storyOf name timer [.ran callback again] = [] := by
      simp [storyOf, Tick.about, mine]
    simp only [Stage.calls, List.filterMap_cons, run] at calls
    rw [told_none]
    rw [rerun] at placed
    refine ⟨beat, ?_, ?_, ahead, ?_, calls, alive.trans shows.alive⟩
    · rwa [List.append_nil]
    · rw [inbox]
      exact shows.inbox
    · refine Beat.settings_of_perm ?_
      rw [← shows.agenda, ← served]
      split
      · exact placed
      · exact .refl _

/-- An alarm is served: the timer runs if it is its turn, and may be asked for. -/
theorem Shows.served (recalls : conduct.Recalls name) {loop : Loop B C W} {now : Nat}
    {alarm : Alarm C} {due : List (Alarm C)}
    (shows : Shows name timer beat ⟨loop, .ringing now (alarm :: due)⟩) (story : Story told beat)
    (once :
      ((told ++ storyOf name timer (ticks conduct ⟨loop, .ringing now (alarm :: due)⟩)).filterMap
      Tick.wish?).length ≤ 1) :
    (⟨loop.serve conduct now alarm, .ringing now due⟩ : Site B C W).Continues name timer told
      (storyOf name timer (ticks conduct ⟨loop, .ringing now (alarm :: due)⟩)) := by
  have called : ticks conduct ⟨loop, .ringing now (alarm :: due)⟩ =
      (doings conduct ⟨loop, .ringing now (alarm :: due)⟩).flatMap Doing.ticks := rfl
  rw [called] at once ⊢
  cases alarm with
  | event handle generation =>
    have calls : (Stage.ringing now due : Stage B C).calls name timer =
        (Stage.ringing now (.event handle generation :: due) : Stage B C).calls name timer := rfl
    cases roused : loop.roused? handle generation with
    | some event =>
      rw [doings_of_roused conduct now due roused] at once ⊢
      rw [Loop.serve_of_roused conduct now roused]
      exact shows.notified story .timer handle rfl calls once
    | none =>
      rw [doings_of_unroused conduct now due roused]
      rw [Loop.serve_of_unroused conduct now roused]
      exact shows.still story rfl rfl rfl calls shows.alive
  | callback callback interval left =>
    have ran :
        (doings conduct ⟨loop, .ringing now (.callback callback interval left :: due)⟩).flatMap
          Doing.ticks =
        Loop.ordersAsk (conduct.fire callback loop.outlook loop.world).orders ++
          [.ran callback (conduct.fire callback loop.outlook loop.world).again] :=
      List.flatMap_singleton _ _
    rw [ran] at once ⊢
    have ordered := Loop.carryOutAll_ordered conduct
      { loop with world := (conduct.fire callback loop.outlook loop.world).world } shows.alive
      (conduct.fire callback loop.outlook loop.world).orders
    have agenda := Loop.carryOutAll_agenda conduct
      (conduct.fire callback loop.outlook loop.world).orders
      { loop with world := (conduct.fire callback loop.outlook loop.world).world }
    have same := recalls callback loop.outlook loop.world
    unfold Loop.serve
    simp only
    generalize conduct.fire callback loop.outlook loop.world = firing at ordered agenda same once ⊢
    generalize firing.orders.foldl (Loop.carryOut conduct) { loop with world := firing.world } =
      fired at ordered agenda ⊢
    rw [storyOf_append, ← List.append_assoc] at once
    obtain ⟨middle, begun, shown⟩ : Continues name timer told
        (storyOf name timer (Loop.ordersAsk firing.orders))
        ⟨fired, .ringing now (.callback callback interval left :: due)⟩ := by
      refine shows.sent story ordered.inbox ?_ (Loop.sets_of_agenda agenda) rfl
        (ordered.alive.trans shows.alive) ?_
      · rw [Site.ahead, ordered.changes]
        exact shows.ahead
      · refine Nat.le_trans ?_ once
        exact ((List.sublist_append_left _ _).filterMap _).length_le
    obtain ⟨late, story, shown⟩ := shown.fired firing.again same begun
    refine ⟨late, ?_, shown⟩
    rwa [storyOf_append, ← List.append_assoc]

/-- **At every step a timer is where its story says.** -/
theorem Step.shown (step : Step conduct site deeds next) (recalls : conduct.Recalls name)
    (story : Story told beat) (shows : site.Shows name timer beat)
    (once : ((told ++ storyOf name timer (site.ticks conduct)).filterMap Tick.wish?).length ≤ 1) :
    next.Continues name timer told (storyOf name timer (site.ticks conduct)) := by
  cases due : site.due? with
  | some change =>
    have granted : site.ticks conduct = site.loop.changeTicks conduct change := by
      rw [ticks, due]
    rw [granted]
    have ahead := shows.ahead
    obtain ⟨rest, stage, inbox, rfl⟩ | ⟨pending, second, stage, rfl⟩ := step.applies due
    · have waits := shows.inbox
      rw [inbox, wishesIn_cons] at waits
      rw [Site.ahead, stage] at ahead
      exact Shows.granted { site.loop with inbox := rest } story waits.symm rfl
        shows.agenda ahead (shows.calls ▸ stage ▸ rfl) shows.alive
    · rw [Site.ahead, stage, wishesIn_append, List.append_eq_nil_iff] at ahead
      obtain ⟨nothing, wishless⟩ := ahead
      rw [Stage.ahead, wishesIn_cons, List.append_eq_nil_iff] at wishless
      refine Shows.granted site.loop story ?_ shows.inbox shows.agenda ?_
        (shows.calls ▸ stage ▸ rfl) shows.alive
      · rw [wishless.1]
        rfl
      · rw [Site.ahead, wishesIn_append, nothing]
        exact wishless.2
  | none =>
    have lives := (step.rests shows.alive due).2
    have quiet {late : Site B C W} (nothing : site.ticks conduct = [])
        (inbox : late.loop.inbox = site.loop.inbox) (ahead : late.ahead = site.ahead)
        (agenda : late.loop.agenda = site.loop.agenda)
        (calls : late.stage.calls name timer = site.stage.calls name timer)
        (alive : late.loop.alive = true) :
        late.Continues name timer told (storyOf name timer (site.ticks conduct)) := by
      rw [nothing]
      exact shows.still story inbox ahead agenda calls alive
    cases step with
    | begin loop => exact quiet rfl rfl rfl rfl rfl lives
    | take inbox => simp [due?, inbox] at due
    | poll inbox => exact quiet (by simp [ticks, due, doings]) rfl rfl rfl rfl lives
    | pollFails inbox => exact quiet (by simp [ticks, due, doings]) rfl rfl rfl rfl lives
    | @pass loop entry entries unheard =>
      have nothing : ticks conduct ⟨loop, .delivering (entry :: entries)⟩ = [] :=
        congrArg (List.flatMap Doing.ticks) (doings_of_unheard conduct entries unheard)
      unfold Loop.passOver at lives ⊢
      split
      · exact quiet nothing rfl rfl rfl rfl shows.alive
      · split <;> exact quiet nothing rfl rfl rfl rfl shows.alive
    | @hear loop entry entries event heard input =>
      have told : ticks conduct ⟨loop, .delivering (entry :: entries)⟩ = _ :=
        congrArg (List.flatMap Doing.ticks) (doings_of_input conduct entries heard input)
      rw [told] at once ⊢
      exact shows.notified story _ _ rfl rfl once
    | @hearNothing loop entry entries event heard input =>
      exact quiet (congrArg (List.flatMap Doing.ticks) (doings_of_no_input conduct entries input))
        rfl rfl rfl rfl lives
    | @answer loop handle entries kept =>
      have told : ticks conduct ⟨loop, .answering handle true entries⟩ = _ :=
        congrArg (List.flatMap Doing.ticks) (doings_of_output conduct entries kept)
      rw [told] at once ⊢
      exact shows.notified story _ _ rfl rfl once
    | @answerNothing loop handle output entries silent =>
      exact quiet (congrArg (List.flatMap Doing.ticks) (doings_of_no_output conduct entries silent))
        rfl rfl rfl rfl lives
    | handOver loop => exact quiet rfl rfl (List.append_nil _).symm rfl rfl lives
    | apply => cases due
    | ring loop => exact shows.passed story
    | serve loop now alarm due => exact shows.served recalls story once
    | silence loop now => exact quiet rfl rfl (List.append_nil _).symm rfl rfl lives
    | rest loop => exact quiet rfl rfl rfl rfl rfl lives

variable {start : Site B C W} {ticks : List (Tick C)}

/-- **So it is all through a vigil**, if nobody asks for the timer twice. -/
theorem Vigil.shown (vigil : Vigil conduct start ticks site) (recalls : conduct.Recalls name)
    (fresh : start.Shows name timer .unasked)
    (once : ((storyOf name timer ticks).filterMap Tick.wish?).length ≤ 1) :
    ∃ beat, Story (storyOf name timer ticks) beat ∧ site.Shows name timer beat := by
  have earlier {before more : List (Tick C)}
      (few : ((storyOf name timer (before ++ more)).filterMap Tick.wish?).length ≤ 1) :
      ((storyOf name timer before).filterMap Tick.wish?).length ≤ 1 := by
    rw [storyOf_append] at few
    exact Nat.le_trans ((List.sublist_append_left _ _).filterMap _).length_le few
  induction vigil with
  | start => exact ⟨.unasked, .begins, fresh⟩
  | step vigil step ih =>
    obtain ⟨beat, story, shows⟩ := ih (earlier once)
    rw [storyOf_append] at once ⊢
    exact step.shown recalls story shows once
  | @order ticks site vigil order ih =>
    obtain ⟨beat, story, shows⟩ := ih (earlier once)
    rw [storyOf_append] at once ⊢
    have ordered := Loop.carryOut_ordered conduct shows.alive order
    refine shows.sent story ordered.inbox ?_
      (Loop.sets_of_agenda (Loop.carryOutAll_agenda conduct [order] site.loop)) rfl
      (ordered.alive.trans shows.alive) once
    rw [Site.ahead, ordered.changes]
    exact shows.ahead
  | @call ticks loop vigil change ih =>
    obtain ⟨beat, story, shows⟩ := ih (earlier once)
    rw [← List.append_assoc] at once
    have few := earlier once
    have single : wishesIn name timer [change] = (change.wish? name timer).toList :=
      (wishesIn_cons change []).trans (List.append_nil _)
    rw [storyOf_append, storyOf_asks, single] at few
    obtain ⟨middle, onward⟩ := story.asks _ few
    have waits := onward.wishes.trans (Beat.wishes_comm onward.wishes)
    rw [← List.append_assoc, storyOf_append, storyOf_append, storyOf_asks, single]
    exact Shows.granted loop onward.story waits shows.inbox
      (shows.agenda.trans onward.settings.symm) shows.ahead
      (shows.calls.trans onward.calls.symm) shows.alive
  | elsewhere vigil world queue ih =>
    obtain ⟨beat, story, shows⟩ := ih once
    exact ⟨beat, story, shows.inbox, shows.ahead, shows.agenda, shows.calls, shows.alive⟩

end Site

end EventLoop
