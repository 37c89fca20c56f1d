import EventLoop.Proofs.Loop.Courses

/-! What becomes of one callback timer. Of everything that a loop does, a vigil keeps what
concerns timers: that one is asked for, that it is set, that the agenda is looked through at a
certain time, that a callback runs and what it says. A timer's story is what is left of that for
one name, and there are few ways for it to go on: it is asked for, it is set, a pass that finds
it due calls it, and when it has run it is set again or it is over. Where the timer is found at
any moment is told by how far its story has come, and it is found there once: in the inbox, on
the agenda, or among what has fallen due. -/
namespace EventLoop

variable {B C W ι : Type}

/-! ## Ticks -/

/-- What `ReactorHandle::add_timer` is called with: how long it is between two runs, whether it
is that long until the first, and how many runs there may be. -/
structure Wish where
  interval : Nat
  delayed : Bool
  repeats : Option Nat
deriving DecidableEq, Repr

/-- How long it is until the first run. -/
def Wish.delay (wish : Wish) : Nat := if wish.delayed then wish.interval else 0

/-- What a vigil keeps of a run, about timers and nothing else. -/
inductive Tick (C : Type) where
  | asked (callback : C) (wish : Wish)
  /-- A timer is put on the agenda, when the clock reads `now`, for the moment `due`. -/
  | set (callback : C) (now due : Nat)
  /-- What has fallen due by `now` is taken off the agenda. -/
  | pass (now : Nat)
  /-- A callback runs, and says whether it wants to run again. -/
  | ran (callback : C) (again : Bool)
deriving DecidableEq, Repr

/-- The timer that a change asks for. -/
def Change.timer? : Change B C → Option (C × Wish)
  | .timer callback interval delayed repeats => some (callback, ⟨interval, delayed, repeats⟩)
  | _ => none

namespace Loop

/-- The timers that changes ask for. -/
def asks (changes : List (Change B C)) : List (Tick C) :=
  (changes.filterMap Change.timer?).map fun timer => .asked timer.1 timer.2

/-- The timers that orders ask for. -/
def ordersAsk (orders : List (Order B C)) : List (Tick C) :=
  asks (orders.filterMap Order.change?)

/-- The timer that is set when a change is applied. -/
def changeTicks (conduct : Conduct B C W) (loop : Loop B C W) (change : Change B C) :
    List (Tick C) :=
  change.timer?.toList.map fun timer =>
    .set timer.1 (loop.readClock conduct).1 ((loop.readClock conduct).1 + timer.2.delay)

end Loop

/-- What is kept of what is called for: the timers that are asked for, and the run of a
callback. -/
def Doing.ticks : Doing B C → List (Tick C)
  | .told _ orders => Loop.ordersAsk orders
  | .ran callback again _ orders => Loop.ordersAsk orders ++ [.ran callback again]

namespace Site

/-- What is kept of the next step of a loop's thread. That a callback runs, and that it or an
object asks for a timer, is read off what the step calls for. -/
def ticks (conduct : Conduct B C W) (site : Site B C W) : List (Tick C) :=
  match site.due? with
  | some change => site.loop.changeTicks conduct change
  | none =>
    match site.stage with
    | .applying _ false => [.pass (site.loop.readClock conduct).1]
    | _ => (site.doings conduct).flatMap Doing.ticks

/-- A run of a loop among others, as `Course` has it, with what is kept of it. Once the loop is
closed nothing of it runs any more, so a vigil ends there. -/
inductive Vigil (conduct : Conduct B C W) (start : Site B C W) :
    List (Tick C) → Site B C W → Prop where
  | start : Vigil conduct start [] start
  | step {ticks : List (Tick C)} {site next : Site B C W} {deeds : List Deed}
      (vigil : Vigil conduct start ticks site) (step : Step conduct site deeds next) :
      Vigil conduct start (ticks ++ site.ticks conduct) next
  | order {ticks : List (Tick C)} {site : Site B C W} (vigil : Vigil conduct start ticks site)
      (order : Order B C) :
      Vigil conduct start (ticks ++ Loop.ordersAsk [order])
        { site with loop := site.loop.carryOut conduct order }
  | call {ticks : List (Tick C)} {loop : Loop B C W}
      (vigil : Vigil conduct start ticks ⟨loop, .resting⟩) (change : Change B C) :
      Vigil conduct start (ticks ++ (Loop.asks [change] ++ loop.changeTicks conduct change))
        ⟨loop.apply conduct change, .resting⟩
  | elsewhere {ticks : List (Tick C)} {site : Site B C W}
      (vigil : Vigil conduct start ticks site) (world : W) (queue : List Mark) :
      Vigil conduct start ticks
        { site with loop := { site.loop with
            world
            selector := { site.loop.selector with
              poller := { site.loop.selector.poller with queue } } } }

/-- Whole turns are parts of vigils. -/
theorem Vigil.turn {conduct : Conduct B C W} {start : Site B C W} {ticks : List (Tick C)}
    {loop : Loop B C W} (vigil : Vigil conduct start ticks ⟨loop, .resting⟩) :
    ∃ more, Vigil conduct start (ticks ++ more) ⟨(loop.turn conduct).2, .resting⟩ := by
  obtain ⟨deeds, steps⟩ := turn_steps conduct loop
  generalize (⟨loop, .resting⟩ : Site B C W) = early at vigil steps
  generalize (⟨(loop.turn conduct).2, .resting⟩ : Site B C W) = late at steps
  induction steps generalizing ticks with
  | here =>
    refine ⟨[], ?_⟩
    rwa [List.append_nil]
  | step first steps ih =>
    obtain ⟨more, later⟩ := ih (vigil.step first)
    rw [List.append_assoc] at later
    exact ⟨_, later⟩

end Site

/-! ## The story of a timer -/

/-- A callback keeps its name when it runs. -/
def Conduct.Recalls (conduct : Conduct B C W) (name : C → ι) : Prop :=
  ∀ callback outlook world, name (conduct.fire callback outlook world).callback = name callback

section Stories

variable [DecidableEq ι] (name : C → ι) (timer : ι)

/-- What a tick is to one timer. -/
def Tick.about : Tick C → Option (Tick Unit)
  | .asked callback wish => if name callback = timer then some (Tick.asked () wish) else none
  | .set callback now due => if name callback = timer then some (.set () now due) else none
  | .pass now => some (.pass now)
  | .ran callback again => if name callback = timer then some (.ran () again) else none

/-- The story of one timer. -/
def storyOf (ticks : List (Tick C)) : List (Tick Unit) := ticks.filterMap (Tick.about name timer)

/-- What a timer is wished for with, in a story. -/
def Tick.wish? : Tick Unit → Option Wish
  | .asked _ wish => some wish
  | _ => none

/-- How far a timer has come on its way from `ReactorHandle::add_timer` through the
`TimerQueue` to `Reactor::fire_timers`, and back. -/
inductive Beat where
  | unasked
  | asked (wish : Wish)
  /-- It stands on the agenda for the moment `due`. -/
  | set (due interval : Nat) (left : Option Nat)
  /-- It has fallen due and is about to run. -/
  | called (now interval : Nat) (left : Option Nat)
  | past

/-- Whether a pass at `now` leaves a timer where it is. There is no pass while one that is due
has not run yet. -/
def Beat.sleeps (now : Nat) : Beat → Bool
  | .set due _ _ => now < due
  | .called _ _ _ => false
  | _ => true

/-- How a story can go, and how far the timer has come by then. -/
inductive Story : List (Tick Unit) → Beat → Prop where
  | begins : Story [] .unasked
  | asked {told : List (Tick Unit)} (story : Story told .unasked) (wish : Wish) :
      Story (told ++ [Tick.asked () wish]) (.asked wish)
  | set {told : List (Tick Unit)} {wish : Wish} (story : Story told (.asked wish)) (now : Nat) :
      Story (told ++ [.set () now (now + wish.delay)])
        (.set (now + wish.delay) wish.interval wish.repeats)
  | passedBy {told : List (Tick Unit)} {beat : Beat} (story : Story told beat) {now : Nat}
      (early : beat.sleeps now = true) : Story (told ++ [.pass now]) beat
  | called {told : List (Tick Unit)} {due interval : Nat} {left : Option Nat}
      (story : Story told (.set due interval left)) {now : Nat} (come : due ≤ now) :
      Story (told ++ [.pass now]) (.called now interval left)
  | again {told : List (Tick Unit)} {now interval : Nat} {left : Option Nat}
      (story : Story told (.called now interval left)) (more : left.map (· - 1) ≠ some 0) :
      Story (told ++ [.ran () true]) (.set (now + interval) interval (left.map (· - 1)))
  | ended {told : List (Tick Unit)} {now interval : Nat} {left : Option Nat} {again : Bool}
      (story : Story told (.called now interval left))
      (last : again = false ∨ left.map (· - 1) = some 0) : Story (told ++ [.ran () again]) .past

/-- Once a timer has been wished for it stays so. -/
theorem wished_append {told : List (Tick Unit)} (more : List (Tick Unit))
    (wished : told.filterMap Tick.wish? ≠ []) : (told ++ more).filterMap Tick.wish? ≠ [] := by
  rw [List.filterMap_append]
  exact fun none => wished (List.append_eq_nil_iff.1 none).1

/-- A timer that has come anywhere was asked for. -/
theorem Story.wished {told : List (Tick Unit)} {beat : Beat} (story : Story told beat) :
    beat = .unasked ∨ told.filterMap Tick.wish? ≠ [] := by
  induction story with
  | begins => exact .inl rfl
  | asked story wish => simp [Tick.wish?]
  | passedBy story early ih => exact ih.imp_right (wished_append _)
  | set story now ih => exact .inr (wished_append _ (ih.resolve_left (nomatch ·)))
  | called story come ih => exact .inr (wished_append _ (ih.resolve_left (nomatch ·)))
  | again story more ih => exact .inr (wished_append _ (ih.resolve_left (nomatch ·)))
  | ended story last ih => exact .inr (wished_append _ (ih.resolve_left (nomatch ·)))

/-! ## Where a timer is -/

/-- What a change wishes of a timer. -/
def Change.wish? (change : Change B C) : Option Wish :=
  change.timer?.bind fun asked => if name asked.1 = timer then some asked.2 else none

/-- The wishes for a timer in some changes. -/
def wishesIn (changes : List (Change B C)) : List Wish :=
  changes.filterMap (Change.wish? name timer)

/-- Whether an alarm is for a timer, and what it will be run with. -/
def Alarm.run? : Alarm C → Option (Nat × Option Nat)
  | .event _ _ => none
  | .callback runs interval left => if name runs = timer then some (interval, left) else none

/-- What stands on an agenda for a timer. -/
def settingsIn (entries : List (Nat × Alarm C)) : List (Nat × Nat × Option Nat) :=
  entries.filterMap fun entry => (Alarm.run? name timer entry.2).map (Prod.mk entry.1)

/-- What has fallen due of a timer and is to be served. -/
def Stage.calls : Stage B C → List (Nat × Nat × Option Nat)
  | .ringing now due => (due.filterMap (Alarm.run? name timer)).map (Prod.mk now)
  | _ => []

namespace Beat

/-- What is in the inbox for a timer that has come so far. -/
def wishes : Beat → List Wish
  | .asked wish => [wish]
  | _ => []

/-- What is on the agenda for it. -/
def settings : Beat → List (Nat × Nat × Option Nat)
  | .set due interval left => [(due, interval, left)]
  | _ => []

/-- What has fallen due for it. -/
def calls : Beat → List (Nat × Nat × Option Nat)
  | .called now interval left => [(now, interval, left)]
  | _ => []

theorem wishes_comm {beat : Beat} {wishes more : List Wish} (all : beat.wishes = wishes ++ more) :
    wishes ++ more = more ++ wishes := by
  have few : wishes.length + more.length ≤ 1 := by
    rw [← List.length_append, ← all]
    cases beat <;> simp [Beat.wishes]
  cases wishes with
  | nil => rw [List.nil_append, List.append_nil]
  | cons wish rest =>
    rw [List.length_cons] at few
    rw [List.eq_nil_of_length_eq_zero (by omega : more.length = 0), List.nil_append,
      List.append_nil]

theorem settings_of_perm {beat : Beat} {settings : List (Nat × Nat × Option Nat)}
    (same : settings.Perm beat.settings) : settings = beat.settings := by
  cases beat with
  | set due interval left => exact List.perm_singleton.1 same
  | _ => exact same.eq_nil

end Beat

/-- A timer is where its story says, and nowhere else. -/
structure Site.Shows (beat : Beat) (site : Site B C W) : Prop where
  inbox : wishesIn name timer site.loop.inbox = beat.wishes
  ahead : wishesIn name timer site.ahead = []
  agenda : settingsIn name timer site.loop.agenda.entries = beat.settings
  calls : site.stage.calls name timer = beat.calls
  alive : site.loop.alive = true

/-! ## How a story goes on -/

variable {name timer}

/-- How a story goes on, and where that leaves the timer. -/
structure Story.Onward (told more : List (Tick Unit)) (wishes : List Wish)
    (settings calls : List (Nat × Nat × Option Nat)) (late : Beat) : Prop where
  story : Story (told ++ more) late
  wishes : late.wishes = wishes
  settings : late.settings = settings
  calls : late.calls = calls

variable {told : List (Tick Unit)} {beat : Beat}

/-- Orders can only ask for a timer that has not been asked for before. -/
theorem Story.asks (story : Story told beat) (wishes : List Wish)
    (once : ((told ++ wishes.map (Tick.asked ())).filterMap Tick.wish?).length ≤ 1) :
    ∃ late, Onward told (wishes.map (Tick.asked ())) (beat.wishes ++ wishes) beat.settings
      beat.calls late := by
  cases wishes with
  | nil =>
    refine ⟨beat, ?_, ?_, rfl, rfl⟩
    · rwa [List.map_nil, List.append_nil]
    · rw [List.append_nil]
  | cons wish rest =>
    have counted (wishes : List Wish) :
        (wishes.map (Tick.asked ())).filterMap Tick.wish? = wishes := by
      simp [List.filterMap_map, Function.comp_def, Tick.wish?]
    rw [List.filterMap_append, List.length_append, counted, List.length_cons] at once
    obtain rfl : rest = [] := List.eq_nil_of_length_eq_zero (by omega)
    have before : told.filterMap Tick.wish? = [] := List.eq_nil_of_length_eq_zero (by omega)
    obtain rfl := story.wished.resolve_right (absurd before ·)
    exact ⟨.asked wish, story.asked wish, rfl, rfl, rfl⟩

/-- A wish that is granted sets the timer. -/
theorem Story.grants (story : Story told beat) (wish? : Option Wish) {rest : List Wish}
    (waits : beat.wishes = wish?.toList ++ rest) (now : Nat) :
    ∃ late, Onward told (wish?.toList.map fun wish => .set () now (now + wish.delay)) rest
      (wish?.toList.map (fun wish => (now + wish.delay, wish.interval, wish.repeats)) ++
        beat.settings) beat.calls late := by
  cases wish? with
  | none =>
    refine ⟨beat, ?_, waits, rfl, rfl⟩
    simpa using story
  | some wish =>
    cases beat with
    | asked other =>
      obtain ⟨rfl, rfl⟩ := List.cons.inj waits
      exact ⟨_, story.set now, rfl, rfl, rfl⟩
    | _ => cases waits

/-- A pass calls what it finds due. -/
theorem Story.passes (story : Story told beat) (nothing : beat.calls = []) (now : Nat) :
    ∃ late, Onward told [.pass now] beat.wishes (beat.settings.filter (now < ·.1))
      ((beat.settings.filter (·.1 ≤ now)).map fun setting => (now, setting.2)) late := by
  cases beat with
  | unasked => exact ⟨_, story.passedBy rfl, rfl, rfl, rfl⟩
  | asked wish => exact ⟨_, story.passedBy rfl, rfl, rfl, rfl⟩
  | past => exact ⟨_, story.passedBy rfl, rfl, rfl, rfl⟩
  | called reading interval left => cases nothing
  | set due interval left =>
    rcases Nat.lt_or_ge now due with early | come
    · refine ⟨_, story.passedBy (decide_eq_true early), rfl, ?_, ?_⟩
      · simp [Beat.settings, early]
      · simp [Beat.settings, Beat.calls, Nat.not_le.2 early]
    · refine ⟨_, story.called come, rfl, ?_, ?_⟩
      · simp [Beat.settings, Nat.not_lt.2 come]
      · simp [Beat.settings, Beat.calls, come]

/-- A timer that has run is set again, or it is over. -/
theorem Story.runs (story : Story told beat) {now interval : Nat} {left : Option Nat}
    {rest : List (Nat × Nat × Option Nat)} (front : beat.calls = (now, interval, left) :: rest)
    (again : Bool) :
    ∃ late, Onward told [.ran () again] beat.wishes
      ((if again && left.map (· - 1) ≠ some 0 then
        [(now + interval, interval, left.map (· - 1))] else []) ++ beat.settings) rest late := by
  cases beat with
  | called reading between remaining =>
    obtain ⟨same, rfl⟩ := List.cons.inj front
    obtain ⟨rfl, rfl, rfl⟩ : reading = now ∧ between = interval ∧ remaining = left := by
      simpa using same
    by_cases more : again = true ∧ remaining.map (· - 1) ≠ some 0
    · obtain ⟨rfl, more⟩ := more
      refine ⟨_, story.again more, rfl, ?_, rfl⟩
      simp [Beat.settings, more]
    · have last : again = false ∨ remaining.map (· - 1) = some 0 := by
        cases again with
        | false => exact .inl rfl
        | true => exact .inr (Classical.not_not.1 fun other => more ⟨rfl, other⟩)
      refine ⟨_, story.ended last, rfl, ?_, rfl⟩
      rcases last with rfl | none
      · rfl
      · simp [Beat.settings, none]
  | _ => cases front

end Stories

end EventLoop
