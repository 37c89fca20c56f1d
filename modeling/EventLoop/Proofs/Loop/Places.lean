import EventLoop.Proofs.Loop.Conservation
import EventLoop.Proofs.Loop.Lifetimes

/-! Every object is in one place. Handles are taken again and again, so objects are told apart by a
name that is theirs alone and that no reaction changes. Wherever a loop has come to, each object
that was handed over waits to be added, stands in the table, or has come to its end, as often as it
was handed over; a change moves the object that it brings, an end takes one out, and a close ends
all that are left. -/
namespace EventLoop

open scoped List

variable {B C W ι : Type}

/-- What names an object whatever it goes through: its standing is no part of it, and no reaction
changes it. -/
structure Conduct.Names (conduct : Conduct B C W) (name : Event B → ι) : Prop where
  idle : ∀ event, name event.idle = name event
  notify : ∀ notice event outlook world,
    name { event with body := (conduct.notify notice event outlook world).body } = name event

theorem Conduct.Names.minuted {conduct : Conduct B C W} {name : Event B → ι}
    (names : conduct.Names name) : conduct.minuted.Names name :=
  ⟨names.idle, fun notice event outlook world => names.notify notice event outlook world.1⟩

section Counting

variable [DecidableEq ι]

/-- How often an object is among some. -/
def often (name : Event B → ι) (object : ι) (events : List (Event B)) : Nat :=
  (events.map name).count object

variable {name : Event B → ι} {object : ι} {events more : List (Event B)}

private theorem often_append (name : Event B → ι) (object : ι) (events more : List (Event B)) :
    often name object (events ++ more) = often name object events + often name object more := by
  rw [often, List.map_append, List.count_append]
  rfl

private theorem often_nil (name : Event B → ι) (object : ι) : often name object [] = 0 := rfl

private theorem often_perm (name : Event B → ι) (object : ι) (same : events ~ more) :
    often name object events = often name object more :=
  (same.map name).count_eq object

/-- Objects are counted without regard to their standing. -/
theorem often_idle {conduct : Conduct B C W} (names : conduct.Names name) (object : ι)
    (same : events.map Event.idle ~ more.map Event.idle) :
    often name object events = often name object more := by
  have counted := (same.map name).count_eq object
  rw [List.map_map, List.map_map] at counted
  simpa only [often, Function.comp_def, names.idle] using counted

/-- How often an object waits, stands in the table or has ended. -/
def Site.places (name : Event B → ι) (object : ι) (site : Site B C (W × Minutes B)) : Nat :=
  often name object site.waiting + often name object site.loop.table.values +
    often name object site.loop.ended

end Counting

/-! ## What moves objects -/

namespace Loop

variable {conduct : Conduct B C W} {early late loop : Loop B C (W × Minutes B)}
  {fresh : List (Event B)}

/-- The objects that wait in a loop on its own account and in its inbox. -/
def upcoming (loop : Loop B C W) : List (Event B) :=
  eventsIn loop.changes.pending ++ eventsIn loop.inbox

/-- Between two loops objects came to wait, and that is all that has happened to objects. -/
structure Receives [DecidableEq ι] (name : Event B → ι) (early : Loop B C (W × Minutes B))
    (fresh : List (Event B)) (late : Loop B C (W × Minutes B)) : Prop where
  table : ∀ object, often name object late.table.values = often name object early.table.values
  ended : late.ended = early.ended
  came : late.upcoming ~ early.upcoming ++ fresh
  alive : late.alive = early.alive

variable [DecidableEq ι] {name : Event B → ι}

private theorem Receives.of_same (table : late.table = early.table)
    (ended : late.ended = early.ended)
    (changes : late.changes = early.changes) (inbox : late.inbox = early.inbox)
    (alive : late.alive = early.alive) : Receives name early [] late := by
  refine ⟨fun object => by rw [table], ended, ?_, alive⟩
  rw [upcoming, upcoming, changes, inbox, List.append_nil]

private theorem Receives.trans {middle : Loop B C (W × Minutes B)} {more : List (Event B)}
    (first : Receives name early fresh middle) (second : Receives name middle more late) :
    Receives name early (fresh ++ more) late := by
  refine ⟨fun object => (second.table object).trans (first.table object),
    second.ended.trans first.ended, ?_, second.alive.trans first.alive⟩
  rw [← List.append_assoc]
  exact second.came.trans (first.came.append_right more)

private theorem Ordered.receives {orders : List (Order B C)} (ordered : Ordered orders early late) :
    Receives name early (ordersBring orders) late := by
  refine ⟨fun object => by rw [ordered.table], ?_, ?_, ordered.alive⟩
  · rw [ended, ordered.world]
    rfl
  · rw [upcoming, upcoming, ordered.changes, ordered.inbox, eventsIn_append, ← List.append_assoc]
    rfl

private theorem notify_receives (names : conduct.Names name) (alive : loop.alive = true)
    (notice : Notice) (handle : Handle) :
    Receives name loop ((loop.tellings conduct.minuted notice handle).flatMap Doing.brings)
      (loop.notify conduct.minuted notice handle) := by
  cases found : loop.lookup handle with
  | none =>
    rw [notify_missing conduct.minuted notice found,
      tellings_of_missing conduct.minuted notice found]
    exact .of_same rfl rfl rfl rfl rfl
  | some event =>
    have asked : (loop.tellings conduct.minuted notice handle).flatMap Doing.brings =
        eventsIn (C := C) ((conduct.minuted.notify notice event loop.outlook
          loop.world).requests.map Request.change) ++
          ordersBring (conduct.minuted.notify notice event loop.outlook loop.world).orders := by
      rw [tellings_of_found conduct.minuted notice found]
      exact List.flatMap_singleton _ _
    have renamed := names.minuted.notify notice event loop.outlook loop.world
    have kept : (conduct.minuted.notify notice event loop.outlook loop.world).world.2.ended =
        loop.ended := rfl
    rw [notify_eq conduct.minuted notice found, asked]
    generalize conduct.minuted.notify notice event loop.outlook loop.world = reaction
      at renamed kept ⊢
    have reacted : Receives name loop (eventsIn (C := C) (reaction.requests.map Request.change))
        { loop with
          table := loop.table.insert handle { event with body := reaction.body }
          changes := reaction.requests.foldl Changes.request loop.changes
          world := reaction.world } := by
      refine ⟨fun object => ?_, kept, ?_, rfl⟩
      · exact congrArg (List.count object) (Keyed.map_values_insert found name renamed)
      · rw [upcoming, upcoming, Changes.pending_foldl, eventsIn, List.filterMap_append,
          List.append_assoc, List.append_assoc]
        exact List.perm_append_comm.append_left _
    refine reacted.trans (Ordered.receives (carryOutAll_ordered conduct.minuted _ ?_ _))
    exact alive

/-- Serving an alarm tells at most one owner, or runs a callback. -/
theorem serve_receives (names : conduct.Names name) (alive : loop.alive = true) (now : Nat)
    (alarm : Alarm C) (due : List (Alarm C)) :
    Receives name loop (Site.brings conduct.minuted ⟨loop, .ringing now (alarm :: due)⟩)
      (loop.serve conduct.minuted now alarm) := by
  unfold Site.brings
  cases alarm with
  | event handle generation =>
    cases roused : loop.roused? handle generation with
    | some event =>
      rw [Site.doings_of_roused conduct.minuted now due roused,
        serve_of_roused conduct.minuted now roused]
      exact notify_receives names alive .timer handle
    | none =>
      rw [Site.doings_of_unroused conduct.minuted now due roused,
        serve_of_unroused conduct.minuted now roused]
      exact .of_same rfl rfl rfl rfl rfl
  | callback callback interval remaining =>
    have ran :
        (Site.doings conduct.minuted
          ⟨loop, .ringing now (.callback callback interval remaining :: due)⟩).flatMap
          Doing.brings =
        ordersBring (conduct.minuted.fire callback loop.outlook loop.world).orders :=
      List.flatMap_singleton _ _
    have fired : Receives name loop [] { loop with
        world := (conduct.minuted.fire callback loop.outlook loop.world).world } :=
      .of_same rfl rfl rfl rfl rfl
    have ordered := fired.trans (carryOutAll_ordered conduct.minuted { loop with
        world := (conduct.minuted.fire callback loop.outlook loop.world).world } alive
      (conduct.minuted.fire callback loop.outlook loop.world).orders).receives
    rw [ran]
    simp only [serve]
    split
    · exact ⟨ordered.table, ordered.ended, ordered.came, ordered.alive⟩
    · exact ordered

/-! ## What a change does to objects -/

/-- A change moves the object that it brings into the table or to its end, and others to theirs. -/
theorem apply_places (names : conduct.Names name) (filed : loop.Filed) (change : Change B C)
    (object : ι) :
    often name object (loop.apply conduct.minuted change).table.values +
        often name object (loop.apply conduct.minuted change).ended =
      often name object loop.table.values + often name object loop.ended +
        often name object (eventsIn [change]) := by
  obtain ⟨ended, conserves⟩ := apply_conserves conduct.minuted filed change
  have objects := often_idle names object conserves.objects
  have grown : (loop.apply conduct.minuted change).ended = loop.ended ++ ended :=
    conserves.world _ (minuted_reckons conduct)
  rw [grown]
  rw [often_append, often_append] at objects
  rw [often_append]
  omega

/-- What an order brings that comes too late has ended. -/
theorem carryOut_late (conduct : Conduct B C W) (gone : loop.alive = false) (order : Order B C) :
    (loop.carryOut conduct.minuted order).inbox = loop.inbox ∧
      (loop.carryOut conduct.minuted order).ended = loop.ended ++ ordersBring [order] := by
  cases order with
  | stop => exact ⟨rfl, (List.append_nil _).symm⟩
  | wake => exact ⟨rfl, (List.append_nil _).symm⟩
  | change change =>
    simp only [carryOut, submit, gone, Bool.false_eq_true, ↓reduceIte]
    cases change with
    | add event mask => exact ⟨rfl, rfl⟩
    | rearm target mask => exact ⟨rfl, (List.append_nil _).symm⟩
    | remove target => exact ⟨rfl, (List.append_nil _).symm⟩
    | schedule target delay => exact ⟨rfl, (List.append_nil _).symm⟩
    | timer callback interval delayed repeats => exact ⟨rfl, (List.append_nil _).symm⟩

end Loop

/-! ## Every object is somewhere -/

namespace Site

variable [DecidableEq ι] {conduct : Conduct B C W} {name : Event B → ι} {object : ι}
  {start site next : Site B C (W × Minutes B)} {deeds : List Deed} {handed : List (Event B)}

private theorem often_waiting (name : Event B → ι) (object : ι) (site : Site B C W) :
    often name object site.waiting =
      often name object site.loop.upcoming +
        often name object (Loop.eventsIn site.stage.ahead) := by
  rw [waiting, ahead, Loop.upcoming, Loop.eventsIn_append, Loop.eventsIn_append]
  simp only [often_append]
  omega

/-- Whoever comes to wait is in one place more. -/
theorem places_receives {fresh : List (Event B)}
    (receives : Loop.Receives name site.loop fresh next.loop)
    (ahead : next.stage.ahead = site.stage.ahead) :
    next.places name object = site.places name object + often name object fresh := by
  have came := often_perm name object receives.came
  rw [often_append] at came
  simp only [places, often_waiting, receives.table, receives.ended, ahead, came]
  omega

private theorem places_same (receives : Loop.Receives name site.loop [] next.loop)
    (ahead : next.stage.ahead = site.stage.ahead) :
    next.places name object = site.places name object := by
  rw [places_receives receives ahead, often_nil, Nat.add_zero]

/-- Where a change is applied to the objects of a site, only what waits has to be counted. -/
theorem places_apply (names : conduct.Names name) {loop : Loop B C (W × Minutes B)}
    (filed : loop.Filed) (change : Change B C) {stage : Stage B C} {fresh : List (Event B)}
    (table : loop.table = site.loop.table) (ended : loop.ended = site.loop.ended)
    (waits : often name object (waiting ⟨loop.apply conduct.minuted change, stage⟩) +
        often name object (Loop.eventsIn [change]) =
      often name object site.waiting + often name object fresh) :
    places name object ⟨loop.apply conduct.minuted change, stage⟩ =
      site.places name object + often name object fresh := by
  have moved := Loop.apply_places names filed change object
  rw [table, ended] at moved
  simp only [places]
  omega

/-- Most steps bring nobody and leave everybody in place. -/
theorem places_still (nobody : site.brings conduct.minuted = [])
    (receives : Loop.Receives name site.loop [] next.loop)
    (ahead : next.stage.ahead = site.stage.ahead) :
    next.places name object =
      site.places name object + often name object (site.brings conduct.minuted) := by
  rw [places_same receives ahead, nobody, often_nil, Nat.add_zero]

/-- What was asked for is ahead when it is handed over. -/
theorem places_handOver (nobody : site.brings conduct.minuted = [])
    (same : next.loop = site.loop.handOver) (nothing : site.stage.ahead = [])
    (ahead : next.stage.ahead = site.loop.changes.pending) :
    next.places name object =
      site.places name object + often name object (site.brings conduct.minuted) := by
  rw [nobody]
  simp only [places, often_waiting, Loop.upcoming, Loop.handOver, Loop.ended, same, nothing, ahead,
    often_append, often_nil, Loop.eventsIn, List.filterMap_nil]
  omega

/-- **A step loses no object and doubles none.** -/
theorem Step.places (step : Step conduct.minuted site deeds next) (names : conduct.Names name)
    (filed : site.loop.Filed) (alive : site.loop.alive = true) :
    next.places name object =
      site.places name object + often name object (site.brings conduct.minuted) := by
  cases step with
  | begin loop => exact places_still rfl (.of_same rfl rfl rfl rfl rfl) rfl
  | @take loop change rest inbox =>
    have filedRest : ({ loop with inbox := rest } : Loop B C (W × Minutes B)).Filed := filed
    obtain ⟨left, kept, _⟩ := { loop with inbox := rest }.apply_keeps conduct.minuted change
    refine places_apply names filedRest change rfl rfl ?_
    have listed : Loop.eventsIn loop.inbox = Loop.eventsIn [change] ++ Loop.eventsIn rest := by
      rw [inbox, Loop.eventsIn_cons]
    simp only [often_waiting, Loop.upcoming, left, kept, listed, often_append, often_nil, brings,
      doings, List.flatMap_nil, Stage.ahead]
    omega
  | poll inbox prompt timeout entries queue =>
    exact places_still rfl (.of_same rfl rfl rfl rfl rfl) rfl
  | pollFails inbox => exact places_still rfl (.of_same rfl rfl rfl rfl rfl) rfl
  | @pass loop entry entries unheard =>
    have nobody : brings conduct.minuted ⟨loop, .delivering (entry :: entries)⟩ = [] :=
      congrArg (List.flatMap Doing.brings) (doings_of_unheard conduct.minuted entries unheard)
    refine places_still nobody ?_ rfl
    unfold Loop.passOver
    split
    · exact .of_same rfl rfl rfl rfl rfl
    · split <;> exact .of_same rfl rfl rfl rfl rfl
  | @hear loop entry entries event heard input =>
    have told := Loop.notify_receives names alive (loop.inputNotice entry.token.handle)
      entry.token.handle
    have same : brings conduct.minuted ⟨loop, .delivering (entry :: entries)⟩ = _ :=
      congrArg (List.flatMap Doing.brings) (doings_of_input conduct.minuted entries heard input)
    rw [same]
    exact places_receives told rfl
  | @hearNothing loop entry entries event heard input =>
    have nobody : brings conduct.minuted ⟨loop, .delivering (entry :: entries)⟩ = [] :=
      congrArg (List.flatMap Doing.brings) (doings_of_no_input conduct.minuted entries input)
    exact places_still nobody (.of_same rfl rfl rfl rfl rfl) rfl
  | @answer loop handle entries kept =>
    have told := Loop.notify_receives names alive .writable handle
    have same : brings conduct.minuted ⟨loop, .answering handle true entries⟩ = _ :=
      congrArg (List.flatMap Doing.brings) (doings_of_output conduct.minuted entries kept)
    rw [same]
    exact places_receives told rfl
  | @answerNothing loop handle output entries silent =>
    have nobody : brings conduct.minuted ⟨loop, .answering handle output entries⟩ = [] :=
      congrArg (List.flatMap Doing.brings) (doings_of_no_output conduct.minuted entries silent)
    exact places_still nobody (.of_same rfl rfl rfl rfl rfl) rfl
  | handOver loop => exact places_handOver rfl rfl rfl rfl
  | apply loop change pending second =>
    obtain ⟨left, kept, _⟩ := loop.apply_keeps conduct.minuted change
    have listed := Loop.eventsIn_cons change pending
    refine places_apply names filed change rfl rfl ?_
    simp only [often_waiting, Loop.upcoming, left, kept, listed, often_append, often_nil, brings,
      doings, List.flatMap_nil, Stage.ahead]
    omega
  | ring loop => exact places_still rfl (.of_same rfl rfl rfl rfl rfl) rfl
  | serve loop now alarm due =>
    exact places_receives (Loop.serve_receives names alive now alarm due) rfl
  | silence loop now => exact places_handOver rfl rfl rfl rfl
  | rest loop => exact places_still rfl (.of_same rfl rfl rfl rfl rfl) rfl

/-! ## At every moment of a life -/

/-- What is there at a site is what was handed over, and nothing is there without a loop. -/
structure Settled (name : Event B → ι) (handed : List (Event B))
    (site : Site B C (W × Minutes B)) : Prop where
  filed : site.loop.Filed
  balance : ∀ object, site.places name object = often name object handed
  vacant : site.loop.alive = false → site.waiting = [] ∧ site.loop.table = {}

private theorem Settled.stepped (settled : site.Settled name handed) (names : conduct.Names name)
    (alive : site.loop.alive = true) (step : Step conduct.minuted site deeds next) :
    next.Settled name (handed ++ site.brings conduct.minuted) where
  filed := (step.accounted settled.filed).filed
  balance object := by
    rw [step.places names settled.filed alive, settled.balance, often_append]
  vacant gone := by cases gone.symm.trans (step.lives alive)

private theorem Settled.ordered (settled : site.Settled name handed) (order : Order B C) :
    Settled name (handed ++ Loop.ordersBring [order])
      { site with loop := site.loop.carryOut conduct.minuted order } := by
  have filed := (Loop.accounts_carryOut conduct.minuted settled.filed order).filed
  cases alive : site.loop.alive with
  | true =>
    have ordered := Loop.carryOut_ordered conduct.minuted alive order
    refine ⟨filed, fun object => ?_, fun gone => ?_⟩
    · have came : places name object
          { site with loop := site.loop.carryOut conduct.minuted order } =
            site.places name object + often name object (Loop.ordersBring [order]) :=
        places_receives ordered.receives rfl
      rw [came, settled.balance, often_append]
    · cases gone.symm.trans (ordered.alive.trans alive)
  | false =>
    obtain ⟨table, changes, _⟩ := site.loop.carryOut_keeps conduct.minuted order
    obtain ⟨inbox, ended⟩ := Loop.carryOut_late conduct alive order
    have waits : waiting { site with loop := site.loop.carryOut conduct.minuted order } =
        site.waiting := by
      rw [waiting, waiting, ahead, ahead, changes, inbox]
    refine ⟨filed, fun object => ?_, fun _ => ?_⟩
    · have balance := settled.balance object
      simp only [places, waits, table, ended, often_append] at balance ⊢
      omega
    · rw [waits, table]
      exact settled.vacant alive

private theorem Settled.called {loop : Loop B C (W × Minutes B)}
    (settled : Settled name handed ⟨loop, .resting⟩) (names : conduct.Names name)
    (alive : loop.alive = true) (change : Change B C) :
    Settled name (handed ++ Loop.eventsIn [change])
      ⟨loop.apply conduct.minuted change, .resting⟩ := by
  have filed : loop.Filed := settled.filed
  obtain ⟨left, kept, lives⟩ := loop.apply_keeps conduct.minuted change
  refine ⟨(Loop.accounts_apply conduct.minuted filed change).filed, fun object => ?_,
    fun gone => ?_⟩
  · have moved := Loop.apply_places names filed change object
    have balance := settled.balance object
    simp only [places, often_waiting, Loop.upcoming, left, kept, often_append] at balance ⊢
    omega
  · cases gone.symm.trans (lives.trans alive)

/-- With a loop all that it has ends. -/
theorem Settled.closed {loop : Loop B C (W × Minutes B)}
    (settled : Settled name handed ⟨loop, .resting⟩) :
    Settled name handed ⟨loop.close conduct.minuted, .resting⟩ := by
  obtain ⟨table, changes, inbox, _⟩ := Loop.close_empty conduct.minuted loop
  have ended : (loop.close conduct.minuted).ended = loop.ended ++
      (loop.table.values ++ Loop.eventsIn loop.changes.pending ++ Loop.eventsIn loop.inbox) :=
    Loop.close_ends conduct.minuted loop (Loop.minuted_reckons conduct)
  have nobody : waiting ⟨loop.close conduct.minuted, .resting⟩ = [] := by
    rw [waiting, ahead, changes, inbox]
    rfl
  refine ⟨fun handle owner found => ?_, fun object => ?_, fun _ => ⟨nobody, table⟩⟩
  · rw [Loop.lookup, table] at found
    cases found
  · have balance := settled.balance object
    have none : often name object ({} : Keyed Handle (Event B)).values = 0 := rfl
    simp only [places, nobody, table, ended, none, often_append, often_nil, often_waiting,
      Loop.upcoming, Stage.ahead, Loop.eventsIn, List.filterMap_nil] at balance ⊢
    omega

/-- **What is there is what was handed over**, all through the life of a loop. -/
theorem Lifetime.settled {around : W → W → Prop} {before : List (Event B)}
    (life : Lifetime conduct.minuted (Beyond around) start deeds handed site)
    (names : conduct.Names name) (initially : start.Settled name before) :
    site.Settled name (before ++ handed) := by
  induction life with
  | start => rwa [List.append_nil]
  | step life alive step ih =>
    rw [← List.append_assoc]
    exact ih.stepped names alive step
  | order life order ih =>
    rw [← List.append_assoc]
    exact ih.ordered order
  | call life alive change ih =>
    rw [← List.append_assoc]
    exact ih.called names alive change
  | @elsewhere deeds handed site world life moved queue ih =>
    have still : Loop.Receives name site.loop [] { site.loop with
        world
        selector := { site.loop.selector with
          poller := { site.loop.selector.poller with queue } } } :=
      .of_same rfl (congrArg Minutes.ended moved.2) rfl rfl rfl
    refine ⟨ih.filed, fun object => ?_, ih.vacant⟩
    rw [← ih.balance object]
    exact places_same still rfl
  | close life alive ih => exact ih.closed

/-- A list of objects for each place, and all that were handed over. -/
theorem Settled.placed (settled : site.Settled name handed) :
    (site.waiting ++ site.loop.table.values ++ site.loop.ended).map name ~ handed.map name := by
  refine List.perm_iff_count.2 fun object => ?_
  have balance := settled.balance object
  rw [places, ← often_append, ← often_append] at balance
  exact balance

/-- Nothing is there at a loop that has just been made. -/
theorem Unused.settled {start : Site B C W} (unused : start.Unused) (name : Event B → ι) :
    start.onRecord.Settled name [] := by
  have nobody : start.onRecord.waiting = [] := unused.nobody_waits
  have empty : start.onRecord.loop.table = {} := unused.table
  refine ⟨fun handle owner found => ?_, fun object => ?_, fun _ => ⟨nobody, empty⟩⟩
  · cases (unused.free handle).symm.trans found
  · rw [places, nobody, empty]
    rfl

end Site

end EventLoop
