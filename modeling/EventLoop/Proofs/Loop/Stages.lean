import EventLoop.Loop.Turn

/-! The turn of a loop, cut wherever somebody else can come in between. A stage
says how far the loop's own thread has come; a step takes it further by one
change, one half of an entry, or one alarm. `turn_steps` is the reason to trust
the cut: a turn is a run of these steps. What a poll finds, and how long it waits,
is left open, so the steps also cover polls that no poller here would answer. -/
namespace EventLoop

variable {B C W : Type}

/-- How far `Reactor::turn` has come. -/
inductive Stage (B C : Type) where
  /-- Between two turns. -/
  | resting
  /-- Applying what is in the inbox. -/
  | draining
  /-- Delivering a batch. -/
  | delivering (entries : List Ready)
  /-- In the middle of an entry: its object has been told of input, and is to be
  told of room for output if there is some. -/
  | answering (handle : Handle) (output : Bool) (entries : List Ready)
  /-- Applying what was asked for in the batch, or, the second time, what was
  asked for when alarms were served. -/
  | applying (pending : List (Change B C)) (second : Bool)
  /-- Serving the alarms that had fallen due at `now`. -/
  | ringing (now : Nat) (due : List (Alarm C))

/-- A loop and the stage that its thread, the one that calls `Reactor::turn`, has come
to. -/
structure Site (B C W : Type) where
  loop : Loop B C W
  stage : Stage B C := .resting

/-! ## What a loop calls for -/

/-- One call of `EventHandler::handle_event`: what an object was told, the object as it
was then, and what it asked for. -/
structure Telling (B : Type) where
  notice : Notice
  event : Event B
  requests : List (Request B)

/-- The removal of a handle was asked for. -/
def Telling.Silences (telling : Telling B) (handle : Handle) : Prop :=
  .remove handle ∈ telling.requests

/-- What a loop's thread calls for: a `TimerCallback` runs, says whether it wants to
run again and becomes `kept`, or an object is told something. Both may give orders. -/
inductive Doing (B C : Type) where
  | ran (callback : C) (again : Bool) (kept : C) (orders : List (Order B C))
  | told (telling : Telling B) (orders : List (Order B C))

namespace Loop

/-- What telling an object something comes to. -/
def tells (conduct : Conduct B C W) (notice : Notice) (loop : Loop B C W) (event : Event B) :
    Doing B C :=
  let reaction := conduct.notify notice event loop.outlook loop.world
  .told ⟨notice, event, reaction.requests⟩ reaction.orders

/-- What telling the owner of a handle something comes to. -/
def tellings (conduct : Conduct B C W) (notice : Notice) (handle : Handle) (loop : Loop B C W) :
    List (Doing B C) :=
  (loop.lookup handle).toList.map (loop.tells conduct notice)

theorem tellings_of_missing (conduct : Conduct B C W) (notice : Notice) {handle : Handle}
    {loop : Loop B C W} (missing : loop.lookup handle = none) :
    loop.tellings conduct notice handle = [] := by
  rw [tellings, missing]
  rfl

theorem tellings_of_found (conduct : Conduct B C W) (notice : Notice) {handle : Handle}
    {loop : Loop B C W} {event : Event B} (found : loop.lookup handle = some event) :
    loop.tellings conduct notice handle = [loop.tells conduct notice event] := by
  rw [tellings, found]
  rfl

/-- What running a callback comes to. -/
def runs (conduct : Conduct B C W) (callback : C) (loop : Loop B C W) : Doing B C :=
  let firing := conduct.fire callback loop.outlook loop.world
  .ran callback firing.again firing.callback firing.orders

/-- Who hears of an entry, after the checks of `Multiplexer::poll`: the owner of its
handle, if it is watched and is not to be removed. -/
def hearer? (entry : Ready) (loop : Loop B C W) : Option (Event B) :=
  if entry.token = wakerToken || loop.changes.isRemoved entry.token.handle then none
  else (loop.lookup entry.token.handle).filter fun event => event.standing = .added

theorem lookup_of_hearer? {entry : Ready} {loop : Loop B C W} {event : Event B}
    (heard : loop.hearer? entry = some event) :
    loop.lookup entry.token.handle = some event := by
  unfold hearer? at heard
  split at heard
  · cases heard
  · exact (Option.filter_eq_some_iff.1 heard).1

/-- Who hears of an alarm, after the checks of `Reactor::fire_timers`: the owner of its
handle, if it is the one that the alarm is for and is not to be removed. -/
def roused? (handle : Handle) (generation : UInt64) (loop : Loop B C W) : Option (Event B) :=
  if loop.changes.isRemoved handle then none
  else (loop.lookup handle).filter fun event => event.generation = generation

section Alarms

variable {handle : Handle} {generation : UInt64} {loop : Loop B C W} {event : Event B}

theorem roused?_eq_some :
    loop.roused? handle generation = some event ↔
      loop.changes.isRemoved handle = false ∧ loop.lookup handle = some event ∧
        event.generation = generation := by
  unfold roused?
  cases loop.changes.isRemoved handle with
  | true => simp
  | false => simp [Option.filter_eq_some_iff]

private theorem roused?_isSome :
    (loop.roused? handle generation).isSome =
      (loop.owns { handle, generation := some generation } && !loop.changes.isRemoved handle) := by
  unfold roused? owns
  cases loop.changes.isRemoved handle with
  | true => simp
  | false =>
    cases loop.lookup handle with
    | none => rfl
    | some owner => by_cases same : owner.generation = generation <;> simp [Option.filter, same]

/-- The owner that an alarm is for is told of it. -/
theorem serve_of_roused (conduct : Conduct B C W) (now : Nat)
    (roused : loop.roused? handle generation = some event) :
    loop.serve conduct now (.event handle generation) = loop.notify conduct .timer handle := by
  rw [serve, ← roused?_isSome, roused]
  rfl

/-- An alarm that nobody hears of leaves a loop as it is. -/
theorem serve_of_unroused (conduct : Conduct B C W) (now : Nat)
    (unroused : loop.roused? handle generation = none) :
    loop.serve conduct now (.event handle generation) = loop := by
  rw [serve, ← roused?_isSome, unroused]
  rfl

end Alarms

end Loop

namespace Site

/-- What the next step of a loop's thread calls for. Where the calls are written down, these are
what a step writes: `Site.Step.journaled`. -/
def doings (conduct : Conduct B C W) (site : Site B C W) : List (Doing B C) :=
  match site.stage with
  | .delivering (entry :: _) =>
    if (site.loop.hearer? entry).isSome && entry.readiness.input then
      site.loop.tellings conduct (site.loop.inputNotice entry.token.handle) entry.token.handle
    else []
  | .answering handle output _ =>
    if output && !site.loop.changes.isRemoved handle then
      site.loop.tellings conduct .writable handle
    else []
  | .ringing _ (.event handle generation :: _) =>
    if (site.loop.roused? handle generation).isSome then
      site.loop.tellings conduct .timer handle
    else []
  | .ringing _ (.callback callback _ _ :: _) => [site.loop.runs conduct callback]
  | _ => []

section Doings

variable (conduct : Conduct B C W) {loop : Loop B C W} {entry : Ready} (entries : List Ready)

theorem doings_of_unheard (unheard : loop.hearer? entry = none) :
    doings conduct ⟨loop, .delivering (entry :: entries)⟩ = [] := by
  simp [doings, unheard]

theorem doings_of_input {event : Event B} (heard : loop.hearer? entry = some event)
    (input : entry.readiness.input = true) :
    doings conduct ⟨loop, .delivering (entry :: entries)⟩ =
      loop.tellings conduct (loop.inputNotice entry.token.handle) entry.token.handle := by
  simp [doings, heard, input]

theorem doings_of_no_input (input : entry.readiness.input = false) :
    doings conduct ⟨loop, .delivering (entry :: entries)⟩ = [] := by
  simp [doings, input]

theorem doings_of_output {handle : Handle} (kept : loop.changes.isRemoved handle = false) :
    doings conduct ⟨loop, .answering handle true entries⟩ =
      loop.tellings conduct .writable handle := by
  simp [doings, kept]

theorem doings_of_no_output {handle : Handle} {output : Bool}
    (silent : output = false ∨ loop.changes.isRemoved handle = true) :
    doings conduct ⟨loop, .answering handle output entries⟩ = [] := by
  rcases silent with silent | silent <;> simp [doings, silent]

variable {handle : Handle} {generation : UInt64} (now : Nat) (due : List (Alarm C))

theorem doings_of_roused {event : Event B} (roused : loop.roused? handle generation = some event) :
    doings conduct ⟨loop, .ringing now (.event handle generation :: due)⟩ =
      loop.tellings conduct .timer handle := by
  simp [doings, roused]

theorem doings_of_unroused (unroused : loop.roused? handle generation = none) :
    doings conduct ⟨loop, .ringing now (.event handle generation :: due)⟩ = [] := by
  simp [doings, unroused]

end Doings

end Site

/-! ## What a history tells -/

/-- What can happen to the owner of a handle, who is named by the generation: a line of
the history that a loop's thread leaves behind. -/
inductive Deed where
  /-- It becomes the owner. -/
  | entered (handle : Handle) (generation : UInt64)
  /-- It is removed. -/
  | left (handle : Handle) (generation : UInt64)
  /-- An alarm is put on the agenda for it. -/
  | scheduled (handle : Handle) (generation : UInt64)
  | told (notice : Notice) (handle : Handle) (generation : UInt64)
  /-- An alarm for it has fallen due and is not delivered. -/
  | lapsed (handle : Handle) (generation : UInt64)
deriving DecidableEq, Repr

/-- Whether somebody is told something. -/
def Deed.isTold : Deed → Bool
  | .told .. => true
  | _ => false

/-- What is called for as a deed: an object that is told something owns its handle. -/
def Doing.deed? : Doing B C → Option Deed
  | .told telling _ => some (.told telling.notice telling.event.handle telling.event.generation)
  | .ran .. => none

namespace Loop

/-- The generation of the owner of a handle. -/
def owner? (handle : Handle) (loop : Loop B C W) : Option UInt64 :=
  (loop.lookup handle).map Event.generation

/-- What adding does to owners. A failure leaves nothing behind; otherwise the
object has become the owner, unless there was one, and whoever owns the handle
then is who a timer bit means. -/
def addDeeds (conduct : Conduct B C W) (event : Event B) (mask : Interest)
    (loop : Loop B C W) : List Deed :=
  match (loop.addEvent conduct event mask).1 with
  | .error _ => []
  | .ok () =>
    (if (loop.owner? event.handle).isNone then [.entered event.handle event.generation] else []) ++
      if mask.includes .timer then
        [.scheduled event.handle ((loop.owner? event.handle).getD event.generation)]
      else []

/-- What applying a change does to owners. -/
def changeDeeds (conduct : Conduct B C W) (loop : Loop B C W) : Change B C → List Deed
  | .add event mask => loop.addDeeds conduct event mask
  | .rearm _ _ => []
  | .remove target =>
    if loop.owns target then
      (loop.owner? target.handle).toList.map (.left target.handle)
    else []
  | .schedule target _ =>
    if loop.owns target then
      (loop.owner? target.handle).toList.map (.scheduled target.handle)
    else []
  | .timer .. => []

/-- Whom a notification reaches. -/
def noticeDeeds (notice : Notice) (handle : Handle) (loop : Loop B C W) : List Deed :=
  (loop.owner? handle).toList.map (.told notice handle)

/-- What serving an alarm does to owners. -/
def alarmDeeds (loop : Loop B C W) : Alarm C → List Deed
  | .event handle generation =>
    if (loop.roused? handle generation).isSome then [.told .timer handle generation]
    else [.lapsed handle generation]
  | .callback .. => []

section AlarmDeeds

variable {loop : Loop B C W} {handle : Handle} {generation : UInt64} {event : Event B}

/-- An alarm that somebody hears of is a notice to the owner of its handle. -/
theorem alarmDeeds_of_roused (roused : loop.roused? handle generation = some event) :
    loop.alarmDeeds (.event handle generation : Alarm C) = loop.noticeDeeds .timer handle := by
  obtain ⟨_, found, rfl⟩ := roused?_eq_some.1 roused
  rw [alarmDeeds, roused, noticeDeeds, owner?, found]
  rfl

theorem alarmDeeds_of_unroused (unroused : loop.roused? handle generation = none) :
    loop.alarmDeeds (.event handle generation : Alarm C) = [.lapsed handle generation] := by
  rw [alarmDeeds, unroused]
  rfl

end AlarmDeeds

/-! ## The two halves of an entry -/

/-- Passes over an entry that nobody hears of. -/
def passOver (conduct : Conduct B C W) (entry : Ready) (loop : Loop B C W) : Loop B C W :=
  if entry.token = wakerToken || loop.changes.isRemoved entry.token.handle then loop
  else
    match loop.lookup entry.token.handle with
    | none => { loop with world := conduct.unresolved entry.token.handle loop.world }
    | some _ => loop

/-- Hands over what was asked for, to be applied. -/
def handOver (loop : Loop B C W) : Loop B C W := { loop with changes := {} }

end Loop

/-! ## Steps -/

namespace Site

/-- One step of the loop's own thread, with what it does to owners. A poll may
find anything, and may fail. -/
inductive Step (conduct : Conduct B C W) : Site B C W → List Deed → Site B C W → Prop where
  | begin (loop : Loop B C W) : Step conduct ⟨loop, .resting⟩ [] ⟨loop, .draining⟩
  | take {loop : Loop B C W} {change : Change B C} {rest : List (Change B C)}
      (inbox : loop.inbox = change :: rest) :
      Step conduct ⟨loop, .draining⟩ ({ loop with inbox := rest }.changeDeeds conduct change)
        ⟨{ loop with inbox := rest }.apply conduct change, .draining⟩
  | poll {loop : Loop B C W} (inbox : loop.inbox = []) (prompt : Bool) (timeout : Option Nat)
      (entries : List Ready) (queue : List Mark) :
      Step conduct ⟨loop, .draining⟩ []
        ⟨{ loop with
            selector := { loop.selector with poller := { loop.selector.poller with queue } }
            world := conduct.wait prompt timeout (conduct.clock loop.world).2 },
          .delivering entries⟩
  | pollFails {loop : Loop B C W} (inbox : loop.inbox = []) :
      Step conduct ⟨loop, .draining⟩ []
        ⟨{ loop with world := (conduct.clock loop.world).2 }, .resting⟩
  | pass {loop : Loop B C W} {entry : Ready} (entries : List Ready)
      (unheard : loop.hearer? entry = none) :
      Step conduct ⟨loop, .delivering (entry :: entries)⟩ []
        ⟨loop.passOver conduct entry, .delivering entries⟩
  | hear {loop : Loop B C W} {entry : Ready} (entries : List Ready) {event : Event B}
      (heard : loop.hearer? entry = some event) (input : entry.readiness.input = true) :
      Step conduct ⟨loop, .delivering (entry :: entries)⟩
        (loop.noticeDeeds (loop.inputNotice entry.token.handle) entry.token.handle)
        ⟨loop.notify conduct (loop.inputNotice entry.token.handle) entry.token.handle,
          .answering entry.token.handle entry.readiness.output entries⟩
  | hearNothing {loop : Loop B C W} {entry : Ready} (entries : List Ready) {event : Event B}
      (heard : loop.hearer? entry = some event) (input : entry.readiness.input = false) :
      Step conduct ⟨loop, .delivering (entry :: entries)⟩ []
        ⟨loop, .answering entry.token.handle entry.readiness.output entries⟩
  | answer {loop : Loop B C W} {handle : Handle} (entries : List Ready)
      (kept : loop.changes.isRemoved handle = false) :
      Step conduct ⟨loop, .answering handle true entries⟩ (loop.noticeDeeds .writable handle)
        ⟨loop.notify conduct .writable handle, .delivering entries⟩
  | answerNothing {loop : Loop B C W} {handle : Handle} {output : Bool} (entries : List Ready)
      (silent : output = false ∨ loop.changes.isRemoved handle = true) :
      Step conduct ⟨loop, .answering handle output entries⟩ [] ⟨loop, .delivering entries⟩
  | handOver (loop : Loop B C W) :
      Step conduct ⟨loop, .delivering []⟩ []
        ⟨loop.handOver, .applying loop.changes.pending false⟩
  | apply (loop : Loop B C W) (change : Change B C) (pending : List (Change B C))
      (second : Bool) :
      Step conduct ⟨loop, .applying (change :: pending) second⟩ (loop.changeDeeds conduct change)
        ⟨loop.apply conduct change, .applying pending second⟩
  | ring (loop : Loop B C W) :
      Step conduct ⟨loop, .applying [] false⟩ []
        ⟨{ (loop.readClock conduct).2 with
            agenda := (loop.agenda.expired (loop.readClock conduct).1).2 },
          .ringing (loop.readClock conduct).1
            (loop.agenda.expired (loop.readClock conduct).1).1⟩
  | serve (loop : Loop B C W) (now : Nat) (alarm : Alarm C) (due : List (Alarm C)) :
      Step conduct ⟨loop, .ringing now (alarm :: due)⟩ (loop.alarmDeeds alarm)
        ⟨loop.serve conduct now alarm, .ringing now due⟩
  | silence (loop : Loop B C W) (now : Nat) :
      Step conduct ⟨loop, .ringing now []⟩ []
        ⟨loop.handOver, .applying loop.changes.pending true⟩
  | rest (loop : Loop B C W) :
      Step conduct ⟨loop, .applying [] true⟩ [] ⟨loop, .resting⟩

/-- Steps of the loop's own thread with nobody coming in between. -/
inductive Steps (conduct : Conduct B C W) : Site B C W → List Deed → Site B C W → Prop where
  | here (site : Site B C W) : Steps conduct site [] site
  | step {early middle late : Site B C W} {deeds more : List Deed}
      (first : Step conduct early deeds middle) (steps : Steps conduct middle more late) :
      Steps conduct early (deeds ++ more) late

private theorem Steps.trans {conduct : Conduct B C W} {early middle late : Site B C W}
    {deeds more : List Deed} (first : Steps conduct early deeds middle)
    (second : Steps conduct middle more late) : Steps conduct early (deeds ++ more) late := by
  induction first with
  | here => exact second
  | step start steps ih =>
    rw [List.append_assoc]
    exact .step start (ih second)

theorem Step.steps {conduct : Conduct B C W} {early late : Site B C W} {deeds : List Deed}
    (step : Step conduct early deeds late) : Steps conduct early deeds late := by
  have single := Steps.step step (.here late)
  rwa [List.append_nil] at single

end Site

/-! ## A turn is a run of steps -/

namespace Loop

variable {conduct : Conduct B C W}

/-- A loop with another inbox, with other changes asked for, and there to read
them or not. -/
def asked (inbox : List (Change B C)) (changes : Changes B C) (alive : Bool)
    (loop : Loop B C W) : Loop B C W :=
  { loop with inbox, changes, alive }

variable (inbox : List (Change B C)) (changes : Changes B C) (alive : Bool) (loop : Loop B C W)

private theorem settle_asked (event : Event B) (mask : Interest) :
    (loop.asked inbox changes alive).settle conduct event mask =
      ((loop.settle conduct event mask).1,
        (loop.settle conduct event mask).2.asked inbox changes alive) := by
  have registered : (loop.asked inbox changes alive).registerRest conduct event mask =
      (loop.registerRest conduct event mask).map id (asked inbox changes alive) := by
    unfold registerRest
    split <;> rfl
  rw [settle, settle, registered]
  exact alarmed_map fun _ _ => rfl

private theorem addEvent_asked (event : Event B) (mask : Interest) :
    (loop.asked inbox changes alive).addEvent conduct event mask =
      ((loop.addEvent conduct event mask).1,
        (loop.addEvent conduct event mask).2.asked inbox changes alive) := by
  unfold addEvent
  split
  · rfl
  · have found : (loop.asked inbox changes alive).lookup event.handle =
        loop.lookup event.handle := rfl
    rw [found]
    split
    · rw [settle_asked]
      rfl
    · have entered : { loop.asked inbox changes alive with
            table := (loop.asked inbox changes alive).table.insert event.handle event } =
          { loop with table := loop.table.insert event.handle event }.asked inbox changes alive :=
        rfl
      simp only
      rw [entered, settle_asked]
      generalize ({ loop with table := loop.table.insert event.handle event }).settle conduct event
        mask = after
      obtain ⟨outcome, after⟩ := after
      cases outcome with
      | error fault => rfl
      | ok _ => rfl

private theorem removeEvent_asked (handle : Handle) :
    (loop.asked inbox changes alive).removeEvent conduct handle =
      ((loop.removeEvent conduct handle).1,
        (loop.removeEvent conduct handle).2.asked inbox changes alive) := by
  have found : (loop.asked inbox changes alive).lookup handle = loop.lookup handle := rfl
  unfold removeEvent
  rw [found]
  split <;> rfl

/-- Applying a change looks into neither list of changes, and puts nothing there. -/
theorem apply_asked (change : Change B C) :
    (loop.asked inbox changes alive).apply conduct change =
      (loop.apply conduct change).asked inbox changes alive := by
  have found (handle : Handle) :
      (loop.asked inbox changes alive).lookup handle = loop.lookup handle := rfl
  have owns (target : Target) :
      (loop.asked inbox changes alive).owns target = loop.owns target := rfl
  cases change with
  | add event mask => exact congrArg Prod.snd (addEvent_asked inbox changes alive loop event mask)
  | rearm target mask =>
    simp only [apply, owns, rearm, found]
    split
    · split <;> rfl
    · rfl
  | remove target =>
    simp only [apply, owns]
    split
    · exact congrArg Prod.snd (removeEvent_asked inbox changes alive loop target.handle)
    · rfl
  | schedule target delay =>
    simp only [apply, owns, found]
    split
    · split <;> rfl
    · rfl
  | timer callback interval delayed repeats => rfl

theorem apply_keeps (conduct : Conduct B C W) (loop : Loop B C W) (change : Change B C) :
    (loop.apply conduct change).inbox = loop.inbox ∧
      (loop.apply conduct change).changes = loop.changes ∧
      (loop.apply conduct change).alive = loop.alive := by
  have same : loop.apply conduct change =
      (loop.apply conduct change).asked loop.inbox loop.changes loop.alive :=
    apply_asked loop.inbox loop.changes loop.alive loop change
  have inboxes := congrArg Loop.inbox same
  have changes := congrArg Loop.changes same
  have lives := congrArg Loop.alive same
  exact ⟨inboxes, changes, lives⟩

theorem apply_inbox (change : Change B C) :
    { loop with inbox }.apply conduct change = { loop.apply conduct change with inbox } := by
  have moved : { loop with inbox }.apply conduct change =
      (loop.apply conduct change).asked inbox loop.changes loop.alive :=
    apply_asked inbox loop.changes loop.alive loop change
  obtain ⟨_, same, lives⟩ := loop.apply_keeps conduct change
  rw [moved, asked, ← same, ← lives]

private theorem foldl_apply_inbox (pending : List (Change B C)) (loop : Loop B C W) :
    (pending.foldl (apply conduct) loop).inbox = loop.inbox := by
  induction pending generalizing loop with
  | nil => rfl
  | cons change pending ih => exact (ih _).trans (apply_keeps conduct loop change).1

end Loop

namespace Site

variable (conduct : Conduct B C W)

private theorem drain_steps (inbox : List (Change B C)) (loop : Loop B C W) :
    ∃ deeds, Steps conduct ⟨{ loop with inbox }, .draining⟩ deeds
      ⟨inbox.foldl (Loop.apply conduct) { loop with inbox := [] }, .draining⟩ := by
  induction inbox generalizing loop with
  | nil => exact ⟨[], .here _⟩
  | cons change rest ih =>
    obtain ⟨deeds, steps⟩ := ih (loop.apply conduct change)
    have first : Step conduct ⟨{ loop with inbox := change :: rest }, .draining⟩
        ({ loop with inbox := rest }.changeDeeds conduct change)
        ⟨{ loop.apply conduct change with inbox := rest }, .draining⟩ := by
      rw [← Loop.apply_inbox]
      exact .take rfl
    rw [List.foldl_cons, Loop.apply_inbox]
    exact ⟨_, .step first steps⟩

private theorem apply_steps (pending : List (Change B C)) (second : Bool) (loop : Loop B C W) :
    ∃ deeds, Steps conduct ⟨loop, .applying pending second⟩ deeds
      ⟨pending.foldl (Loop.apply conduct) loop, .applying [] second⟩ := by
  induction pending generalizing loop with
  | nil => exact ⟨[], .here _⟩
  | cons change pending ih =>
    obtain ⟨deeds, steps⟩ := ih (loop.apply conduct change)
    exact ⟨_, .step (.apply loop change pending second) steps⟩

private theorem serve_steps (now : Nat) (due : List (Alarm C)) (loop : Loop B C W) :
    ∃ deeds, Steps conduct ⟨loop, .ringing now due⟩ deeds
      ⟨due.foldl (Loop.serve conduct now) loop, .ringing now []⟩ := by
  induction due generalizing loop with
  | nil => exact ⟨[], .here _⟩
  | cons alarm due ih =>
    obtain ⟨deeds, steps⟩ := ih (loop.serve conduct now alarm)
    exact ⟨_, .step (.serve loop now alarm due) steps⟩

private theorem deliver_unheard {entry : Ready} {loop : Loop B C W}
    (unheard : loop.hearer? entry = none) :
    (loop.deliver conduct entry).2 = loop.passOver conduct entry := by
  unfold Loop.deliver Loop.passOver
  unfold Loop.hearer? at unheard
  by_cases waker : entry.token = wakerToken
  · simp [waker]
  · by_cases removed : loop.changes.isRemoved entry.token.handle = true
    · simp [waker, removed]
    · simp only [waker, removed, decide_false, Bool.or_self, Bool.false_eq_true, ↓reduceIte]
        at unheard ⊢
      cases found : loop.lookup entry.token.handle with
      | none => rfl
      | some event =>
        have unwatched : event.standing ≠ .added := by
          simpa [found] using unheard
        simp [unwatched]

/-- An entry that somebody hears of is delivered in two halves. -/
private theorem deliver_heard {entry : Ready} {loop : Loop B C W} {event : Event B}
    (heard : loop.hearer? entry = some event) :
    let told := if entry.readiness.input
      then loop.notify conduct (loop.inputNotice entry.token.handle) entry.token.handle else loop
    (loop.deliver conduct entry).2 =
      if entry.readiness.output && !told.changes.isRemoved entry.token.handle
      then told.notify conduct .writable entry.token.handle else told := by
  unfold Loop.hearer? at heard
  unfold Loop.deliver
  split at heard
  · cases heard
  · rename_i silent
    simp only [Bool.or_eq_true, decide_eq_true_eq, not_or] at silent
    obtain ⟨found, watched⟩ := Option.filter_eq_some_iff.1 heard
    simp only [decide_eq_true_eq] at watched
    simp only [silent, found, watched, ↓reduceIte, ne_eq, not_true_eq_false]
    cases entry.readiness.input with
    | true =>
      simp only [Bool.false_eq_true, ↓reduceIte]
      split
      · rfl
      · rfl
    | false =>
      simp only [Bool.false_eq_true, ↓reduceIte]
      split
      · rfl
      · rfl

private theorem deliver_steps (entry : Ready) (entries : List Ready) (loop : Loop B C W) :
    ∃ deeds, Steps conduct ⟨loop, .delivering (entry :: entries)⟩ deeds
      ⟨(loop.deliver conduct entry).2, .delivering entries⟩ := by
  cases heard : loop.hearer? entry with
  | none =>
    rw [deliver_unheard conduct heard]
    exact ⟨_, (Step.pass entries heard).steps⟩
  | some event =>
    rw [deliver_heard conduct heard]
    obtain ⟨deeds, first⟩ : ∃ deeds, Step conduct ⟨loop, .delivering (entry :: entries)⟩ deeds
        ⟨if entry.readiness.input
          then loop.notify conduct (loop.inputNotice entry.token.handle) entry.token.handle
          else loop, .answering entry.token.handle entry.readiness.output entries⟩ := by
      cases input : entry.readiness.input with
      | true => exact ⟨_, .hear entries heard input⟩
      | false => exact ⟨_, .hearNothing entries heard input⟩
    generalize (if entry.readiness.input
      then loop.notify conduct (loop.inputNotice entry.token.handle) entry.token.handle
      else loop) = told at first ⊢
    cases room : entry.readiness.output && !told.changes.isRemoved entry.token.handle with
    | true =>
      obtain ⟨output, kept⟩ := Bool.and_eq_true_iff.1 room
      rw [output] at first
      exact ⟨_, .step first (Step.answer entries (by simpa using kept)).steps⟩
    | false =>
      have silent : entry.readiness.output = false ∨
          told.changes.isRemoved entry.token.handle = true := by
        rcases Bool.and_eq_false_iff.1 room with output | removed
        · exact .inl output
        · exact .inr (by simpa using removed)
      exact ⟨_, .step first (Step.answerNothing entries silent).steps⟩

private theorem deliverAll_steps (entries : List Ready) (loop : Loop B C W) :
    ∃ deeds, Steps conduct ⟨loop, .delivering entries⟩ deeds
      ⟨(loop.deliverAll conduct entries).2, .delivering []⟩ := by
  induction entries generalizing loop with
  | nil => exact ⟨[], .here _⟩
  | cons entry entries ih =>
    obtain ⟨_, first⟩ := deliver_steps conduct entry entries loop
    obtain ⟨_, later⟩ := ih (loop.deliver conduct entry).2
    exact ⟨_, first.trans later⟩

private theorem poll_steps {loop : Loop B C W} (inbox : loop.inbox = []) (timeout : Option Nat) :
    ∃ deeds, Steps conduct ⟨loop, .draining⟩ deeds
      ⟨((loop.readClock conduct).2.poll conduct timeout).2, .delivering []⟩ := by
  obtain ⟨_, later⟩ := deliverAll_steps conduct _ _
  exact ⟨_, .step (.poll inbox _ timeout _ _) later⟩

private theorem alarm_steps (loop : Loop B C W) :
    ∃ deeds now, Steps conduct ⟨loop, .applying [] false⟩ deeds
      ⟨loop.fireAlarms conduct, .ringing now []⟩ := by
  obtain ⟨_, later⟩ := serve_steps conduct _ _ _
  exact ⟨_, _, .step (.ring loop) later⟩

/-- **A turn is a run of steps**, from one rest to the next. -/
theorem turn_steps (loop : Loop B C W) :
    ∃ deeds, Steps conduct ⟨loop, .resting⟩ deeds ⟨(loop.turn conduct).2, .resting⟩ := by
  obtain ⟨_, drain⟩ : ∃ deeds, Steps conduct ⟨loop, .draining⟩ deeds
      ⟨loop.drainInbox conduct, .draining⟩ := drain_steps conduct loop.inbox loop
  have drained : (loop.drainInbox conduct).inbox = [] := Loop.foldl_apply_inbox _ _
  unfold Loop.turn
  generalize loop.drainInbox conduct = loop at drain drained ⊢
  obtain ⟨_, deliver⟩ := poll_steps conduct drained
    ((loop.readClock conduct).2.agenda.patience (loop.readClock conduct).1
      (some (loop.readClock conduct).2.pause))
  simp only
  generalize (loop.readClock conduct).2.poll conduct _ = polled at deliver ⊢
  obtain ⟨delivered, loop⟩ := polled
  obtain ⟨_, first⟩ := apply_steps conduct loop.changes.pending false loop.handOver
  obtain ⟨_, now, alarms⟩ := alarm_steps conduct (loop.applyChanges conduct)
  obtain ⟨_, second⟩ := apply_steps conduct
    ((loop.applyChanges conduct).fireAlarms conduct).changes.pending true
    ((loop.applyChanges conduct).fireAlarms conduct).handOver
  have finished := Steps.step (.silence _ now) (second.trans (Step.rest _).steps)
  have applied := Steps.step (.handOver loop) (first.trans (alarms.trans finished))
  exact ⟨_, .step (.begin _) (drain.trans (deliver.trans applied))⟩

end Site

end EventLoop
