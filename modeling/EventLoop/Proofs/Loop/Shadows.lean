import EventLoop.Loop.Turn
import EventLoop.Proofs.Loop.Stages

/-! A loop seen through a glass. Where one conduct acts on a world of which another sees only a
part, and on that part does as the other does, a loop of the first looks like a loop of the second
at every moment: nothing that is in the world besides can make a difference to it. Whatever is
kept there only to be told afterwards is harmless for this reason: a scribe says what is written
down of the things that a conduct is called for, and nobody but the scribe gets to see it. -/
namespace EventLoop

variable {B C V W : Type}

/-- What `look` shows of the world of `fine` behaves as the world of `conduct`. -/
structure Conduct.Shadows (fine : Conduct B C V) (conduct : Conduct B C W) (look : V → W) :
    Prop where
  call (call : SourceCall) (event : Event B) (world : V) :
    conduct.call call event (look world) = (fine.call call event world).map id look
  notify (notice : Notice) (event : Event B) (outlook : Outlook B C) (world : V) :
    conduct.notify notice event outlook (look world) =
      { fine.notify notice event outlook world with
        world := look (fine.notify notice event outlook world).world }
  fire (callback : C) (outlook : Outlook B C) (world : V) :
    conduct.fire callback outlook (look world) =
      { fine.fire callback outlook world with
        world := look (fine.fire callback outlook world).world }
  level (world : V) : conduct.level (look world) = fine.level world
  clock (world : V) : conduct.clock (look world) = (fine.clock world).map id look
  wait (prompt : Bool) (timeout : Option Nat) (world : V) :
    conduct.wait prompt timeout (look world) = look (fine.wait prompt timeout world)
  unresolved (handle : Handle) (world : V) :
    conduct.unresolved handle (look world) = look (fine.unresolved handle world)
  destroy (event : Event B) (world : V) :
    conduct.destroy event (look world) = look (fine.destroy event world)

namespace Loop

/-- What can be seen of a loop. -/
def seen (look : V → W) (loop : Loop B C V) : Loop B C W :=
  { loop with world := look loop.world }

variable {fine : Conduct B C V} {conduct : Conduct B C W} {look : V → W}

/-! ## Owned objects -/

theorem register_seen (shadows : fine.Shadows conduct look) (selector : Selector)
    (mask : Interest) (event : Event B) (world : V) :
    selector.register conduct mask event (look world) =
      { selector.register fine mask event world with
        world := look (selector.register fine mask event world).world } := by
  unfold Selector.register
  split
  · rfl
  · split
    · rfl
    · rename_i wanted seen
      split
      · rfl
      · cases event.standing with
        | absent =>
          simp only [shadows.call, Selector.watch]
          rcases fine.call (.register event.handle.token wanted) event world with
            ⟨_ | cause, late⟩
          · simp only [Prod.map, id, shadows.level]
          · rfl
        | added =>
          simp only [shadows.call, Selector.watch]
          rcases fine.call (.reregister event.handle.token wanted)
            { event with standing := .rearming } world with ⟨_ | cause, late⟩
          · simp only [Prod.map, id, shadows.level]
          · rfl
        | rearming => rfl

theorem unregister_seen (shadows : fine.Shadows conduct look) (selector : Selector)
    (event : Event B) (world : V) :
    selector.unregister conduct event (look world) =
      ((selector.unregister fine event world).1, (selector.unregister fine event world).2.1,
        look (selector.unregister fine event world).2.2) := by
  unfold Selector.unregister
  split
  · simp only [shadows.call]
    rcases fine.call .deregister { event with standing := .absent } world with
      ⟨_ | cause, late⟩ <;> rfl
  · rfl

variable (shadows : fine.Shadows conduct look) (loop : Loop B C V)

include shadows

private theorem destroy_seen (event : Event B) :
    (loop.seen look).destroy conduct event = (loop.destroy fine event).seen look := by
  simp only [destroy, seen, shadows.destroy]

private theorem schedule_seen (delay : Nat) (alarm : Alarm C) :
    (loop.seen look).schedule conduct delay alarm = (loop.schedule fine delay alarm).seen look := by
  simp only [schedule, readClock, seen, shadows.clock]
  rfl

private theorem registerOwned_seen (event : Event B) (mask : Interest) :
    (loop.seen look).registerOwned conduct event mask =
      (loop.registerOwned fine event mask).map id (seen look) := by
  simp only [registerOwned, seen, register_seen shadows, Prod.map, id]

private theorem settle_seen (event : Event B) (mask : Interest) :
    (loop.seen look).settle conduct event mask =
      (loop.settle fine event mask).map id (seen look) := by
  have registered : (loop.seen look).registerRest conduct event mask =
      (loop.registerRest fine event mask).map id (seen look) := by
    unfold registerRest
    split
    · rfl
    · exact registerOwned_seen shadows loop event _
  rw [settle, settle, registered]
  exact alarmed_map fun late alarm => schedule_seen shadows late _ alarm

theorem addEvent_seen (event : Event B) (mask : Interest) :
    (loop.seen look).addEvent conduct event mask =
      (loop.addEvent fine event mask).map id (seen look) := by
  have owner : (loop.seen look).lookup event.handle = loop.lookup event.handle := rfl
  unfold addEvent
  rw [owner]
  split
  · exact congrArg (Prod.mk _) (destroy_seen shadows loop event)
  · split
    · rename_i owner found
      rw [settle_seen shadows]
      exact congrArg (Prod.mk _) (destroy_seen shadows _ event)
    · have settled : ({ loop.seen look with
          table := (loop.seen look).table.insert event.handle event }).settle conduct event mask =
        (({ loop with table := loop.table.insert event.handle event }).settle fine
          event mask).map id (seen look) :=
        settle_seen shadows { loop with table := loop.table.insert event.handle event } event mask
      simp only [settled]
      generalize ({ loop with table := loop.table.insert event.handle event }).settle
        fine event mask = reached
      obtain ⟨_ | fault, late⟩ := reached
      · exact congrArg (Prod.mk _)
          (destroy_seen shadows { late with table := late.table.erase event.handle } _)
      · rfl

theorem rearm_seen (handle : Handle) (mask : Interest) :
    (loop.seen look).rearm conduct handle mask =
      (loop.rearm fine handle mask).map id (seen look) := by
  have owner : (loop.seen look).lookup handle = loop.lookup handle := rfl
  unfold rearm
  rw [owner]
  split
  · rfl
  · exact registerOwned_seen shadows loop _ mask

private theorem removeEvent_seen (handle : Handle) :
    (loop.seen look).removeEvent conduct handle =
      (loop.removeEvent fine handle).map id (seen look) := by
  have owner : (loop.seen look).lookup handle = loop.lookup handle := rfl
  unfold removeEvent
  rw [owner]
  split
  · rfl
  · rename_i owner found
    have left : (loop.seen look).selector.unregister conduct owner (loop.seen look).world = _ :=
      unregister_seen shadows loop.selector owner loop.world
    simp only [left]
    exact congrArg (Prod.mk _) (destroy_seen shadows
      { loop with
        table := loop.table.erase handle
        selector :=
          (loop.selector.unregister fine owner loop.world).2.1.forgetListener handle
        world := (loop.selector.unregister fine owner loop.world).2.2 } _)

/-! ## Changes -/

theorem apply_seen (change : Change B C) :
    (loop.seen look).apply conduct change = (loop.apply fine change).seen look := by
  have owned (target : Target) : (loop.seen look).owns target = loop.owns target := rfl
  have owner (handle : Handle) : (loop.seen look).lookup handle = loop.lookup handle := rfl
  cases change with
  | add event mask =>
    simp only [apply, addEvent_seen shadows]
    rfl
  | rearm target mask =>
    simp only [apply, owned]
    split
    · rw [rearm_seen shadows]
      rfl
    · rfl
  | remove target =>
    simp only [apply, owned]
    split
    · rw [removeEvent_seen shadows]
      rfl
    · rfl
  | schedule target delay =>
    simp only [apply, owned, owner]
    split
    · split
      · exact schedule_seen shadows loop _ _
      · rfl
    · rfl
  | timer callback interval delayed repeats => exact schedule_seen shadows loop _ _

theorem applyAll_seen (pending : List (Change B C)) :
    pending.foldl (apply conduct) (loop.seen look) =
      (pending.foldl (apply fine) loop).seen look := by
  induction pending generalizing loop with
  | nil => rfl
  | cons change pending ih =>
    rw [List.foldl_cons, apply_seen shadows]
    exact ih _

theorem applyChanges_seen :
    (loop.seen look).applyChanges conduct = (loop.applyChanges fine).seen look :=
  applyAll_seen shadows { loop with changes := {} } loop.changes.pending

theorem carryOut_seen (order : Order B C) :
    (loop.seen look).carryOut conduct order = (loop.carryOut fine order).seen look := by
  have alive : (loop.seen look).alive = loop.alive := rfl
  cases order with
  | stop => rfl
  | wake => rfl
  | change change =>
    simp only [carryOut, submit, alive]
    split
    · rfl
    · cases change with
      | add event mask => exact destroy_seen shadows loop event
      | _ => rfl

private theorem carryOutAll_seen (orders : List (Order B C)) :
    orders.foldl (carryOut conduct) (loop.seen look) =
      (orders.foldl (carryOut fine) loop).seen look := by
  induction orders generalizing loop with
  | nil => rfl
  | cons order orders ih =>
    rw [List.foldl_cons, carryOut_seen shadows]
    exact ih _

/-! ## Turns -/

private theorem notify_seen (notice : Notice) (handle : Handle) :
    (loop.seen look).notify conduct notice handle = (loop.notify fine notice handle).seen look := by
  have owner : (loop.seen look).lookup handle = loop.lookup handle := rfl
  unfold notify
  rw [owner]
  split
  · rfl
  · rename_i event found
    have reacts : conduct.notify notice event (loop.seen look).outlook (loop.seen look).world = _ :=
      shadows.notify notice event loop.outlook loop.world
    rw [reacts]
    exact carryOutAll_seen shadows
      { loop with
        table := loop.table.insert handle
          { event with body := (fine.notify notice event loop.outlook loop.world).body }
        changes := (fine.notify notice event loop.outlook
          loop.world).requests.foldl Changes.request loop.changes
        world := (fine.notify notice event loop.outlook loop.world).world }
      (fine.notify notice event loop.outlook loop.world).orders

private theorem passOver_seen (entry : Ready) :
    (loop.seen look).passOver conduct entry = (loop.passOver fine entry).seen look := by
  have owner (handle : Handle) : (loop.seen look).lookup handle = loop.lookup handle := rfl
  have removed (handle : Handle) :
      (loop.seen look).changes.isRemoved handle = loop.changes.isRemoved handle := rfl
  unfold passOver
  rw [removed, owner]
  split
  · rfl
  · split
    · simp only [seen, shadows.unresolved]
    · rfl

private theorem deliver_seen (entry : Ready) :
    (loop.seen look).deliver conduct entry =
      (loop.deliver fine entry).map id (seen look) := by
  have removed (handle : Handle) (other : Loop B C V) :
      (other.seen look).changes.isRemoved handle = other.changes.isRemoved handle := rfl
  have notice (handle : Handle) :
      (loop.seen look).inputNotice handle = loop.inputNotice handle := rfl
  have owner (handle : Handle) : (loop.seen look).lookup handle = loop.lookup handle := rfl
  have missing (handle : Handle) :
      { loop.seen look with world := conduct.unresolved handle (loop.seen look).world } =
        ({ loop with world := fine.unresolved handle loop.world }).seen look := by
    simp only [seen, shadows.unresolved]
  unfold deliver
  split
  · rfl
  · simp only [removed, owner]
    split
    · rfl
    · split
      · exact congrArg (Prod.mk _) (missing _)
      · split
        · rfl
        · cases entry.readiness.input with
          | true =>
            simp only [↓reduceIte, notice, notify_seen shadows, removed]
            split <;> rfl
          | false =>
            simp only [Bool.false_eq_true, ↓reduceIte, notify_seen shadows, removed]
            split <;> rfl

theorem deliverAll_seen (entries : List Ready) :
    (loop.seen look).deliverAll conduct entries =
      (loop.deliverAll fine entries).map id (seen look) := by
  induction entries generalizing loop with
  | nil => rfl
  | cons entry entries ih =>
    unfold deliverAll
    simp only [deliver_seen shadows, Prod.map, ih]
    rfl

private theorem serve_seen (now : Nat) (alarm : Alarm C) :
    (loop.seen look).serve conduct now alarm = (loop.serve fine now alarm).seen look := by
  cases alarm with
  | event handle generation =>
    have heard : (loop.seen look).roused? handle generation = loop.roused? handle generation := rfl
    cases roused : loop.roused? handle generation with
    | some event =>
      rw [serve_of_roused fine now roused, serve_of_roused conduct now (heard.trans roused)]
      exact notify_seen shadows loop .timer handle
    | none =>
      rw [serve_of_unroused fine now roused, serve_of_unroused conduct now (heard.trans roused)]
  | callback callback interval remaining =>
    have fires : conduct.fire callback (loop.seen look).outlook (loop.seen look).world = _ :=
      shadows.fire callback loop.outlook loop.world
    have carried : (fine.fire callback loop.outlook loop.world).orders.foldl (carryOut conduct)
        { loop.seen look with world := look (fine.fire callback loop.outlook loop.world).world } =
        ((fine.fire callback loop.outlook loop.world).orders.foldl (carryOut fine)
          { loop with world := (fine.fire callback loop.outlook loop.world).world }).seen look :=
      carryOutAll_seen shadows
        { loop with world := (fine.fire callback loop.outlook loop.world).world } _
    simp only [serve]
    rw [fires, carried]
    dsimp only
    split <;> rfl

private theorem serveAll_seen (now : Nat) (due : List (Alarm C)) :
    due.foldl (serve conduct now) (loop.seen look) =
      (due.foldl (serve fine now) loop).seen look := by
  induction due generalizing loop with
  | nil => rfl
  | cons alarm due ih =>
    rw [List.foldl_cons, serve_seen shadows]
    exact ih _

private theorem readClock_seen :
    (loop.seen look).readClock conduct = (loop.readClock fine).map id (seen look) := by
  simp only [readClock, seen, shadows.clock]
  rfl

theorem fireAlarms_seen :
    (loop.seen look).fireAlarms conduct = (loop.fireAlarms fine).seen look := by
  unfold fireAlarms
  rw [readClock_seen shadows]
  exact serveAll_seen shadows
    { (loop.readClock fine).2 with
      agenda := (loop.agenda.expired (loop.readClock fine).1).2 }
    (loop.readClock fine).1 (loop.agenda.expired (loop.readClock fine).1).1

private theorem destroyAll_seen (events : List (Event B)) :
    events.foldl (fun loop event => loop.destroy conduct event) (loop.seen look) =
      (events.foldl (fun loop event => loop.destroy fine event) loop).seen look := by
  induction events generalizing loop with
  | nil => rfl
  | cons event events ih =>
    rw [List.foldl_cons, destroy_seen shadows]
    exact ih (loop.destroy fine event)

theorem close_seen : (loop.seen look).close conduct = (loop.close fine).seen look :=
  destroyAll_seen shadows
    { selector := loop.selector, stopped := loop.stopped, alive := false, pause := loop.pause,
      world := loop.world }
    (loop.table.values ++ eventsIn loop.changes.pending ++ eventsIn loop.inbox)

theorem changeDeeds_seen (change : Change B C) :
    (loop.seen look).changeDeeds conduct change = loop.changeDeeds fine change := by
  cases change with
  | add event mask =>
    simp only [changeDeeds, addDeeds, addEvent_seen shadows]
    rfl
  | rearm target mask => rfl
  | remove target => rfl
  | schedule target delay => rfl
  | timer callback interval delayed repeats => rfl

end Loop

/-! ## Records -/

/-- What is written down of the things that a conduct is called for. What is not mentioned leaves
no mark. -/
structure Scribe (B C R : Type) where
  call : SourceCall → Event B → Option Trouble → R → R := fun _ _ _ record => record
  doing : Doing B C → R → R := fun _ record => record
  destroy : Event B → R → R := fun _ record => record

variable {R : Type}

/-- Acts as `conduct` does, and keeps a record beside the world. -/
def Conduct.recorded (scribe : Scribe B C R) (conduct : Conduct B C W) : Conduct B C (W × R) where
  call call event world :=
    ((conduct.call call event world.1).1, (conduct.call call event world.1).2,
      scribe.call call event (conduct.call call event world.1).1 world.2)
  notify notice event outlook world :=
    let reaction := conduct.notify notice event outlook world.1
    { body := reaction.body
      world := (reaction.world,
        scribe.doing (.told ⟨notice, event, reaction.requests⟩ reaction.orders) world.2)
      requests := reaction.requests
      orders := reaction.orders }
  fire callback outlook world :=
    let firing := conduct.fire callback outlook world.1
    { again := firing.again
      callback := firing.callback
      world := (firing.world,
        scribe.doing (.ran callback firing.again firing.callback firing.orders) world.2)
      orders := firing.orders }
  level world := conduct.level world.1
  clock world := ((conduct.clock world.1).1, (conduct.clock world.1).2, world.2)
  wait prompt timeout world := (conduct.wait prompt timeout world.1, world.2)
  unresolved handle world := (conduct.unresolved handle world.1, world.2)
  destroy event world := (conduct.destroy event world.1, scribe.destroy event world.2)

/-- Without its record, a world behaves as it does with it. -/
theorem recorded_shadows (scribe : Scribe B C R) (conduct : Conduct B C W) :
    (conduct.recorded scribe).Shadows conduct Prod.fst where
  call _ _ _ := rfl
  notify _ _ _ _ := rfl
  fire _ _ _ := rfl
  level _ := rfl
  clock _ := rfl
  wait _ _ _ := rfl
  unresolved _ _ := rfl
  destroy _ _ := rfl

namespace Loop

/-- A loop that begins to keep a record. -/
def keeping (record : R) (loop : Loop B C W) : Loop B C (W × R) :=
  { loop with world := (loop.world, record) }

/-- A loop without its record. -/
def offRecord (loop : Loop B C (W × R)) : Loop B C W := { loop with world := loop.world.1 }

end Loop

/-- A site without its record. -/
def Site.offRecord (site : Site B C (W × R)) : Site B C W := ⟨site.loop.offRecord, site.stage⟩

/-- The world may move as before, and nobody touches the record. -/
def Beyond (around : W → W → Prop) (early late : W × R) : Prop :=
  around early.1 late.1 ∧ late.2 = early.2

/-- **A step is taken on the record as it is off it.** -/
theorem Site.Step.recorded {conduct : Conduct B C W} {early : Site B C (W × R)}
    {next : Site B C W} {deeds : List Deed} (step : Step conduct early.offRecord deeds next)
    (scribe : Scribe B C R) :
    ∃ late, Step (conduct.recorded scribe) early deeds late ∧ late.offRecord = next := by
  obtain ⟨loop, stage⟩ := early
  have shadows := recorded_shadows scribe conduct
  cases step with
  | begin => exact ⟨_, .begin loop, rfl⟩
  | @take _ change rest inbox =>
    refine ⟨⟨{ loop with inbox := rest }.apply (conduct.recorded scribe) change, .draining⟩, ?_, ?_⟩
    · have deeds := Loop.changeDeeds_seen shadows { loop with inbox := rest } change
      exact deeds ▸ .take inbox
    · exact congrArg (Site.mk · _) (Loop.apply_seen shadows _ change).symm
  | poll inbox prompt timeout entries queue =>
    have drained : loop.inbox = [] := inbox
    exact ⟨_, .poll drained prompt timeout entries queue, rfl⟩
  | pollFails inbox => exact ⟨_, .pollFails inbox, rfl⟩
  | pass entries unheard =>
    exact ⟨_, .pass entries unheard,
      congrArg (Site.mk · _) (Loop.passOver_seen shadows loop _).symm⟩
  | hear entries heard input =>
    exact ⟨_, .hear entries heard input,
      congrArg (Site.mk · _) (Loop.notify_seen shadows loop _ _).symm⟩
  | hearNothing entries heard input => exact ⟨_, .hearNothing entries heard input, rfl⟩
  | answer entries kept =>
    exact ⟨_, .answer entries kept,
      congrArg (Site.mk · _) (Loop.notify_seen shadows loop _ _).symm⟩
  | answerNothing entries silent => exact ⟨_, .answerNothing entries silent, rfl⟩
  | handOver => exact ⟨_, .handOver loop, rfl⟩
  | apply _ change pending second =>
    have deeds := Loop.changeDeeds_seen shadows loop change
    refine ⟨⟨loop.apply (conduct.recorded scribe) change, .applying pending second⟩, ?_, ?_⟩
    · exact deeds ▸ .apply loop change pending second
    · exact congrArg (Site.mk · _) (Loop.apply_seen shadows loop change).symm
  | ring => exact ⟨_, .ring loop, rfl⟩
  | serve _ now alarm due =>
    exact ⟨_, .serve loop now alarm due,
      congrArg (Site.mk · _) (Loop.serve_seen shadows loop now alarm).symm⟩
  | silence _ now => exact ⟨_, .silence loop now, rfl⟩
  | rest => exact ⟨_, .rest loop, rfl⟩

end EventLoop
