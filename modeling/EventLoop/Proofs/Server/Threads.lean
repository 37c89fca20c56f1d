import EventLoop.Proofs.Loop.Stages
import EventLoop.Proofs.Loop.Strangers
import EventLoop.Proofs.Server.Responses

/-! A serving loop among other threads. Whoever holds a session may act on it at any
moment, also while a connection is about to write what it has just gathered from that
session, and what the session then asks of the loop is sent some time later. A
scene is a loop at some stage of its turn with all that is under way around it.

What is assumed of the surroundings is said here and nowhere else: nobody but its
session re-arms the handle that is looked at, its re-arms are not refused, and who is
admitted comes as a stranger, with a descriptor that nobody has any more. -/
namespace EventLoop

variable {M D : Type}

/-! ## Writing in two halves -/

namespace Service

/-- What a connection's response leads to, with what sessions ask meanwhile. -/
def voiced (response : Response M D) : Reaction (Endpoint M) Empty (Premises D) :=
  let (pleas, sessions) := response.premises.sessions.takePleas
  { body := .connection response.connection
    world := { response.premises with sessions }
    requests := response.requests
    orders := pleas.map Plea.order }

theorem notifyEndpoint_eq_voiced [Message M] (service : Service M D) (notice : Notice)
    {event : Event (Endpoint M)} {connection : Connection M} (premises : Premises D)
    (body : event.body = .connection connection) :
    service.notifyEndpoint notice event premises =
      voiced (service.respond notice event connection premises) := by
  unfold notifyEndpoint
  rw [body]
  rfl

end Service

namespace Loop

/-- `Connection::on_writable` up to its loop, the first half of writing: the owner of a handle
takes over what waits in its session. -/
def gather (handle : Handle) (event : Event (Endpoint M)) (connection : Connection M)
    (loop : ServerLoop M D) : ServerLoop M D :=
  { loop with
    table := loop.table.insert handle
      { event with body := .connection (Service.gather connection loop.world).1 }
    world := (Service.gather connection loop.world).2 }

/-- `Connection::on_writable` from its loop on, the second half: it writes what it has. -/
def flush [Message M] (service : Service M D) (handle : Handle) (event : Event (Endpoint M))
    (connection : Connection M) (loop : ServerLoop M D) : ServerLoop M D :=
  loop.takeUp service.conduct handle event
    (Service.voiced (Service.flushOut event connection loop.world))

/-- Notifying the owner of a handle is taking up its response. -/
theorem notify_eq_takeUp [Message M] (service : Service M D) (notice : Notice)
    {loop : ServerLoop M D} {handle : Handle} {event : Event (Endpoint M)}
    {connection : Connection M} (found : loop.lookup handle = some event)
    (body : event.body = .connection connection) :
    loop.notify service.conduct notice handle =
      loop.takeUp service.conduct handle event
        (Service.voiced (service.respond notice event connection loop.world)) :=
  (notify_eq service.conduct notice found).trans
    (congrArg (loop.takeUp service.conduct handle event)
      (service.notifyEndpoint_eq_voiced notice loop.world body))

/-- With nobody coming in between, the two halves are what a notification of room does. -/
theorem notify_writable_eq [Message M] (service : Service M D) {loop : ServerLoop M D}
    {handle : Handle} {event : Event (Endpoint M)} {connection : Connection M}
    (found : loop.lookup handle = some event) (body : event.body = .connection connection)
    (opened : connection.closing = false) :
    loop.notify service.conduct .writable handle =
      (loop.gather handle event connection).flush service handle
        { event with body := .connection (Service.gather connection loop.world).1 }
        (Service.gather connection loop.world).1 := by
  have present : loop.table.contains handle = true := by
    rw [Keyed.contains_eq_isSome]
    exact Option.isSome_of_eq_some found
  have responds : service.respond .writable event connection loop.world =
      Service.flushOut event (Service.gather connection loop.world).1
        (Service.gather connection loop.world).2 := by
    unfold Service.respond
    rw [opened]
    exact write_eq_flush_gather event connection loop.world
  rw [notify_eq_takeUp service .writable found body, responds]
  unfold flush takeUp gather
  simp only
  rw [Keyed.insert_insert loop.table present]
  rfl

end Loop

/-! ## Scenes -/

/-- A `Reactor` that serves, among other threads. `flushing` is the handle of a connection
that is in the middle of `Connection::on_writable`, having gathered what waited in its session
and not written it yet, and `asking` is what sessions have asked and nobody has sent to the
loop yet. -/
structure Scene (M D : Type) where
  site : Site (Endpoint M) Empty (Premises D)
  flushing : Option Handle := none
  asking : List Plea := []

/-- A change that others than the session of the owner may send: it adds nothing, and does not
re-arm the handle that is looked at. -/
def Change.Foreign {B C : Type} (watched : Handle) : Change B C → Prop
  | .add .. => False
  | .rearm target _ => target.handle ≠ watched
  | _ => True

/-- An order that others may send. -/
def Order.Foreign {B C : Type} (watched : Handle) : Order B C → Prop
  | .change sent => sent.Foreign watched
  | _ => True

/-- What the surroundings promise a loop's thread at its next step. -/
structure Service.Favours (service : Service M D) (watched : Handle)
    (site : Site (Endpoint M) Empty (Premises D)) : Prop where
  /-- A re-arm of the handle that is looked at is not refused. -/
  allows : ∀ target mask rest, site.stage = .draining →
    site.loop.inbox = .rearm target mask :: rest → target.handle = watched →
      site.loop.world.network.nextRefusal.1 = false
  /-- Whoever a listener is about to admit comes as a stranger. -/
  strangers : ∀ entry entries event, site.stage = .delivering (entry :: entries) →
    site.loop.hearer? entry = some event → entry.readiness.input = true →
    event.body = .listener →
      site.loop.Strangers (Loop.eventsIn (site.ahead ++
        (service.welcomeAll site.loop.world.network.door site.loop.world).1.map Request.change))

namespace Scene

/-- One step of a scene. -/
inductive Step [Message M] (service : Service M D) (watched : Handle) :
    Scene M D → Scene M D → Prop where
  /-- The loop's thread takes a step. -/
  | thread {site next : Site (Endpoint M) Empty (Premises D)} {deeds : List Deed}
      {asking : List Plea} (favours : service.Favours watched site)
      (step : Site.Step service.conduct site deeds next) :
      Step service watched ⟨site, none, asking⟩ ⟨next, none, asking⟩
  /-- A connection that is told of room gathers what waits in its session. -/
  | gather {loop : ServerLoop M D} {handle : Handle} {entries : List Ready} {asking : List Plea}
      {event : Event (Endpoint M)} {connection : Connection M}
      (found : loop.lookup handle = some event) (body : event.body = .connection connection)
      (opened : connection.closing = false) (kept : loop.changes.isRemoved handle = false) :
      Step service watched ⟨⟨loop, .answering handle true entries⟩, none, asking⟩
        ⟨⟨loop.gather handle event connection, .answering handle true entries⟩, some handle, asking⟩
  /-- It writes what it has gathered. -/
  | flush {loop : ServerLoop M D} {handle : Handle} {entries : List Ready} {asking : List Plea}
      {event : Event (Endpoint M)} {connection : Connection M}
      (found : loop.lookup handle = some event) (body : event.body = .connection connection) :
      Step service watched ⟨⟨loop, .answering handle true entries⟩, some handle, asking⟩
        ⟨⟨loop.flush service handle event connection, .delivering entries⟩, none, asking⟩
  /-- Somebody acts on a session, and has yet to send what it asks. -/
  | act {loop : ServerLoop M D} {stage : Stage (Endpoint M) Empty} {flushing : Option Handle}
      {asking : List Plea} {sessions : Sessions}
      (act : Sessions.Act M loop.world.sessions sessions) :
      Step service watched ⟨⟨loop, stage⟩, flushing, asking⟩
        ⟨⟨{ loop with world := { loop.world with sessions := sessions.takePleas.2 } }, stage⟩,
          flushing, asking ++ sessions.takePleas.1⟩
  /-- Somebody sends what a session has asked. -/
  | ask {loop : ServerLoop M D} {stage : Stage (Endpoint M) Empty} {flushing : Option Handle}
      (before : List Plea) (plea : Plea) (after : List Plea) :
      Step service watched ⟨⟨loop, stage⟩, flushing, before ++ plea :: after⟩
        ⟨⟨loop.carryOut service.conduct plea.order, stage⟩, flushing, before ++ after⟩
  /-- Somebody sends another order. -/
  | order {loop : ServerLoop M D} {stage : Stage (Endpoint M) Empty} {flushing : Option Handle}
      {asking : List Plea} (order : Order (Endpoint M) Empty) (foreign : order.Foreign watched) :
      Step service watched ⟨⟨loop, stage⟩, flushing, asking⟩
        ⟨⟨loop.carryOut service.conduct order, stage⟩, flushing, asking⟩
  /-- Between two turns whoever holds the loop calls it directly. -/
  | call {loop : ServerLoop M D} {asking : List Plea} (change : Change (Endpoint M) Empty)
      (foreign : change.Foreign watched) :
      Step service watched ⟨⟨loop, .resting⟩, none, asking⟩
        ⟨⟨loop.apply service.conduct change, .resting⟩, none, asking⟩
  /-- The world around changes, the sessions apart, and things happen at the sources. -/
  | elsewhere {loop : ServerLoop M D} {stage : Stage (Endpoint M) Empty}
      {flushing : Option Handle} {asking : List Plea} (premises : Premises D)
      (same : premises.sessions = loop.world.sessions) (queue : List Mark) :
      Step service watched ⟨⟨loop, stage⟩, flushing, asking⟩
        ⟨⟨{ loop with
            world := premises
            selector := { loop.selector with poller := { loop.selector.poller with queue } } },
          stage⟩, flushing, asking⟩

/-- Any number of steps, in any order. -/
inductive Run [Message M] (service : Service M D) (watched : Handle) (start : Scene M D) :
    Scene M D → Prop where
  | start : Run service watched start start
  | step {scene next : Scene M D} (run : Run service watched start scene)
      (step : Step service watched scene next) : Run service watched start next

/-- What the loop's thread does with nobody coming in between is part of runs, if the
surroundings keep their promises all the way. -/
theorem Run.steps [Message M] {service : Service M D} {watched : Handle} {start : Scene M D}
    {early late : Site (Endpoint M) Empty (Premises D)} {deeds : List Deed} {asking : List Plea}
    (run : Run service watched start ⟨early, none, asking⟩)
    (steps : Site.Steps service.conduct early deeds late)
    (favours : ∀ deeds site, Site.Steps service.conduct early deeds site →
      service.Favours watched site) : Run service watched start ⟨late, none, asking⟩ := by
  induction steps with
  | here => exact run
  | step first steps ih =>
    refine ih (run.step (.thread (favours [] _ (.here _)) first)) ?_
    intro deeds site later
    exact favours _ site (.step first later)

/-- Whole turns are part of runs. -/
theorem Run.turn [Message M] {service : Service M D} {watched : Handle} {start : Scene M D}
    {loop : ServerLoop M D} {asking : List Plea}
    (run : Run service watched start ⟨⟨loop, .resting⟩, none, asking⟩)
    (favours : ∀ deeds site, Site.Steps service.conduct ⟨loop, .resting⟩ deeds site →
      service.Favours watched site) :
    Run service watched start ⟨⟨(loop.turn service.conduct).2, .resting⟩, none, asking⟩ := by
  obtain ⟨_, steps⟩ := Site.turn_steps service.conduct loop
  exact run.steps steps favours

/-- A loop that nobody has used yet, under a server that has not started. -/
structure Fresh (loop : ServerLoop M D) : Prop where
  unstarted : loop.world.started = false
  table : loop.table = {}
  pending : loop.changes.pending = []
  inbox : loop.inbox = []
  alive : loop.alive = true
  here : loop.world.sessions.loopGone = false
  silent : loop.world.sessions.pleas = []

/-- The scene when a server begins to listen. -/
def opening [Message M] (service : Service M D) (handle : Handle) (loop : ServerLoop M D) :
    Scene M D :=
  ⟨⟨(service.start handle loop).2, .resting⟩, none, []⟩

end Scene

end EventLoop
