import EventLoop.Proofs.Loop.Courses
import EventLoop.Proofs.Server.Comings
import EventLoop.Proofs.Server.Replies

/-! A serving loop in any surroundings. Other threads act on sessions and send what these ask,
they and other objects on the loop re-arm, remove and schedule whatever handle they like,
registrations fail, visitors come with any descriptor, and in the end the loop may be
dismissed. Nothing is promised of all this but that only the listener brings new endpoints. A
chronicle is a run in such surroundings, with what it tells of turns and of requests to be
removed. -/
namespace EventLoop

variable {M D : Type}

/-! ## What a chronicle tells -/

/-- What is told of a run of a server: a line of a chronicle. -/
inductive Incident where
  /-- A turn begins. -/
  | began
  /-- A turn is over. -/
  | rested
  /-- A session's request to be removed has come into the inbox. -/
  | queued (handle : Handle) (id : UInt64)
deriving DecidableEq, Repr

/-- The request of a session to be removed, if a change is one. -/
def Change.incident? {B C : Type} : Change B C → Option Incident
  | .remove ⟨handle, some id⟩ => some (.queued handle id)
  | _ => none

/-- What has come into the inbox of a loop on behalf of sessions. -/
def Loop.arrivals {B C W : Type} (early late : Loop B C W) : List Incident :=
  (late.inbox.drop early.inbox.length).filterMap Change.incident?

theorem Loop.arrivals_append {B C W : Type} {early late : Loop B C W} {more : List (Change B C)}
    (inbox : late.inbox = early.inbox ++ more) :
    early.arrivals late = more.filterMap Change.incident? := by
  rw [arrivals, inbox, List.drop_left]

theorem Loop.arrivals_none {B C W : Type} {early late : Loop B C W}
    (inbox : late.inbox = early.inbox) : early.arrivals late = [] := by
  rw [arrivals, inbox, List.drop_length]
  rfl

/-- What is told of a step of the loop's own thread. -/
def Site.incidents {B C W : Type} (early late : Site B C W) : List Incident :=
  match early.stage, late.stage with
  | .resting, _ => [.began]
  | _, .resting => [.rested]
  | _, _ => early.loop.arrivals late.loop

/-! ## Passages -/

/-- A request that brings no endpoint. -/
def Request.BringsNothing {B : Type} (request : Request B) : Prop :=
  Loop.sourceOf (request.change : Change B Empty) = none

/-- An order that brings no endpoint. -/
def Order.BringsNothing {B C : Type} (order : Order B C) : Prop :=
  ∀ change, order.change? = some change → Loop.sourceOf change = none

namespace Scene

/-- One step of a scene, with what it tells. -/
inductive Passes [Message M] (service : Service M D) :
    Scene M D → List Incident → Scene M D → Prop where
  /-- The loop's thread takes a step. -/
  | thread {site next : Site (Endpoint M) Empty (Premises D)} {deeds : List Deed}
      {asking : List Plea} (alive : site.loop.alive = true)
      (step : Site.Step service.conduct site deeds next) :
      Passes service ⟨site, none, asking⟩ (site.incidents next) ⟨next, none, asking⟩
  /-- A connection that is told of room gathers what waits in its session. -/
  | gather {loop : ServerLoop M D} {handle : Handle} {entries : List Ready} {asking : List Plea}
      {event : Event (Endpoint M)} {connection : Connection M} (alive : loop.alive = true)
      (found : loop.lookup handle = some event) (body : event.body = .connection connection)
      (opened : connection.closing = false) (kept : loop.changes.isRemoved handle = false) :
      Passes service ⟨⟨loop, .answering handle true entries⟩, none, asking⟩ []
        ⟨⟨loop.gather handle event connection, .answering handle true entries⟩, some handle, asking⟩
  /-- It writes what it has gathered. -/
  | flush {loop : ServerLoop M D} {handle : Handle} {entries : List Ready} {asking : List Plea}
      {event : Event (Endpoint M)} {connection : Connection M} (alive : loop.alive = true)
      (found : loop.lookup handle = some event) (body : event.body = .connection connection) :
      Passes service ⟨⟨loop, .answering handle true entries⟩, some handle, asking⟩
        (loop.arrivals (loop.flush service handle event connection))
        ⟨⟨loop.flush service handle event connection, .delivering entries⟩, none, asking⟩
  /-- Somebody acts on a session, and has yet to send what it asks. -/
  | act {loop : ServerLoop M D} {stage : Stage (Endpoint M) Empty} {flushing : Option Handle}
      {asking : List Plea} {sessions : Sessions}
      (act : Sessions.Act M loop.world.sessions sessions)
      (roster : sessions.roster = loop.world.sessions.roster) :
      Passes service ⟨⟨loop, stage⟩, flushing, asking⟩ []
        ⟨⟨{ loop with world := { loop.world with sessions := sessions.takePleas.2 } }, stage⟩,
          flushing, asking ++ sessions.takePleas.1⟩
  /-- Somebody sends what a session has asked. -/
  | ask {loop : ServerLoop M D} {stage : Stage (Endpoint M) Empty} {flushing : Option Handle}
      (before : List Plea) (plea : Plea) (after : List Plea) :
      Passes service ⟨⟨loop, stage⟩, flushing, before ++ plea :: after⟩
        (loop.arrivals (loop.carryOut service.conduct plea.order))
        ⟨⟨loop.carryOut service.conduct plea.order, stage⟩, flushing, before ++ after⟩
  /-- Somebody sends an order of another kind, or in nobody's name. -/
  | order {loop : ServerLoop M D} {stage : Stage (Endpoint M) Empty} {flushing : Option Handle}
      {asking : List Plea} (order : Order (Endpoint M) Empty) (brings : order.BringsNothing) :
      Passes service ⟨⟨loop, stage⟩, flushing, asking⟩ []
        ⟨⟨loop.carryOut service.conduct order, stage⟩, flushing, asking⟩
  /-- Between two turns whoever holds the loop calls it directly. -/
  | call {loop : ServerLoop M D} {asking : List Plea} (alive : loop.alive = true)
      (change : Change (Endpoint M) Empty) (brings : Loop.sourceOf change = none) :
      Passes service ⟨⟨loop, .resting⟩, none, asking⟩ []
        ⟨⟨loop.apply service.conduct change, .resting⟩, none, asking⟩
  /-- Other objects on the loop ask for changes while they are told of something. -/
  | petition {loop : ServerLoop M D} {stage : Stage (Endpoint M) Empty} {asking : List Plea}
      (alive : loop.alive = true) (busy : ¬ stage.IsQuiet)
      (requests : List (Request (Endpoint M)))
      (brings : ∀ request ∈ requests, request.BringsNothing) :
      Passes service ⟨⟨loop, stage⟩, none, asking⟩ []
        ⟨⟨{ loop with changes := requests.foldl Changes.request loop.changes }, stage⟩, none,
          asking⟩
  /-- The world around changes, but for the sessions and the identities, and things happen at
  the sources. -/
  | elsewhere {loop : ServerLoop M D} {stage : Stage (Endpoint M) Empty}
      {flushing : Option Handle} {asking : List Plea} (premises : Premises D)
      (sessions : premises.sessions = loop.world.sessions)
      (next : premises.nextSession = loop.world.nextSession) (queue : List Mark) :
      Passes service ⟨⟨loop, stage⟩, flushing, asking⟩ []
        ⟨⟨{ loop with
            world := premises
            selector := { loop.selector with poller := { loop.selector.poller with queue } } },
          stage⟩, flushing, asking⟩
  /-- The loop is dropped. -/
  | dismiss {loop : ServerLoop M D} {asking : List Plea} (alive : loop.alive = true) :
      Passes service ⟨⟨loop, .resting⟩, none, asking⟩ []
        ⟨⟨service.dismiss loop, .resting⟩, none, asking⟩

/-- A run in any surroundings, with its history. -/
inductive Chronicle [Message M] (service : Service M D) (start : Scene M D) :
    List Incident → Scene M D → Prop where
  | start : Chronicle service start [] start
  | step {history more : List Incident} {scene next : Scene M D}
      (chronicle : Chronicle service start history scene)
      (passes : Passes service scene more next) : Chronicle service start (history ++ more) next

variable [Message M] {service : Service M D} {start scene next : Scene M D}
  {history more : List Incident}

theorem Chronicle.trans (first : Chronicle service start history scene)
    (second : Chronicle service scene more next) :
    Chronicle service start (history ++ more) next := by
  induction second with
  | start => rwa [List.append_nil]
  | step chronicle passes ih =>
    rw [← List.append_assoc]
    exact ih.step passes

/-- What holds at the start and is kept by every step holds all along. It may speak of what has
been told so far. -/
theorem Chronicle.keeps {motive : List Incident → Scene M D → Prop}
    (kept : ∀ before early more late, motive before early → Passes service early more late →
      motive (before ++ more) late)
    (initially : motive [] start) (chronicle : Chronicle service start history scene) :
    motive history scene := by
  induction chronicle with
  | start => exact initially
  | step chronicle passes ih => exact kept _ _ _ _ ih passes

/-- What the loop's thread does with nobody coming in between is part of chronicles. -/
theorem Chronicle.steps {early late : Site (Endpoint M) Empty (Premises D)} {deeds : List Deed}
    {asking : List Plea} (chronicle : Chronicle service start history ⟨early, none, asking⟩)
    (alive : early.loop.alive = true) (steps : Site.Steps service.conduct early deeds late) :
    ∃ more, Chronicle service start (history ++ more) ⟨late, none, asking⟩ := by
  induction steps generalizing history with
  | here => exact ⟨[], by rwa [List.append_nil]⟩
  | step first steps ih =>
    obtain ⟨more, later⟩ := ih (chronicle.step (.thread alive first)) (first.lives alive)
    exact ⟨_, List.append_assoc .. ▸ later⟩

/-- Whole turns are part of chronicles. -/
theorem Chronicle.turn {loop : ServerLoop M D} {asking : List Plea}
    (chronicle : Chronicle service start history ⟨⟨loop, .resting⟩, none, asking⟩)
    (alive : loop.alive = true) :
    ∃ more, Chronicle service start (history ++ more)
      ⟨⟨(loop.turn service.conduct).2, .resting⟩, none, asking⟩ := by
  obtain ⟨_, steps⟩ := Site.turn_steps service.conduct loop
  exact chronicle.steps alive steps

/-- A loop that nobody has used yet, under a server that has not started and has given out no
identity. -/
structure Pristine (loop : ServerLoop M D) : Prop extends Fresh loop where
  removed : loop.changes.removed = []
  book : loop.world.sessions.book = {}
  roster : loop.world.sessions.roster = {}
  first : loop.world.nextSession = 1

end Scene

end EventLoop
