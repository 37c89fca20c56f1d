import EventLoop.Proofs.Loop.Generations
import EventLoop.Proofs.Loop.Neighbours
import EventLoop.Proofs.Server.Borrowing
import EventLoop.Proofs.Server.Requests
import EventLoop.Proofs.Server.Rollcall
import EventLoop.Proofs.Session.Confines
import Mathlib.Data.List.Nodup

/-! Connections side by side. A connection that is told of something touches its own session, its
own socket and what belongs to nobody, and it asks for nothing that concerns another handle. Two
connections have neither socket nor session nor identity in common, because the roster agrees with
the connections that there are. So what the one does is nothing to the other, and neither is what
the loop does on its behalf later on. By then the handle of the one may have passed to the other;
but what was asked before it passed is applied before it passes, and what is sent after that in
the name of the one that has gone is dropped. All that they share is the common bucket and the
borrowed buffers, and of a borrowed buffer nothing is taken over but what was just read. -/
namespace EventLoop

variable {M D : Type}

/-! ## What a connection touches -/

/-- Premises of which only the session `key`, the socket `source`, and what belongs to nobody were
touched: the desk, the buffers, the common bucket and the clock. -/
structure Premises.Confined (key : Nat) (source : Source) (early late : Premises D) : Prop where
  sessions : Sessions.Confined key early.sessions late.sessions
  sockets : ∀ other, other ≠ source →
    late.network.sockets.get? other = early.network.sockets.get? other
  door : late.network.door = early.network.door
  refusals : late.network.refusals = early.network.refusals
  next : late.nextSession = early.nextSession
  started : late.started = early.started

namespace Premises

variable {key : Nat} {source : Source} {early middle late premises : Premises D}

private theorem Confined.refl (key : Nat) (source : Source) (premises : Premises D) :
    Confined key source premises premises :=
  ⟨.refl key premises.sessions, fun _ _ => rfl, rfl, rfl, rfl, rfl⟩

private theorem Confined.trans (first : Confined key source early middle)
    (second : Confined key source middle late) : Confined key source early late :=
  ⟨first.sessions.trans second.sessions,
    fun other apart => (second.sockets other apart).trans (first.sockets other apart),
    second.door.trans first.door, second.refusals.trans first.refusals,
    second.next.trans first.next, second.started.trans first.started⟩

end Premises

private theorem Sink.Private.from [Message M] {sink : Sink M (Sessions × D)} (keeps : sink.Private)
    (session : Nat) : sink.WithinFrom session (Sessions.Confined session) :=
  ⟨.refl session, .trans, fun group message office =>
    (keeps group ⟨message, session⟩ office).confined⟩

private theorem Sink.Private.discreet [Message M] {sink : Sink M (Sessions × D)}
    (keeps : sink.Private) :
    sink.Discreet :=
  ⟨fun group task office => (keeps group task office).acts,
    fun group task office => (keeps group task office).confined.roster⟩

namespace Service

variable {service : Service M D} {premises : Premises D}

private theorem confined_close {key : Nat} {source : Source} {handle : Handle}
    {response : Response M D} (confined : Premises.Confined key source premises response.premises)
    (own : response.connection.session = key) :
    Premises.Confined key source premises (close handle response).premises := by
  unfold close
  split
  · exact confined
  · refine confined.trans ⟨?_, fun _ _ => rfl, rfl, rfl, rfl, rfl⟩
    rw [own]
    exact Sessions.confined_markClosed key response.premises.sessions

private theorem confined_gather (source : Source) (connection : Connection M)
    (premises : Premises D) :
    Premises.Confined connection.session source premises (gather connection premises).2 :=
  ⟨Sessions.confined_takeOutbound connection.session premises.sessions, fun _ _ => rfl, rfl, rfl,
    rfl, rfl⟩

private theorem confined_flushOut (event : Event (Endpoint M)) (connection : Connection M)
    (premises : Premises D) :
    Premises.Confined connection.session event.source premises
      (flushOut event connection premises).premises := by
  have written (socket : Socket) : Premises.Confined connection.session event.source premises
      { premises with network := { premises.network with
          sockets := premises.network.sockets.modify event.source fun _ => socket } } :=
    ⟨.refl _ _, fun other apart => (premises.network.sockets.get?_modify _ _ _).trans
      (if_neg apart), rfl, rfl, rfl, rfl⟩
  unfold flushOut
  simp only
  split
  · exact written _
  · exact written _
  · exact confined_close (written _) rfl

variable [Message M]

private theorem confined_read (keeps : service.sink.Private) (event : Event (Endpoint M))
    (connection : Connection M) (premises : Premises D) :
    Premises.Confined connection.session event.source premises
      (service.read event connection premises).premises := by
  obtain ⟨session, _, moved⟩ := drain_moves (keeps.from connection.session)
    ((premises.network.sockets.get? event.source).getD {}).incoming
    { connection, office := (premises.sessions, premises.desk), shared := premises.shared,
      clock := premises.clock, scratch := (premises.pool.acquire service.makeBuffer).1 } rfl
  have done (late : Premises D) (sessions : Sessions.Confined connection.session premises.sessions
      late.sessions) (incoming : List Arrival) (network : late.network = { premises.network with
        sockets := premises.network.sockets.modify event.source fun socket =>
          { socket with incoming } })
      (next : late.nextSession = premises.nextSession) (started : late.started = premises.started) :
      Premises.Confined connection.session event.source premises late := by
    refine ⟨sessions, fun other apart => ?_, ?_, ?_, next, started⟩
    · rw [network]
      exact (premises.network.sockets.get?_modify _ _ _).trans (if_neg apart)
    · rw [network]
    · rw [network]
  unfold Service.read
  simp only
  split
  · exact done _ moved _ rfl rfl rfl
  · exact done _ moved _ rfl rfl rfl
  · exact confined_close (done _ moved _ rfl rfl rfl) session

/-- **A connection touches its own session and its own socket**, whatever it is told of. -/
theorem confined_respond (keeps : service.sink.Private) (notice : Notice)
    (event : Event (Endpoint M)) (connection : Connection M) (premises : Premises D) :
    Premises.Confined connection.session event.source premises
      (service.respond notice event connection premises).premises := by
  cases reads : connection.reads notice with
  | true =>
    rw [respond_reads service event premises reads]
    exact confined_read keeps event { connection with throttled := false } premises
  | false =>
    rw [respond_unread service event premises reads]
    split
    · exact (confined_gather event.source connection premises).trans
        (confined_flushOut event (gather connection premises).1 (gather connection premises).2)
    · exact .refl _ _ _

end Service

/-! ## What another connection keeps -/

/-- What the premises hold of a connection is as it was: its session, its place on the roster,
and its socket. -/
structure Premises.Untouched (key : Nat) (id : UInt64) (source : Source)
    (early late : Premises D) : Prop where
  session : late.sessions.get? key = early.sessions.get? key
  live : late.sessions.live? id = early.sessions.live? id
  socket : late.network.sockets.get? source = early.network.sockets.get? source

/-- An object that has neither socket nor session nor identity in common with a connection. -/
structure Event.Apart (key : Nat) (id : UInt64) (source : Source)
    (event : Event (Endpoint M)) : Prop where
  source : event.source ≠ source
  member : ∀ member, event.member? = some member → member.key ≠ key ∧ member.id ≠ id

/-- A connection is left alone: its object with all that it holds, what the loop and the poller
have of it, its session, its place on the roster and its socket; and it is not silenced, nor is
anybody who waits to be added let go or let in. -/
structure Connection.Untouched (event : Event (Endpoint M)) (early late : ServerLoop M D)
    (connection : Connection M) : Prop where
  object : Loop.Untouched event.handle event.source early late
  silenced : late.changes.isRemoved event.handle = early.changes.isRemoved event.handle
  waits : Loop.eventsIn (late.changes.pending ++ late.inbox) =
    Loop.eventsIn (early.changes.pending ++ early.inbox)
  premises : Premises.Untouched connection.session event.generation event.source early.world
    late.world

/-- What an owner has asked for when it was told of something: one thing at the most of the loop,
about its own handle, and what its session asks, which it asks in the owner's name. -/
structure Event.Asked (event : Event (Endpoint M)) (early late : ServerLoop M D)
    (requests : List (Request (Endpoint M))) (pleas : List Plea) : Prop where
  pending : late.changes.pending = early.changes.pending ++ requests.map Request.change
  once : requests.length ≤ 1
  about : ∀ request ∈ requests, request.About event.handle
  inbox : late.inbox = early.inbox ++ pleas.map Plea.change
  named : ∀ plea ∈ pleas, plea.name = (event.generation, some event.handle)

section Ends

variable {key : Nat} {id : UInt64} {source : Source} {early middle late premises : Premises D}

private theorem Premises.Untouched.refl (key : Nat) (id : UInt64) (source : Source)
    (premises : Premises D) : Premises.Untouched key id source premises premises :=
  ⟨rfl, rfl, rfl⟩

private theorem Premises.Untouched.trans (first : Premises.Untouched key id source early middle)
    (second : Premises.Untouched key id source middle late) :
    Premises.Untouched key id source early late :=
  ⟨second.session.trans first.session, second.live.trans first.live,
    second.socket.trans first.socket⟩

private theorem Premises.Confined.untouched {own : Nat} {socket : Source}
    (confined : Premises.Confined own socket early late) (apart : key ≠ own)
    (elsewhere : source ≠ socket) (id : UInt64) : Premises.Untouched key id source early late :=
  ⟨confined.sessions.others key apart, congrArg (Keyed.get? · id) confined.sessions.roster,
    confined.sockets source elsewhere⟩

private theorem get?_close {other : Source} (apart : source ≠ other) (network : Network) :
    (network.close other).sockets.get? source = network.sockets.get? source :=
  (network.sockets.get?_modify other source _).trans (if_neg apart)

/-- Closing the door closes the sockets of those who wait at it, and nobody waits there then. -/
theorem get?_closeDoor {network : Network} (outside : source ∉ Network.waiting network.door) :
    network.closeDoor.sockets.get? source = network.sockets.get? source ∧
      network.closeDoor.door = [] := by
  have closed (sources : List Source) (network : Network) (outside : source ∉ sources) :
      let late := sources.foldl (fun network source => network.close source) network
      late.sockets.get? source = network.sockets.get? source ∧ late.door = network.door := by
    induction sources generalizing network with
    | nil => exact ⟨rfl, rfl⟩
    | cons other rest ih =>
      obtain ⟨apart, further⟩ := List.ne_and_not_mem_of_not_mem_cons outside
      obtain ⟨sockets, door⟩ := ih (network.close other) further
      exact ⟨sockets.trans (get?_close apart network), door⟩
  exact closed _ { network with door := [] } outside

/-- The end of another object. -/
theorem endEndpoint_untouched {event : Event (Endpoint M)} (apart : event.Apart key id source)
    (outside : source ∉ Network.waiting premises.network.door) :
    Premises.Untouched key id source premises (Service.endEndpoint event premises) := by
  unfold Service.endEndpoint
  split
  · exact ⟨rfl, rfl, (get?_closeDoor outside).1⟩
  · next connection body =>
    obtain ⟨keys, ids⟩ := apart.member ⟨event.handle, event.generation, connection.session⟩
      (by rw [Event.member?, body])
    refine ⟨Sessions.get?_markClosed (Ne.symm keys), ?_, get?_close (Ne.symm apart.source) _⟩
    refine ((Sessions.markClosed _ _).roster.get?_erase _ id).trans ?_
    rw [if_neg (Ne.symm ids), Sessions.roster_markClosed]
    rfl

/-- **Objects that end leave others alone**, and so do their calls and the clock. -/
theorem Service.spares [Message M] (service : Service M D) (key : Nat) (id : UInt64)
    (source : Source) :
    service.conduct.Reckons fun early ended late =>
      (∀ event ∈ ended, event.Apart key id source) →
      source ∉ Network.waiting early.network.door →
        Premises.Untouched key id source early late ∧
          source ∉ Network.waiting late.network.door where
  still world _ outside := ⟨.refl key id source world, outside⟩
  trans first second apart outside := by
    obtain ⟨apartFirst, apartSecond⟩ := List.forall_mem_append.1 apart
    obtain ⟨untouched, outsideStill⟩ := first apartFirst outside
    obtain ⟨untouchedOn, outsideOn⟩ := second apartSecond outsideStill
    exact ⟨untouched.trans untouchedOn, outsideOn⟩
  call call event world _ outside := by
    cases call with
    | deregister => exact ⟨.refl key id source world, outside⟩
    | _ =>
      simp only [conduct, callEndpoint, Network.nextRefusal]
      split <;> exact ⟨⟨rfl, rfl, rfl⟩, outside⟩
  destroy event world apart outside := by
    refine ⟨endEndpoint_untouched (List.forall_mem_singleton.1 apart) outside, ?_⟩
    simp only [conduct, endEndpoint]
    split
    · rw [(get?_closeDoor outside).2]
      exact List.not_mem_nil
    · exact outside
  clock world _ outside := ⟨⟨rfl, rfl, rfl⟩, outside⟩

end Ends

/-! ## Side by side -/

/-- Everybody there is has a source of its own, which nobody who stands at the door has. Whoever
hands out sockets sees to that: two that are open at once are two. -/
structure Site.Separate (site : Site (Endpoint M) Empty (Premises D)) : Prop where
  sources : ((site.loop.table.values ++ site.waiting).map Event.source).Nodup
  outside : ∀ event ∈ site.loop.table.values ++ site.waiting,
    event.source ∉ Network.waiting site.loop.world.network.door

namespace Scene

variable {service : Service M D} {scene : Scene M D} {mine : Handle}
  {event other : Event (Endpoint M)} {connection another : Connection M}

/-- An owner has nothing in common with a connection at another handle. -/
theorem Tallied.apart (tallied : Tallied service scene) (kempt : Kempt scene)
    (few : scene.site.loop.world.sessions.given.length < 2 ^ 64) (separate : scene.site.Separate)
    (found : scene.site.loop.lookup mine = some event)
    (present : other ∈ scene.site.loop.table.values ++ scene.site.waiting)
    (body : other.body = .connection another) (apart : mine ≠ other.handle) :
    event.Apart another.session other.generation other.source := by
  have handles : event.handle ≠ other.handle := by
    rw [kempt.filed _ _ found]
    exact apart
  have stands : event ∈ scene.site.loop.table.values ++ scene.site.waiting :=
    List.mem_append_left _ (Keyed.mem_values_of_get? found)
  have mirrors := tallied.mirrors
  refine ⟨fun same => handles ?_, fun member seen => ?_⟩
  · exact congrArg Event.handle (List.inj_on_of_nodup_map separate.sources stands present same)
  · have own : member.handle = event.handle := by
      unfold Event.member? at seen
      split at seen
      · cases seen
      · rw [← Option.some.inj seen]
    have seenToo : other.member? = some ⟨other.handle, other.generation, another.session⟩ := by
      rw [Event.member?, body]
    have listed : member ∈ scene.members := List.mem_filterMap.2 ⟨event, stands, seen⟩
    have listedToo : _ ∈ scene.members := List.mem_filterMap.2 ⟨other, present, seenToo⟩
    have keys : member.key ≠ another.session := fun same =>
      handles (own.symm.trans (congrArg Member.handle (mirrors.same_of_key listed listedToo same)))
    refine ⟨keys, fun same => keys ?_⟩
    obtain ⟨session, known, id, link⟩ := mirrors.serves _ listed
    obtain ⟨sessionToo, knownToo, idToo, linkToo⟩ := mirrors.serves _ listedToo
    exact mirrors.key_of_id few known knownToo (by rw [link]; rfl) (by rw [linkToo]; rfl)
      (id.trans (same.trans idToo.symm))

private theorem Kempt.lives (kempt : Kempt scene)
    (found : scene.site.loop.lookup mine = some event) :
    scene.site.loop.alive = true := by
  cases alive : scene.site.loop.alive with
  | true => rfl
  | false =>
    rw [Loop.lookup, (kempt.ended alive).1] at found
    cases found

variable [Message M]

/-- What a connection asks for when it is told of something. Its session speaks for it and for
nobody else, since the roster and the connections agree. -/
theorem Kempt.notify_asked (kempt : Kempt scene) (tallied : Tallied service scene)
    (keeps : service.sink.Private) (found : scene.site.loop.lookup mine = some event)
    (body : event.body = .connection connection) (notice : Notice) :
    ∃ requests pleas, event.Asked scene.site.loop
      (scene.site.loop.notify service.conduct notice mine) requests pleas := by
  have alive := kempt.lives found
  have own : event.handle = mine := kempt.filed _ _ found
  rw [Loop.notify_eq_takeUp service notice found body]
  have took := Loop.takeUp_took service.conduct alive mine event
    (Service.voiced (service.respond notice event connection scene.site.loop.world))
  have inbox := took.inbox
  rw [voiced_orders] at inbox
  refine ⟨_, _, took.pending, respond_asks_once service notice event connection _,
    respond_about service notice event connection _, inbox, ?_⟩
  obtain ⟨asked, grown, named⟩ :=
    (Service.confined_respond keeps notice event connection scene.site.loop.world).sessions.pleas
  have seen : event.member? = some ⟨event.handle, event.generation, connection.session⟩ := by
    rw [Event.member?, body]
  have listed : _ ∈ scene.members :=
    List.mem_filterMap.2 ⟨event, List.mem_append_left _ (Keyed.mem_values_of_get? found), seen⟩
  obtain ⟨session, known, id, link⟩ := tallied.mirrors.serves _ listed
  rw [kempt.silent, List.nil_append] at grown
  intro plea inside
  have name := named plea (grown ▸ inside)
  have own : (scene.site.loop.world.sessions.get? connection.session).map Session.name =
      some (event.generation, some event.handle) := by
    rw [known]
    exact congrArg some (Prod.ext id link)
  exact Option.some.inj (name.symm.trans own)

/-- **Being told of something**, a connection leaves another alone. -/
theorem Kempt.notify_untouched (kempt : Kempt scene) (keeps : service.sink.Private)
    (found : scene.site.loop.lookup mine = some event) (body : event.body = .connection connection)
    (handles : mine ≠ other.handle)
    (apart : event.Apart another.session other.generation other.source) (notice : Notice) :
    another.Untouched other scene.site.loop
      (scene.site.loop.notify service.conduct notice mine) := by
  have alive := kempt.lives found
  have own : event.handle = mine := kempt.filed _ _ found
  rw [Loop.notify_eq_takeUp service notice found body]
  have took := Loop.takeUp_took service.conduct alive mine event
    (Service.voiced (service.respond notice event connection scene.site.loop.world))
  have about := respond_about service notice event connection scene.site.loop.world
  refine ⟨Loop.takeUp_untouched alive (Ne.symm handles) event _, ?_, ?_, ?_⟩
  · rw [Loop.takeUp, Loop.carryOutAll_changes, Bool.eq_iff_iff, Changes.isRemoved_foldl]
    refine or_iff_left fun asked => handles ?_
    exact own.symm.trans (about _ asked).symm
  · rw [took.pending, took.inbox, voiced_orders, Loop.eventsIn_append, Loop.eventsIn_append,
      Loop.eventsIn_append, Loop.eventsIn_append, Plea.brings_nothing]
    simp only [Service.voiced, about.brings_nothing, List.append_nil]
  · obtain ⟨keys, _⟩ := apart.member ⟨event.handle, event.generation, connection.session⟩
      (by rw [Event.member?, body])
    have confined := Service.confined_respond keeps notice event connection scene.site.loop.world
    obtain ⟨session, live, socket⟩ := confined.untouched (Ne.symm keys) (Ne.symm apart.source)
      other.generation
    rw [took.world]
    exact ⟨session, live, socket⟩

/-- **When a change is applied** that is about another handle, a connection is left alone. -/
theorem Kempt.apply_untouched (kempt : Kempt scene) (tallied : Tallied service scene)
    (few : scene.site.loop.world.sessions.given.length < 2 ^ 64) (separate : scene.site.Separate)
    (present : other ∈ scene.site.loop.table.values ++ scene.site.waiting)
    (body : other.body = .connection another) {change : Change (Endpoint M) Empty}
    (brings : Loop.sourceOf change = none)
    (elsewhere : Loop.handleOf change ≠ some other.handle) :
    another.Untouched other scene.site.loop (scene.site.loop.apply service.conduct change) := by
  have filed := kempt.filed
  have strangers {concerned : Handle} {owner : Event (Endpoint M)}
      (apart : concerned ≠ other.handle) (found : scene.site.loop.lookup concerned = some owner) :
      owner.Apart another.session other.generation other.source :=
    tallied.apart kempt few separate found present body apart
  obtain ⟨inbox, changes, _⟩ := scene.site.loop.apply_keeps service.conduct change
  refine ⟨?_, by rw [changes], by rw [inbox, changes], ?_⟩
  · refine Loop.apply_untouched filed brings elsewhere fun concerned owner about found =>
      Ne.symm (strangers (fun same => elsewhere (same ▸ about)) found).source
  · -- Whoever ends with the change was the owner of another handle, so the end of it closes
    -- neither the session nor the socket of this one.
    obtain ⟨ended, conserves⟩ := Loop.apply_conserves service.conduct filed change
    have nobody : Loop.eventsIn [change] = [] :=
      Loop.eventsIn_eq_nil.2 (List.forall_mem_singleton.2 brings)
    rw [nobody] at conserves
    refine (conserves.world _ (service.spares _ _ _) (fun event inside => ?_)
      (separate.outside other present)).1
    have stays := Loop.apply_owner service.conduct filed change elsewhere
    obtain ⟨apart, resident, found, same⟩ := conserves.ended_elsewhere filed stays inside
    obtain ⟨source, member⟩ := strangers apart found
    have sources : resident.idle.source = event.idle.source := congrArg Event.source same
    have members : resident.idle.member? = event.idle.member? := congrArg Event.member? same
    exact ⟨sources ▸ source, members ▸ member⟩

private theorem Tended.chronicle {start : Scene M D} (tended : Tended service start scene) :
    ∃ history, Chronicle service start history scene := by
  induction tended with
  | start => exact ⟨[], .start⟩
  | step tended passes pool ih =>
    obtain ⟨history, chronicle⟩ := ih
    exact ⟨_, chronicle.step passes⟩

end Scene

/-- A plea that is made in the name of somebody else than the owner of its handle does nothing. -/
theorem apply_plea_stale {B C W : Type} (conduct : Conduct B C W) {loop : Loop B C W} {plea : Plea}
    {handle : Handle} {id : UInt64} (name : plea.name = (id, some handle))
    (stale : loop.owner? handle ≠ some id) : loop.apply conduct plea.change = loop := by
  have other : ∀ owner, loop.lookup handle = some owner → owner.generation ≠ id :=
    fun owner found same => stale (by rw [Loop.owner?, found, ← same]; rfl)
  cases plea with
  | rearm named generation interest =>
    cases name
    exact (apply_stale conduct loop other interest 0).1
  | remove named generation =>
    cases name
    exact (apply_stale conduct loop other .both 0).2.1

/-- **Connections leave one another alone.** At every moment of a run of a server whose handlers
use no session but their own, whatever its surroundings do and as long as identities have not run
out, a connection that there is, owned already or still to be added, is left alone. First, by any
other that is told of anything. That one asks for at most one thing of the loop, and that about its
own handle; and if it is not to be removed, as whoever is told of something never is, it still owns
that handle when the turn of its request comes. Second, by every change that is applied and that is
about another handle. Third, by what is sent in the name of somebody who no longer owns the handle:
it does nothing. Last, whatever buffers others have used and left, a connection does the same with
them, and holds nothing then but what it held and what came in at its own socket. -/
theorem connections_leave_one_another_alone [Message M] (service : Service M D)
    (keeps : service.sink.Private) {loop : ServerLoop M D} (pristine : Scene.Pristine loop)
    (stocked : service.Stocked loop.world) {listening : Handle} {scene : Scene M D}
    (tended : Scene.Tended service (Scene.opening service listening loop) scene)
    (few : scene.site.loop.world.sessions.given.length < 2 ^ 64) (separate : scene.site.Separate)
    {other : Event (Endpoint M)} {another : Connection M}
    (present : other ∈ scene.site.loop.table.values ++ scene.site.waiting)
    (body : other.body = .connection another) :
    (∀ (mine : Handle) (event : Event (Endpoint M)) (connection : Connection M) (notice : Notice),
      mine ≠ other.handle → scene.site.loop.lookup mine = some event →
      event.body = .connection connection →
      let late := scene.site.loop.notify service.conduct notice mine
      another.Untouched other scene.site.loop late ∧
      ∃ requests pleas, event.Asked scene.site.loop late requests pleas ∧
        (requests ≠ [] → scene.site.loop.changes.isRemoved mine = false →
          ¬ scene.site.stage.IsQuiet → ∀ stage later, ¬ stage.IsQuiet →
          Scene.Applies service ⟨⟨late, stage⟩, none, scene.asking⟩ scene.site.ahead later →
            later.site.loop.owner? mine = some event.generation)) ∧
    (∀ change : Change (Endpoint M) Empty, Loop.sourceOf change = none →
      Loop.handleOf change ≠ some other.handle →
      another.Untouched other scene.site.loop (scene.site.loop.apply service.conduct change)) ∧
    (∀ (plea : Plea) (handle : Handle) (id : UInt64), plea.name = (id, some handle) →
      scene.site.loop.owner? handle ≠ some id →
      scene.site.loop.apply service.conduct plea.change = scene.site.loop) ∧
    ∀ notice, let response := service.respond notice other another scene.site.loop.world
      (∀ pool, service.Stocked (scene.site.loop.world.lending pool) →
        response.Alike
          (service.respond notice other another (scene.site.loop.world.lending pool))) ∧
      ∃ got, Arrival.stream (scene.site.loop.world.incoming other.source) =
          got ++ Arrival.stream (response.premises.incoming other.source) ∧
        response.connection.inbound <:+ another.inbound ++ got := by
  obtain ⟨history, chronicle⟩ := tended.chronicle
  obtain ⟨kempt, tallied⟩ := chronicle.tallied keeps.discreet pristine
  have buffers := (tended.upheld pristine stocked).loop.world
  refine ⟨?_, ?_, ?_, ?_⟩
  · intro mine event connection notice handles found mineBody
    have apart := tallied.apart kempt few separate found present body handles
    obtain ⟨requests, pleas, asked⟩ := kempt.notify_asked tallied keeps found mineBody notice
    refine ⟨kempt.notify_untouched keeps found mineBody handles apart notice, requests, pleas,
      asked, ?_⟩
    intro asks kept busy stage later still run
    exact kempt.request_reaches keeps.discreet (chronicle.made pristine) (kempt.lives found) found
      kept busy notice asks asked.pending still run
  · intro change brings elsewhere
    exact kempt.apply_untouched tallied few separate present body brings elsewhere
  · intro plea handle id name stale
    exact apply_plea_stale service.conduct name stale
  · intro notice
    exact ⟨fun pool stockedToo => Service.respond_lending buffers stockedToo notice other another,
      Service.respond_inbound service notice other another scene.site.loop.world⟩

/-- Two connections come to a server for tallies. To the one comes a header that promises more
than a tally may hold, to the other the beginning of a frame. The one asks to be removed while it
owns its handle, and the other is left alone both when it asks and when it goes. -/
theorem violation_leaves_neighbour_alone :
    let service : Service Trial.Telegram Unit :=
      { settings := { bufferSize := 8 }, sink := ⟨fun _ _ office => (.ok (), office)⟩
        catalogue :=
          { listings := Keyed.ofFirst (Trial.Telegram.listings.filter fun entry => entry.1 = 20) } }
    let loop : ServerLoop Trial.Telegram Unit :=
      { world :=
          { desk := (), pool := Pool.full 1 service.makeBuffer
            network :=
              { sockets := Keyed.ofFirst
                  [(1, { incoming := [.bytes [0, 0, 0, 20, 0, 0, 0, 0, 0, 0, 0, 5]] }),
                    (2, { incoming := [.bytes [0, 0, 0, 20, 0]] })]
                door :=
                  [.visitor ⟨1, 11, .v4 127 0 0 1 40001⟩,
                    .visitor ⟨2, 12, .v4 127 0 0 1 40002⟩] } } }
    let rested := ((service.start 10 loop).2.turn service.conduct).2
    let serving :=
      { rested with world := service.conduct.wait true none (service.conduct.clock rested.world).2 }
    let told := serving.notify service.conduct .readable 11
    told.changes.isRemoved 11 = true ∧
      ∃ event, serving.lookup 11 = some event ∧ told.owner? 11 = some event.generation ∧
      ∃ other ∈ serving.table.values, ∃ another, other.handle = 12 ∧
        other.body = .connection another ∧ another.Untouched other serving told ∧
        another.Untouched other serving
          (serving.apply service.conduct (.remove { handle := 11 })) := by
  intro service loop rested serving told
  have lives : (service.start 10 loop).2.alive = true := by decide +kernel
  have livesOn : rested.alive = true := by decide +kernel
  have begins : Scene.Tended service (Scene.opening service 10 loop)
      ⟨⟨(service.start 10 loop).2, .resting⟩, none, []⟩ := .start
  have polled (loop : ServerLoop Trial.Telegram Unit) (inbox : loop.inbox = []) :
      Site.Step service.conduct ⟨loop, .draining⟩ []
        ⟨{ loop with world := service.conduct.wait true none (service.conduct.clock loop.world).2 },
          .delivering []⟩ :=
    .poll inbox true none [] loop.selector.poller.queue
  have inbox : rested.inbox = [] := List.isEmpty_iff.1 (by decide +kernel)
  have tended : Scene.Tended service (Scene.opening service 10 loop)
      ⟨⟨serving, .delivering []⟩, none, []⟩ :=
    (begins.turn lives).steps livesOn (.step (.begin rested) (polled rested inbox).steps)
  have keeps : service.sink.Private := fun _ _ office => .none office.1
  have pristine : Scene.Pristine loop :=
    ⟨⟨rfl, rfl, rfl, rfl, rfl, rfl, rfl⟩, rfl, rfl, rfl, rfl⟩
  have stocked : service.Stocked loop.world := by
    unfold Service.Stocked
    decide
  have few : serving.world.sessions.given.length < 2 ^ 64 := by decide +kernel
  have separate : (⟨serving, .delivering []⟩ : Site _ Empty _).Separate :=
    ⟨by decide +kernel, by decide +kernel⟩
  have nothing : serving.changes.pending.isEmpty = true ∧ serving.changes.isRemoved 11 = false := by
    decide +kernel
  have asks : told.changes.pending.isEmpty = false ∧ told.changes.isRemoved 11 = true := by
    decide +kernel
  have owned : (serving.lookup 11).any (fun event => event.member?.isSome) = true := by
    decide +kernel
  have present : serving.table.values.any (fun event =>
      decide (event.handle = 12) && event.member?.isSome) = true := by decide +kernel
  clear_value serving
  obtain ⟨event, found, serves⟩ := (Option.any_eq_true _ _).1 owned
  obtain ⟨other, stands, looks⟩ := List.any_eq_true.1 present
  obtain ⟨handle, servesToo⟩ := Bool.and_eq_true_iff.1 looks
  have handle : other.handle = 12 := of_decide_eq_true handle
  cases body : event.body with
  | listener => simp [Event.member?, body] at serves
  | connection connection =>
    cases bodyToo : other.body with
    | listener => simp [Event.member?, bodyToo] at servesToo
    | connection another =>
      obtain ⟨tells, applies, _⟩ := connections_leave_one_another_alone service keeps pristine
        stocked tended few separate (List.mem_append_left _ stands) bodyToo
      obtain ⟨untouched, requests, pleas, asked, reaches⟩ :=
        tells 11 event connection .readable (handle ▸ by decide) found body
      refine ⟨asks.2, event, found, ?_, other, stands, another, handle, bodyToo, untouched, ?_⟩
      · have something : requests ≠ [] := by
          rintro rfl
          have empty := asked.pending
          rw [List.isEmpty_iff.1 nothing.1] at empty
          rw [empty] at asks
          cases asks.1
        have ahead : (⟨serving, .delivering []⟩ : Site _ Empty _).ahead = [] := by
          rw [Site.ahead, List.isEmpty_iff.1 nothing.1]
          rfl
        refine reaches something nothing.2 id (.delivering [])
          ⟨⟨told, .delivering []⟩, none, []⟩ id ?_
        rw [ahead]
        exact .start
      · refine applies _ rfl ?_
        rw [handle]
        decide

end EventLoop
