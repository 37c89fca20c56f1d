import EventLoop.Proofs.Server.Threads

/-! What a loop owes to a session. Bytes may wait in the session or in its connection, and
the loop must come to know of it: either the poller tells it of room, or the request to be
told is on its way. This is the invariant of a scene, for one handle, and what keeps it when
nothing happens to the owner of that handle, or when its connection gathers what waits. -/
namespace EventLoop

variable {M D : Type}

/-! ## What is on its way -/

/-- A change that sessions or others may have put into the inbox. -/
def Change.Usual {B C : Type} (watched : Handle) : Change B C → Prop
  | .add .. => False
  | .rearm target mask => target.handle = watched → mask = .both
  | _ => True

/-- A change that may take room for output off a handle. -/
def Change.Rearms {B C : Type} (watched : Handle) : Change B C → Prop
  | .rearm target _ => target.handle = watched
  | _ => False

theorem Change.Foreign.usual {B C : Type} {watched : Handle} {change : Change B C}
    (foreign : change.Foreign watched) : change.Usual watched := by
  cases change with
  | add event mask => exact foreign
  | rearm target mask => exact fun same => absurd same foreign
  | remove target => trivial
  | schedule target delay => trivial
  | timer callback interval delayed repeats => trivial

theorem Change.Foreign.spares {B C : Type} {watched : Handle} {change : Change B C}
    (foreign : change.Foreign watched) : ¬ change.Rearms watched := by
  cases change with
  | add event mask => exact id
  | rearm target mask => exact foreign
  | remove target => exact id
  | schedule target delay => exact id
  | timer callback interval delayed repeats => exact id

private theorem Change.Usual.adds_nothing {B C : Type} {watched : Handle} {change : Change B C}
    (usual : change.Usual watched) : Loop.sourceOf change = none := by
  cases change with
  | add event mask => exact usual.elim
  | rearm target mask => rfl
  | remove target => rfl
  | schedule target delay => rfl
  | timer callback interval delayed repeats => rfl

theorem Plea.Usual.change {B C : Type} {plea : Plea} (usual : plea.Usual) (watched : Handle) :
    (plea.change : Change B C).Usual watched := by
  cases plea with
  | rearm handle generation interest => exact fun _ => usual
  | remove handle generation => trivial

/-- The poller watches the source of an object for room, in the name of its handle. -/
def Loop.Armed {B C W : Type} (loop : Loop B C W) (event : Event B) : Prop :=
  ∃ wanted, loop.watching? event.source = some (event.handle.token, wanted) ∧
    wanted.output = true

namespace Scene

/-- The session of a generation has asked for room at the handle that is looked at, and the
loop has the request in its inbox or is yet to be sent it. -/
def Promised (watched : Handle) (loop : ServerLoop M D) (asking : List Plea)
    (generation : UInt64) : Prop :=
  .rearm { handle := watched, generation := some generation } .both ∈ loop.inbox ∨
    .rearm watched generation .both ∈ asking

/-- How a loop and what is on its way to it look like at any time. -/
structure Orderly (watched : Handle) (loop : ServerLoop M D) (asking : List Plea) : Prop where
  alive : loop.alive = true
  here : loop.world.sessions.loopGone = false
  silent : loop.world.sessions.pleas = []
  inbox : ∀ change ∈ loop.inbox, change.Usual watched
  asking : ∀ plea ∈ asking, plea.Usual

/-- What becomes of sessions and their requests: no request is lost, and bytes that come to
wait come with one. -/
structure Onward (watched : Handle) (loop : ServerLoop M D) (asking : List Plea)
    (late : ServerLoop M D) (further : List Plea) : Prop where
  promised : ∀ generation, Promised watched loop asking generation →
    Promised watched late further generation
  serves : ∀ (event : Event (Endpoint M)) connection session, event.handle = watched →
    loop.world.sessions.Serves event connection session →
      ∃ now, late.world.sessions.Serves event connection now ∧
        (now.outbound ≠ [] → session.outbound ≠ [] ∨
          Promised watched late further event.generation)

/-! ## Going onward -/

variable {watched : Handle} {loop late : ServerLoop M D} {asking further : List Plea}

/-- Sessions go onward when everything they have asked is on its way. -/
theorem Onward.of_later {sessions : Sessions} (here : loop.world.sessions.loopGone = false)
    (later : loop.world.sessions.Later sessions)
    (book : late.world.sessions = sessions.takePleas.2)
    (promised : ∀ generation, Promised watched loop asking generation →
      Promised watched late further generation)
    (heard : ∀ generation, .rearm watched generation .both ∈ sessions.pleas →
      Promised watched late further generation) :
    Onward watched loop asking late further := by
  refine ⟨promised, ?_⟩
  intro event connection session own serves
  obtain ⟨now, servesNow, keeps⟩ := later.serves here serves
  refine ⟨now, ?_, fun waits => (keeps.waits waits).imp id fun asked => heard _ ?_⟩
  · rw [book]
    exact ⟨servesNow.body, servesNow.known, servesNow.numbered, servesNow.id, servesNow.link⟩
  · have plea := asked event.handle servesNow.link
    rwa [servesNow.id, own] at plea

theorem Onward.of_same (sessions : late.world.sessions = loop.world.sessions)
    (promised : ∀ generation, Promised watched loop asking generation →
      Promised watched late further generation) :
    Onward watched loop asking late further := by
  refine ⟨promised, fun event connection session own serves => ⟨session, ?_, .inl⟩⟩
  rw [sessions]
  exact serves

/-- Taking up a reaction sends on what sessions ask. -/
theorem Orderly.tookUp {handle : Handle} {event : Event (Endpoint M)}
    {reaction : Reaction (Endpoint M) Empty (Premises D)} {sessions : Sessions}
    (orderly : Orderly watched loop asking) (took : Loop.Took handle event reaction loop late)
    (later : loop.world.sessions.Later sessions)
    (book : reaction.world.sessions = sessions.takePleas.2)
    (orders : reaction.orders = sessions.pleas.map Plea.order) :
    Orderly watched late asking ∧ Onward watched loop asking late asking := by
  have inbox : late.inbox = loop.inbox ++ sessions.pleas.map Plea.change := by
    rw [took.inbox, orders, List.filterMap_map]
    exact congrArg (loop.inbox ++ ·) (congrFun List.filterMap_eq_map _)
  have world : late.world.sessions = sessions.takePleas.2 := by rw [took.world, book]
  refine ⟨⟨took.alive.trans orderly.alive, ?_, ?_, ?_, orderly.asking⟩, ?_⟩
  · rw [world]
    exact later.loopGone.trans orderly.here
  · rw [world]
    rfl
  · intro change inside
    rw [inbox] at inside
    rcases List.mem_append.1 inside with before | sent
    · exact orderly.inbox change before
    · obtain ⟨plea, asked, rfl⟩ := List.mem_map.1 sent
      rcases later.usual plea asked with before | usual
      · rw [orderly.silent] at before
        cases before
      · exact usual.change watched
  · refine .of_later orderly.here later world (fun generation promised => ?_)
      fun generation asked => .inl ?_
    · refine promised.imp (fun inside => ?_) id
      rw [inbox]
      exact List.mem_append_left _ inside
    · rw [inbox]
      exact List.mem_append_right _ (List.mem_map_of_mem asked)

/-! ## What is kept -/

/-- Who is still to be added has nothing to write, and what waits in its session has been
asked for. -/
structure Newcomer (watched : Handle) (loop : ServerLoop M D) (asking : List Plea)
    (event : Event (Endpoint M)) (mask : Interest) : Prop where
  mask : mask = .readable
  serves : event.handle = watched → ∃ connection session,
    loop.world.sessions.Serves event connection session ∧ connection.outbound = [] ∧
      (session.outbound ≠ [] → Promised watched loop asking event.generation)

/-- If something waits, the session's request is on its way, or the handle is armed for room
and nothing ahead disarms it. -/
def Covered (watched : Handle) (loop : ServerLoop M D) (ahead : List (Change (Endpoint M) Empty))
    (asking : List Plea) (event : Event (Endpoint M)) (connection : Connection M)
    (session : Session) : Prop :=
  session.outbound ≠ [] ∨ connection.outbound ≠ [] →
    Promised watched loop asking event.generation ∨
      (loop.Armed event ∧ ∀ change ∈ ahead, ¬ change.Rearms watched)

/-- The handle is registered for a connection, and what waits for it is covered. While the
connection is flushing, what has come to wait in the session since must have been asked for:
being armed is about to end. -/
structure Attended (watched : Handle) (loop : ServerLoop M D)
    (ahead : List (Change (Endpoint M) Empty)) (asking : List Plea) (flushing : Option Handle)
    (event : Event (Endpoint M)) (connection : Connection M) : Prop where
  added : event.standing = .added
  allowed : ¬ watched < 0
  serves : ∃ session, loop.world.sessions.Serves event connection session ∧
    Covered watched loop ahead asking event connection session ∧
    (flushing = some watched → session.outbound ≠ [] →
      Promised watched loop asking event.generation)

/-- The invariant of a scene, for the handle that is looked at. -/
structure Sound (watched : Handle) (loop : ServerLoop M D)
    (ahead : List (Change (Endpoint M) Empty)) (asking : List Plea) (flushing : Option Handle) :
    Prop where
  orderly : Orderly watched loop asking
  tidy : loop.Tidy ahead
  newcomer : ∀ event mask, .add event mask ∈ ahead → Newcomer watched loop asking event mask
  owner : ∀ event connection, loop.lookup watched = some event →
    event.body = .connection connection →
      Attended watched loop ahead asking flushing event connection

variable {ahead more : List (Change (Endpoint M) Empty)} {flushing next : Option Handle}

theorem waited_or_asked {waits waited still asked : Prop} (came : waits → waited ∨ asked)
    (waiting : waits ∨ still) : (waited ∨ still) ∨ asked := by
  rcases waiting with waiting | waiting
  · exact (came waiting).imp .inl id
  · exact .inl (.inr waiting)

theorem Newcomer.onward {event : Event (Endpoint M)} {mask : Interest}
    (newcomer : Newcomer watched loop asking event mask)
    (onward : Onward watched loop asking late further) :
    Newcomer watched late further event mask := by
  refine ⟨newcomer.mask, ?_⟩
  intro own
  obtain ⟨connection, session, serves, empty, asked⟩ := newcomer.serves own
  obtain ⟨now, servesNow, waits⟩ := onward.serves event connection session own serves
  refine ⟨connection, now, servesNow, empty, ?_⟩
  intro waiting
  rcases waits waiting with waited | promised
  · exact onward.promised _ (asked waited)
  · exact promised

theorem Attended.onward {event : Event (Endpoint M)} {connection : Connection M}
    (attended : Attended watched loop ahead asking flushing event connection)
    (own : event.handle = watched) (onward : Onward watched loop asking late further)
    (watching : late.watching? event.source = loop.watching? event.source)
    (spares : ∀ change ∈ more, change ∈ ahead ∨ ¬ change.Rearms watched)
    (flushes : next = some watched → flushing = some watched) :
    Attended watched late more further next event connection := by
  obtain ⟨session, serves, covered, asked⟩ := attended.serves
  obtain ⟨now, servesNow, waits⟩ := onward.serves event connection session own serves
  refine ⟨attended.added, attended.allowed, now, servesNow, ?_, ?_⟩
  · intro waiting
    rcases waited_or_asked waits waiting with waited | promised
    · rcases covered waited with promised | ⟨⟨wanted, armed, output⟩, undisturbed⟩
      · exact .inl (onward.promised _ promised)
      · refine .inr ⟨⟨wanted, watching.trans armed, output⟩, ?_⟩
        intro change inside
        exact (spares change inside).elim (undisturbed change) id
    · exact .inl promised
  · intro flushesNow waiting
    rcases waits waiting with waited | promised
    · exact onward.promised _ (asked (flushes flushesNow) waited)
    · exact promised

/-- What is ahead is what was, or something that neither disarms the handle nor brings
anyone but a newcomer. -/
def Further (watched : Handle) (late : ServerLoop M D) (further : List Plea)
    (ahead more : List (Change (Endpoint M) Empty)) : Prop :=
  ∀ change ∈ more, change ∈ ahead ∨ (¬ change.Rearms watched ∧
    ∀ event mask, change = .add event mask → Newcomer watched late further event mask)

theorem Sound.newcomers (sound : Sound watched loop ahead asking flushing)
    (onward : Onward watched loop asking late further)
    (goes : Further watched late further ahead more) (event : Event (Endpoint M))
    (mask : Interest) (inside : .add event mask ∈ more) :
    Newcomer watched late further event mask := by
  rcases goes _ inside with before | ⟨_, newcomer⟩
  · exact (sound.newcomer event mask before).onward onward
  · exact newcomer event mask rfl

/-- Nothing has happened to the owner of the handle, or what owns it is no connection. -/
theorem Sound.still (sound : Sound watched loop ahead asking flushing)
    (orderly : Orderly watched late further) (onward : Onward watched loop asking late further)
    (tidy : late.Tidy more)
    (owner : ∀ event connection, late.lookup watched = some event →
      event.body = .connection connection → loop.lookup watched = some event)
    (watching : ∀ event, loop.lookup watched = some event →
      late.watching? event.source = loop.watching? event.source)
    (goes : Further watched late further ahead more)
    (flushes : next = some watched → flushing = some watched) :
    Sound watched late more further next := by
  refine ⟨orderly, tidy, sound.newcomers onward goes, ?_⟩
  intro event connection found body
  have before := owner event connection found body
  exact (sound.owner event connection before body).onward (sound.tidy.filed _ _ before) onward
    (watching event before) (fun change inside => (goes change inside).imp id And.left) flushes

/-- A connection that keeps its session and has no more to write than before is as well
attended as before. -/
theorem Attended.carry {event : Event (Endpoint M)} {connection written : Connection M}
    (attended : Attended watched loop ahead asking flushing event connection)
    (same : written.session = connection.session)
    (less : written.outbound ≠ [] → connection.outbound ≠ []) :
    Attended watched loop ahead asking flushing { event with body := .connection written }
      written := by
  obtain ⟨session, serves, covered, asked⟩ := attended.serves
  exact ⟨attended.added, attended.allowed, session, serves.carry same,
    fun waiting => covered (waiting.imp id less), asked⟩

/-- A connection that has flushed is attended, whatever is left: if it asks not to be told of
room any more, all that waits is in the session, and has come there since. -/
theorem Attended.flushed {event : Event (Endpoint M)} {connection : Connection M}
    {premises : Premises D} {response : Service.Response M D}
    (attended : Attended watched loop ahead asking (some watched) event connection)
    (own : event.handle = watched) (onward : Onward watched loop asking late further)
    (watching : late.watching? event.source = loop.watching? event.source)
    (flushes : Service.Flushes event.handle connection premises response) :
    Attended watched late (ahead ++ response.requests.map Request.change) further none
      { event with body := .connection response.connection } response.connection := by
  rcases flushes.outcome with ⟨empty, _⟩ | ⟨less, requests⟩
  · obtain ⟨session, serves, covered, asked⟩ := attended.serves
    obtain ⟨now, servesNow, waits⟩ := onward.serves event connection session own serves
    refine ⟨attended.added, attended.allowed, now, servesNow.carry flushes.session,
      fun waiting => .inl ?_, fun flushing => by cases flushing⟩
    rcases waiting with waiting | waiting
    · rcases waits waiting with waited | promised
      · exact onward.promised _ (asked rfl waited)
      · exact promised
    · exact absurd empty waiting
  · refine Attended.carry (attended.onward own onward watching ?_
      fun flushing => by cases flushing) flushes.session less
    intro change inside
    rcases List.mem_append.1 inside with before | asked
    · exact .inl before
    · obtain ⟨request, requested, rfl⟩ := List.mem_map.1 asked
      rw [requests request requested]
      exact .inr id

theorem Further.of_requests {requests : List (Request (Endpoint M))}
    (admits : ∀ request ∈ requests, ¬ (request.change : Change _ Empty).Rearms watched ∧
      ∀ event mask, request = .add event mask → Newcomer watched late further event mask) :
    Further watched late further ahead (ahead ++ requests.map Request.change) := by
  intro change inside
  rcases List.mem_append.1 inside with before | asked
  · exact .inl before
  · obtain ⟨request, requested, rfl⟩ := List.mem_map.1 asked
    obtain ⟨spares, newcomer⟩ := admits request requested
    refine .inr ⟨spares, fun event mask adds => newcomer event mask ?_⟩
    cases request with
    | add event mask =>
      cases adds
      rfl
    | rearm handle mask => cases adds
    | remove handle => cases adds
    | schedule handle delay => cases adds

/-! ## What passes the handle by -/

/-- Nothing has happened to anyone in the table or to what is watched. -/
theorem Sound.beside (sound : Sound watched loop ahead asking flushing)
    (orderly : Orderly watched late further) (onward : Onward watched loop asking late further)
    (owner : ∀ handle, late.lookup handle = loop.lookup handle)
    (watching : ∀ source, late.watching? source = loop.watching? source) :
    Sound watched late ahead further flushing := by
  have tidy : late.Tidy ahead := by
    refine sound.tidy.of_seats ?_ ?_
      sound.tidy.strangers
    · intro handle event found
      rw [owner] at found
      exact sound.tidy.filed handle event found
    · intro handle
      rw [Loop.seat?, owner]
      rfl
  refine sound.still orderly onward tidy (fun event _ found _ => ?_)
    (fun event _ => watching event.source) (fun change inside => .inl inside) id
  rw [owner] at found
  exact found

/-- Nothing has happened that matters to the handle or to sessions. -/
theorem Sound.aside (sound : Sound watched loop ahead asking flushing)
    (table : late.table = loop.table)
    (poller : late.selector.poller.watched = loop.selector.poller.watched)
    (inbox : late.inbox = loop.inbox) (alive : late.alive = loop.alive)
    (sessions : late.world.sessions = loop.world.sessions) :
    Sound watched late ahead asking flushing := by
  have orderly : Orderly watched late asking := by
    refine ⟨alive.trans sound.orderly.alive, ?_, ?_, ?_, sound.orderly.asking⟩
    · rw [sessions]
      exact sound.orderly.here
    · rw [sessions]
      exact sound.orderly.silent
    · rw [inbox]
      exact sound.orderly.inbox
  have onward : Onward watched loop asking late asking := by
    refine .of_same sessions fun generation promised => ?_
    rw [Promised, inbox]
    exact promised
  refine sound.beside orderly onward ?_ ?_
  · intro handle
    rw [Loop.lookup, table]
    rfl
  · intro source
    rw [Loop.watching?, poller]
    rfl

/-- Orders are sent to the loop, of its sessions or of others. -/
theorem Sound.ordered {orders : List (Order (Endpoint M) Empty)}
    (sound : Sound watched loop ahead asking flushing) (ordered : Loop.Ordered orders loop late)
    (usual : ∀ change ∈ orders.filterMap Order.change?, change.Usual watched)
    (fewer : ∀ plea ∈ further, plea ∈ asking)
    (sent : ∀ plea ∈ asking, plea ∈ further ∨ plea.change ∈ orders.filterMap Order.change?) :
    Sound watched late ahead further flushing := by
  have orderly : Orderly watched late further := by
    refine ⟨ordered.alive.trans sound.orderly.alive, ?_, ?_, ?_,
      fun plea inside => sound.orderly.asking plea (fewer plea inside)⟩
    · rw [ordered.world]
      exact sound.orderly.here
    · rw [ordered.world]
      exact sound.orderly.silent
    · intro change inside
      rw [ordered.inbox] at inside
      exact (List.mem_append.1 inside).elim (sound.orderly.inbox change) (usual change)
  have onward : Onward watched loop asking late further := by
    refine .of_same (by rw [ordered.world]) fun generation promised => ?_
    rw [Promised, ordered.inbox]
    rcases promised with inside | inside
    · exact .inl (List.mem_append_left _ inside)
    · rcases sent _ inside with still | now
      · exact .inr still
      · exact .inl (List.mem_append_right _ now)
  refine sound.beside orderly onward (fun handle => ?_) ordered.watching
  rw [Loop.lookup, ordered.table]
  rfl

/-- Somebody acts on a session. -/
theorem Sound.acted [Message M] {sessions : Sessions}
    (sound : Sound watched loop ahead asking flushing)
    (act : Sessions.Act M loop.world.sessions sessions) :
    Sound watched { loop with world := { loop.world with sessions := sessions.takePleas.2 } } ahead
      (asking ++ sessions.takePleas.1) flushing := by
  have later := (Sessions.Acts.act (.none _) act).later
  have orderly : Orderly watched
      { loop with world := { loop.world with sessions := sessions.takePleas.2 } }
      (asking ++ sessions.takePleas.1) := by
    refine ⟨sound.orderly.alive, later.loopGone.trans sound.orderly.here, rfl,
      sound.orderly.inbox, ?_⟩
    intro plea inside
    rcases List.mem_append.1 inside with before | now
    · exact sound.orderly.asking plea before
    · rcases later.usual plea now with before | usual
      · rw [sound.orderly.silent] at before
        cases before
      · exact usual
  have onward : Onward watched loop asking
      { loop with world := { loop.world with sessions := sessions.takePleas.2 } }
      (asking ++ sessions.takePleas.1) := by
    refine .of_later sound.orderly.here later rfl (fun generation promised => ?_)
      fun generation asked => .inr (List.mem_append_right _ asked)
    exact promised.imp id (List.mem_append_left _)
  exact sound.beside orderly onward (fun _ => rfl) fun _ => rfl

/-- A harmless change may be put in front of a loop that has nothing else ahead. -/
theorem Sound.faces {change : Change (Endpoint M) Empty}
    (sound : Sound watched loop [] asking none) (usual : change.Usual watched)
    (spares : ¬ change.Rearms watched) : Sound watched loop [change] asking none := by
  have tidy : loop.Tidy [change] := by
    refine sound.tidy.of_seats sound.tidy.filed (fun _ => rfl) ?_
    rw [Loop.eventsIn_cons_other usual.adds_nothing]
    exact sound.tidy.strangers
  refine sound.still sound.orderly (.of_same rfl fun _ => id) tidy (fun _ _ now _ => now)
    (fun _ _ => rfl) (fun other inside => .inr ?_) id
  rw [List.mem_singleton.1 inside]
  refine ⟨spares, ?_⟩
  rintro event mask rfl
  exact usual.elim

theorem Orderly.shorter {change : Change (Endpoint M) Empty}
    {rest : List (Change (Endpoint M) Empty)} (orderly : Orderly watched loop asking)
    (inbox : loop.inbox = change :: rest) : Orderly watched { loop with inbox := rest } asking := by
  refine ⟨orderly.alive, orderly.here, orderly.silent, fun other inside => ?_, orderly.asking⟩
  refine orderly.inbox other ?_
  rw [inbox]
  exact List.mem_cons_of_mem change inside

/-! ## Gathering -/

/-- A connection that gathers what waits in its session is attended as it was, and from then
on nothing waits in the session that has not been asked for. -/
theorem Sound.gathers (sound : Sound watched loop ahead asking none)
    (found : loop.lookup handle = some event) (body : event.body = .connection connection) :
    Sound watched (loop.gather handle event connection) ahead asking (some handle) := by
  have later := Sessions.later_takeOutbound connection.session loop.world.sessions
  have silent : (loop.world.sessions.takeOutbound connection.session).2.pleas = [] :=
    (Sessions.pleas_takeOutbound connection.session loop.world.sessions).trans sound.orderly.silent
  have orderly : Orderly watched (loop.gather handle event connection) asking :=
    ⟨sound.orderly.alive, later.loopGone.trans sound.orderly.here, silent, sound.orderly.inbox,
      sound.orderly.asking⟩
  have onward : Onward watched loop asking (loop.gather handle event connection) asking := by
    refine .of_later sound.orderly.here later (Sessions.takePleas_of_silent silent).symm
      (fun _ => id) fun generation asked => ?_
    rw [silent] at asked
    cases asked
  have owner (probe : Handle) : (loop.gather handle event connection).lookup probe =
      if probe = handle then some
        { event with body := .connection (Service.gather connection loop.world).1 }
      else loop.lookup probe := loop.table.get?_insert handle probe _
  have tidy := sound.tidy.tookUp found owner sound.tidy.strangers
  have goes : Further watched (loop.gather handle event connection) asking ahead ahead :=
    fun change inside => .inl inside
  by_cases here : watched = handle
  · subst here
    refine ⟨orderly, tidy, sound.newcomers onward goes, ?_⟩
    intro gatherer gathered now bodyNow
    rw [owner, if_pos rfl] at now
    cases now
    cases bodyNow
    have attended := sound.owner event connection found body
    obtain ⟨session, serves, covered, asked⟩ := attended.serves
    obtain ⟨outbound, servesNow⟩ := serves.gather
    refine ⟨attended.added, attended.allowed, _, servesNow, fun waits => ?_,
      fun flushes waits => absurd rfl waits⟩
    refine covered ?_
    rw [outbound] at waits
    rcases waits with waits | waits
    · exact absurd rfl waits
    · by_cases empty : session.outbound = []
      · rw [empty, List.append_nil] at waits
        exact .inr waits
      · exact .inl empty
  · refine sound.still orderly onward tidy (fun gatherer gathered now bodyNow => ?_)
      (fun _ _ => rfl) goes fun flushes => absurd (Option.some.inj flushes).symm here
    rw [owner, if_neg here] at now
    exact now

end Scene

end EventLoop
