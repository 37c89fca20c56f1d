import EventLoop.Proofs.Loop.Changes
import EventLoop.Proofs.Server.Reading
import EventLoop.Proofs.Session.Acts

/-! What a notification does to a connection and to the sessions, as far as
answers are concerned. Reading leaves what waits to be sent alone, or hands it in
through the sink like anyone else. Writing is two things, and others can come in
between: what waits in the session is gathered, and then it is flushed. Only a
flush that leaves nothing asks not to be told of room any more. -/
namespace EventLoop

variable {M D : Type}

/-- What a notification that does not write does to a connection. -/
structure Service.Quiet (handle : Handle) (connection : Connection M) (premises : Premises D)
    (response : Service.Response M D) : Prop where
  session : response.connection.session = connection.session
  outbound : response.connection.outbound = connection.outbound
  sessions : premises.sessions.Later response.premises.sessions
  requests : ∀ request ∈ response.requests,
    request = .remove handle ∨ ∃ delay, request = .schedule handle delay

/-! ## Reading -/

section Reads

variable [Message M] {service : Service M D}

private theorem round_keeps (honest : service.sink.Honest) (incoming : List Arrival)
    (reading : Reading M D) :
    let next := (reading.round service.sink incoming).2.2
    next.connection.session = reading.connection.session ∧
      next.connection.outbound = reading.connection.outbound ∧
      reading.office.1.Later next.office.1 := by
  obtain ⟨got, case⟩ := Reading.round_cases service.sink incoming reading
  simp only
  generalize (reading.round service.sink incoming).2.2 = next at case ⊢
  cases case with
  | idle stream connection office =>
    rw [connection, office]
    exact ⟨rfl, rfl, .refl _⟩
  | read stream decoded call connection office goesOn =>
    have acts := decode_acts honest reading.connection.intake reading.connection.session
      (reading.connection.inbound ++ got) reading.office
    rw [call] at acts
    rw [connection, office]
    exact ⟨rfl, rfl, acts.later⟩

private theorem drain_keeps (honest : service.sink.Honest) (incoming : List Arrival)
    (reading : Reading M D) :
    (reading.drain service.sink incoming).2.2.connection.session = reading.connection.session ∧
      (reading.drain service.sink incoming).2.2.connection.outbound =
        reading.connection.outbound ∧
      reading.office.1.Later (reading.drain service.sink incoming).2.2.office.1 := by
  induction incoming, reading using Reading.drain_induction service.sink with
  | stop incoming reading pause stop =>
    rw [Reading.drain_of_stop stop]
    exact round_keeps honest incoming reading
  | again incoming reading again ih =>
    obtain ⟨session, outbound, later⟩ := round_keeps honest incoming reading
    rw [Reading.drain_of_again again]
    exact ⟨ih.1.trans session, ih.2.1.trans outbound, later.trans ih.2.2⟩

omit [Message M] in
private theorem quiet_close {handle : Handle} {connection : Connection M} {premises : Premises D}
    {response : Service.Response M D} (quiet : Service.Quiet handle connection premises response) :
    Service.Quiet handle connection premises (Service.close handle response) := by
  unfold Service.close
  split
  · exact quiet
  · refine ⟨quiet.session, quiet.outbound,
      quiet.sessions.trans (Sessions.later_markClosed _ _), ?_⟩
    intro request inside
    rcases List.mem_append.1 inside with earlier | last
    · exact quiet.requests request earlier
    · exact .inl (List.mem_singleton.1 last)

private theorem quiet_read (honest : service.sink.Honest) (event : Event (Endpoint M))
    (connection : Connection M) (premises : Premises D) :
    Service.Quiet event.handle connection premises (service.read event connection premises) := by
  have kept := drain_keeps honest
    ((premises.network.sockets.get? event.source).getD {}).incoming
    { connection, office := (premises.sessions, premises.desk), shared := premises.shared,
      clock := premises.clock, scratch := (premises.pool.acquire service.makeBuffer).1 }
  unfold Service.read
  simp only at kept ⊢
  obtain ⟨session, outbound, later⟩ := kept
  split
  · refine ⟨session, outbound, later, ?_⟩
    rintro request ⟨⟩
  · refine ⟨session, outbound, later, ?_⟩
    intro request inside
    exact .inr ⟨_, List.mem_singleton.1 inside⟩
  · refine quiet_close ⟨session, outbound, later, ?_⟩
    rintro request ⟨⟩

/-- Whatever a connection is notified of, except room to write, and whatever it
is notified of once it is closing. -/
theorem quiet_respond (honest : service.sink.Honest) (event : Event (Endpoint M))
    {notice : Notice} {connection : Connection M} (premises : Premises D)
    (silent : notice ≠ .writable ∨ connection.closing = true) :
    Service.Quiet event.handle connection premises
      (service.respond notice event connection premises) := by
  have nothing : Service.Quiet event.handle connection premises { connection, premises } :=
    ⟨rfl, rfl, .refl _, fun request inside => by cases inside⟩
  unfold Service.respond
  split
  · exact nothing
  · rename_i opened
    cases notice with
    | readable =>
      simp only
      split
      · exact nothing
      · exact quiet_read honest event connection premises
    | timer =>
      obtain ⟨session, outbound, sessions, requests⟩ :=
        quiet_read honest event { connection with throttled := false } premises
      exact ⟨session, outbound, sessions, requests⟩
    | writable =>
      rcases silent with other | closing
      · exact absurd rfl other
      · exact absurd closing opened
    | accept => exact nothing

end Reads

/-! ## Writing -/

/-- Takes over what waits in the session of a connection. -/
def Service.gather (connection : Connection M) (premises : Premises D) :
    Connection M × Premises D :=
  let (queued, sessions) := premises.sessions.takeOutbound connection.session
  ({ connection with outbound := connection.outbound ++ queued }, { premises with sessions })

/-- Writes what a connection has to send. -/
def Service.flushOut (event : Event (Endpoint M)) (connection : Connection M)
    (premises : Premises D) : Service.Response M D :=
  let socket := (premises.network.sockets.get? event.source).getD {}
  let (flushed, outbound, socket) := socket.flush connection.outbound
  let response : Service.Response M D :=
    { connection := { connection with outbound }
      premises := { premises with
        network := { premises.network with
          sockets := premises.network.sockets.modify event.source fun _ => socket } } }
  match flushed with
  | .done => { response with requests := [.rearm event.handle .readable] }
  | .blocked => response
  | .broken => Service.close event.handle response

/-- Writing is gathering and flushing. -/
theorem write_eq_flush_gather (event : Event (Endpoint M)) (connection : Connection M)
    (premises : Premises D) :
    Service.write event connection premises =
      Service.flushOut event (Service.gather connection premises).1
        (Service.gather connection premises).2 := rfl

/-- A connection that does not read when it is told of something writes, or does nothing. -/
theorem respond_unread [Message M] (service : Service M D) {notice : Notice}
    (event : Event (Endpoint M)) {connection : Connection M} (premises : Premises D)
    (still : connection.reads notice = false) :
    service.respond notice event connection premises =
      if notice = .writable ∧ connection.closing = false then
        Service.flushOut event (Service.gather connection premises).1
          (Service.gather connection premises).2
      else { connection, premises } := by
  unfold Service.respond
  split
  · next closing => simp [closing]
  · next opened =>
    cases notice with
    | readable =>
      have throttled : connection.throttled = true := by
        simpa [Connection.reads, opened] using still
      simp [throttled]
    | timer => exact absurd still (by simpa [Connection.reads] using opened)
    | writable =>
      have writes : Notice.writable = .writable ∧ connection.closing = false :=
        ⟨rfl, by simpa using opened⟩
      rw [if_pos writes]
      exact write_eq_flush_gather event connection premises
    | accept => rfl

private theorem flush_leaves (socket : Socket) (outbound : List UInt8) :
    ((socket.flush outbound).2.1 ≠ [] → outbound ≠ []) ∧
      ((socket.flush outbound).1 = .done → (socket.flush outbound).2.1 = []) := by
  unfold Socket.flush
  generalize socket.room = room
  generalize socket.sent = sent
  fun_induction Socket.flush.go socket room outbound sent with
  | case1 => exact ⟨id, fun _ => rfl⟩
  | case2 => exact ⟨fun left => absurd rfl left, fun _ => rfl⟩
  | case3 => exact ⟨id, fun done => by cases done⟩
  | case4 _ _ _ _ ih => exact ih
  | case5 => exact ⟨id, fun done => by cases done⟩
  | case6 => exact ⟨id, fun done => by cases done⟩
  | case7 rest outbound sent bytes some ih => exact ⟨fun _ empty => some empty, ih.2⟩

/-- What flushing does to a connection: either everything is gone, and it asks
not to be told of room, or something may be left, and then it was there before. -/
structure Service.Flushes (handle : Handle) (connection : Connection M) (premises : Premises D)
    (response : Service.Response M D) : Prop where
  session : response.connection.session = connection.session
  sessions : premises.sessions.Later response.premises.sessions
  outcome : (response.connection.outbound = [] ∧
      response.requests = [.rearm handle .readable]) ∨
    ((response.connection.outbound ≠ [] → connection.outbound ≠ []) ∧
      ∀ request ∈ response.requests, request = .remove handle)

theorem Service.Flushes.requested {handle : Handle} {connection : Connection M}
    {premises : Premises D} {response : Service.Response M D}
    (flushes : Service.Flushes handle connection premises response) :
    ∀ request ∈ response.requests,
      request = .rearm handle .readable ∨ request = .remove handle := by
  intro request inside
  rcases flushes.outcome with ⟨_, requests⟩ | ⟨_, requests⟩
  · rw [requests] at inside
    exact .inl (List.mem_singleton.1 inside)
  · exact .inr (requests request inside)

theorem flushOut_flushes (event : Event (Endpoint M)) (connection : Connection M)
    (premises : Premises D) :
    Service.Flushes event.handle connection premises
      (Service.flushOut event connection premises) := by
  obtain ⟨leaves, empties⟩ := flush_leaves
    ((premises.network.sockets.get? event.source).getD {}) connection.outbound
  unfold Service.flushOut
  simp only
  split
  · rename_i done
    exact ⟨rfl, .refl _, .inl ⟨empties done, rfl⟩⟩
  · exact ⟨rfl, .refl _, .inr ⟨leaves, fun request inside => by cases inside⟩⟩
  · unfold Service.close
    split
    · exact ⟨rfl, .refl _, .inr ⟨leaves, fun request inside => by cases inside⟩⟩
    · exact ⟨rfl, Sessions.later_markClosed _ _,
        .inr ⟨leaves, fun request inside => List.mem_singleton.1 inside⟩⟩

/-! ## What is asked for -/

/-- A request about one handle, which brings nobody. -/
def Request.About {B : Type} (handle : Handle) : Request B → Prop
  | .add .. => False
  | .rearm named _ => named = handle
  | .remove named => named = handle
  | .schedule named _ => named = handle

/-- A response that asks for nothing but what is about one handle. -/
def Service.Response.About (handle : Handle) (response : Service.Response M D) : Prop :=
  ∀ request ∈ response.requests, request.About handle

private theorem Service.Response.About.close {handle : Handle} {response : Service.Response M D}
    (about : response.About handle) : (Service.close handle response).About handle := by
  unfold Service.close
  split
  · exact about
  · exact List.forall_mem_append.2 ⟨about, List.forall_mem_singleton.2 rfl⟩

theorem flushOut_about (event : Event (Endpoint M)) (connection : Connection M)
    (premises : Premises D) : (Service.flushOut event connection premises).About event.handle := by
  unfold Service.flushOut
  simp only
  split
  · exact List.forall_mem_singleton.2 rfl
  · exact List.forall_mem_nil _
  · exact Service.Response.About.close (List.forall_mem_nil _)

private theorem read_about [Message M] (service : Service M D) (event : Event (Endpoint M))
    (connection : Connection M) (premises : Premises D) :
    (service.read event connection premises).About event.handle := by
  unfold Service.read
  simp only
  split
  · exact List.forall_mem_nil _
  · exact List.forall_mem_singleton.2 rfl
  · exact Service.Response.About.close (List.forall_mem_nil _)

/-- **A connection asks for nothing but what is about its own handle**, whatever it is told. -/
theorem respond_about [Message M] (service : Service M D) (notice : Notice)
    (event : Event (Endpoint M)) (connection : Connection M) (premises : Premises D) :
    (service.respond notice event connection premises).About event.handle := by
  cases reads : connection.reads notice with
  | true =>
    rw [respond_reads service event premises reads]
    exact read_about service event { connection with throttled := false } premises
  | false =>
    rw [respond_unread service event premises reads]
    split
    · exact flushOut_about event _ _
    · exact List.forall_mem_nil _

/-- A connection asks for one thing at a time, whatever it is told of. -/
theorem respond_asks_once [Message M] (service : Service M D) (notice : Notice)
    (event : Event (Endpoint M)) (connection : Connection M) (premises : Premises D) :
    (service.respond notice event connection premises).requests.length ≤ 1 := by
  have closes (response : Service.Response M D) (nothing : response.requests = []) :
      (Service.close event.handle response).requests.length ≤ 1 := by
    unfold Service.close
    split
    · rw [nothing]
      exact Nat.zero_le 1
    · simp only [nothing]
      exact Nat.le_refl 1
  cases reads : connection.reads notice with
  | true =>
    rw [respond_reads service event premises reads]
    unfold Service.read
    simp only
    split
    · exact Nat.zero_le 1
    · exact Nat.le_refl 1
    · exact closes _ rfl
  | false =>
    rw [respond_unread service event premises reads]
    split
    · unfold Service.flushOut
      simp only
      split
      · exact Nat.le_refl 1
      · exact Nat.zero_le 1
      · exact closes _ rfl
    · exact Nat.zero_le 1

/-! ## Registering and ending -/

/-- Nothing that a loop itself does to its objects makes a session ask for anything. -/
theorem Service.within [Message M] (service : Service M D) :
    service.conduct.Within fun early late =>
      early.sessions.Later late.sessions ∧ late.sessions.pleas = early.sessions.pleas := by
  refine ⟨fun world => ⟨.refl _, rfl⟩, ?_, ?_, ?_, fun world => ⟨.refl _, rfl⟩⟩
  · intro early middle late first second
    exact ⟨first.1.trans second.1, second.2.trans first.2⟩
  · intro call event world
    cases call with
    | register token wanted => exact ⟨.refl _, rfl⟩
    | reregister token wanted => exact ⟨.refl _, rfl⟩
    | deregister => exact ⟨.refl _, rfl⟩
  · intro event world
    simp only [Service.conduct, Service.endEndpoint]
    split
    · exact ⟨.refl _, rfl⟩
    · exact ⟨(Sessions.later_markClosed _ _).trans (Sessions.later_strike _ _),
        Sessions.pleas_markClosed _ world.sessions⟩

/-! ## Admitting -/

/-- An event serves a session: its connection is that of the session, and the
session answers to the event's names. -/
structure Sessions.Serves (sessions : Sessions) (event : Event (Endpoint M))
    (connection : Connection M) (session : Session) : Prop where
  body : event.body = .connection connection
  known : sessions.get? connection.session = some session
  numbered : connection.session < sessions.opened
  id : session.id = event.generation
  link : session.link = some event.handle

/-- A connection may change as it likes, as long as it keeps its session. -/
theorem Sessions.Serves.carry {sessions : Sessions} {event : Event (Endpoint M)}
    {connection written : Connection M} {session : Session}
    (serves : sessions.Serves event connection session)
    (same : written.session = connection.session) :
    sessions.Serves { event with body := .connection written } written session := by
  refine ⟨rfl, ?_, ?_, serves.id, serves.link⟩
  · rw [same]
    exact serves.known
  · rw [same]
    exact serves.numbered

/-- A connection that has gathered goes on serving its session, in which nothing waits now. -/
theorem Sessions.Serves.gather {premises : Premises D} {event : Event (Endpoint M)}
    {connection : Connection M} {session : Session}
    (serves : premises.sessions.Serves event connection session) :
    (Service.gather connection premises).1.outbound = connection.outbound ++ session.outbound ∧
      (Service.gather connection premises).2.sessions.Serves
        { event with body := .connection (Service.gather connection premises).1 }
        (Service.gather connection premises).1 { session with outbound := [] } := by
  have taken : premises.sessions.takeOutbound connection.session =
      (session.outbound,
        premises.sessions.record connection.session { session with outbound := [] } []) := by
    unfold Sessions.takeOutbound
    rw [serves.known]
    rfl
  unfold Service.gather
  rw [taken]
  refine ⟨rfl, rfl, ?_, serves.numbered, serves.id, serves.link⟩
  simp only [Sessions.get?_record, ↓reduceIte]

/-- What serves a session goes on serving it. -/
theorem Sessions.Later.serves {before after : Sessions} {event : Event (Endpoint M)}
    {connection : Connection M} {session : Session} (later : before.Later after)
    (here : before.loopGone = false) (serves : before.Serves event connection session) :
    ∃ now, after.Serves event connection now ∧ Sessions.Keeps after.pleas session now := by
  obtain ⟨now, known, keeps⟩ := later.kept here _ _ serves.numbered serves.known
  exact ⟨now, ⟨serves.body, known, Nat.lt_of_lt_of_le serves.numbered later.opened,
    keeps.id.trans serves.id, keeps.link.trans serves.link⟩, keeps⟩

/-- A newcomer has nothing to send, and if something waits in its session the
loop is asked for room to write. -/
def Sessions.Awaits (sessions : Sessions) (event : Event (Endpoint M)) : Prop :=
  ∃ connection session, sessions.Serves event connection session ∧ connection.outbound = [] ∧
    (session.outbound ≠ [] → .rearm event.handle event.generation .both ∈ sessions.pleas)

private theorem Sessions.Later.awaits {before after : Sessions} {event : Event (Endpoint M)}
    (later : before.Later after) (here : before.loopGone = false) (awaits : before.Awaits event) :
    after.Awaits event := by
  obtain ⟨connection, session, serves, empty, asked⟩ := awaits
  obtain ⟨now, servesNow, keeps⟩ := later.serves here serves
  refine ⟨connection, now, servesNow, empty, ?_⟩
  intro waits
  rcases keeps.waits waits with waited | plea
  · exact later.pleas _ (asked waited)
  · have asks := plea event.handle servesNow.link
    rwa [servesNow.id] at asks

private theorem enlist_keeps (key : Nat) (sessions : Sessions) :
    (sessions.enlist key).book = sessions.book ∧
      (sessions.enlist key).opened = sessions.opened := by
  unfold Sessions.enlist
  split <;> exact ⟨rfl, rfl⟩

private theorem welcome_awaits (service : Service M D) (visitor : Visitor) (premises : Premises D) :
    premises.sessions.Later (service.welcome visitor premises).2.sessions ∧
      ∀ request, (service.welcome visitor premises).1 = some request →
        ∃ event, request = .add event .readable ∧
          (service.welcome visitor premises).2.sessions.Awaits event := by
  unfold Service.welcome
  split
  · exact ⟨.refl _, fun request none => by cases none⟩
  · simp only
    refine ⟨(Sessions.later_openSession _ _).trans (Sessions.later_enlist _ _),
      fun request asked => ⟨_, (Option.some.inj asked).symm, _,
        Session.attached premises.nextSession visitor.peer visitor.handle,
        ⟨rfl, ?_, ?_, rfl, rfl⟩, rfl, fun waits => absurd rfl waits⟩⟩
    · rw [Sessions.get?, (enlist_keeps _ _).1]
      exact (premises.sessions.book.get?_insert premises.sessions.opened _ _).trans (if_pos rfl)
    · rw [(enlist_keeps _ _).2]
      exact Nat.lt_succ_self _

/-- Everyone who is admitted at once comes as a newcomer. -/
theorem welcomeAll_awaits (service : Service M D) (door : List Knock) (premises : Premises D)
    (here : premises.sessions.loopGone = false) :
    premises.sessions.Later (service.welcomeAll door premises).2.2.sessions ∧
      ∀ request ∈ (service.welcomeAll door premises).1,
        ∃ event, request = .add event .readable ∧
          (service.welcomeAll door premises).2.2.sessions.Awaits event := by
  induction door generalizing premises with
  | nil => exact ⟨.refl _, fun request inside => by cases inside⟩
  | cons knock rest ih =>
    cases knock with
    | interrupted => exact ih premises here
    | failed => exact ⟨.refl _, fun request inside => by cases inside⟩
    | visitor visitor =>
      obtain ⟨first, newcomer⟩ := welcome_awaits service visitor premises
      have hereStill := first.loopGone.trans here
      obtain ⟨later, others⟩ := ih (service.welcome visitor premises).2 hereStill
      refine ⟨first.trans later, ?_⟩
      intro request inside
      rcases List.mem_append.1 inside with own | other
      · obtain ⟨event, added, awaits⟩ := newcomer request (Option.mem_toList.1 own)
        exact ⟨event, added, later.awaits hereStill awaits⟩
      · exact others request other

/-- What a notification does to a listener: it admits newcomers, and what sessions have come to
ask by then is sent. -/
structure Service.Admits (premises : Premises D) (sessions : Sessions)
    (reaction : Reaction (Endpoint M) Empty (Premises D)) : Prop where
  body : reaction.body = .listener
  later : premises.sessions.Later sessions
  book : reaction.world.sessions = sessions.takePleas.2
  orders : reaction.orders = sessions.pleas.map Plea.order
  newcomers : ∀ request ∈ reaction.requests, ∃ event,
    request = .add event .readable ∧ sessions.Awaits event

theorem listener_admits [Message M] (service : Service M D) (notice : Notice)
    {event : Event (Endpoint M)} (listens : event.body = .listener) (premises : Premises D)
    (here : premises.sessions.loopGone = false) :
    (∃ sessions, Service.Admits premises sessions (service.notifyEndpoint notice event premises)) ∧
      ((service.notifyEndpoint notice event premises).requests = [] ∨ notice = .accept ∧
        (service.notifyEndpoint notice event premises).requests =
          (service.welcomeAll premises.network.door premises).1) := by
  unfold Service.notifyEndpoint
  rw [listens]
  cases notice with
  | accept =>
    obtain ⟨later, newcomers⟩ := welcomeAll_awaits service premises.network.door premises here
    exact ⟨⟨_, rfl, later, rfl, rfl, newcomers⟩, .inr ⟨rfl, rfl⟩⟩
  | readable =>
    exact ⟨⟨_, rfl, .refl _, rfl, rfl, fun request none => by cases none⟩, .inl rfl⟩
  | writable =>
    exact ⟨⟨_, rfl, .refl _, rfl, rfl, fun request none => by cases none⟩, .inl rfl⟩
  | timer =>
    exact ⟨⟨_, rfl, .refl _, rfl, rfl, fun request none => by cases none⟩, .inl rfl⟩

end EventLoop
