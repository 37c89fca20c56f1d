import EventLoop.Proofs.Server.Outflow

/-! The notifications of a connection as runs of its outlet. Being told of room is
gathering, attempts to write, and an end; being told of input is whatever its sink does
to sessions while frames are handed in, and nothing else that would concern the
outbound stream. What holds of every run holds of every interleaving of notifications
with what others do, also of one that is finer than any notification. -/
namespace EventLoop

variable {M D : Type}

/-! ## Reading -/

/-- How sessions may move under what a sink is handed. -/
structure Sink.Within (sink : Sink M (Sessions × D)) (moves : Sessions → Sessions → Prop) :
    Prop where
  still : ∀ sessions, moves sessions sessions
  trans : ∀ {early middle late}, moves early middle → moves middle late → moves early late
  submit : ∀ group task office, moves office.1 (sink.submit group task office).2.1

/-- How sessions may move under what a sink is handed from one of them. -/
structure Sink.WithinFrom (sink : Sink M (Sessions × D)) (session : Nat)
    (moves : Sessions → Sessions → Prop) : Prop where
  still : ∀ sessions, moves sessions sessions
  trans : ∀ {early middle late}, moves early middle → moves middle late → moves early late
  submit : ∀ group message office,
    moves office.1 (sink.submit group ⟨message, session⟩ office).2.1

section Reads

variable [Message M] {sink : Sink M (Sessions × D)} {session : Nat}
  {moves : Sessions → Sessions → Prop}

omit [Message M] in
theorem Sink.Within.from (within : sink.Within moves) (session : Nat) :
    sink.WithinFrom session moves :=
  ⟨within.still, within.trans, fun group _ office => within.submit group _ office⟩

private theorem takeFrames_moves (within : sink.WithinFrom session moves) (intake : Intake M)
    (count : Nat) (buffer : List UInt8) (office : Sessions × D) :
    moves office.1 (intake.takeFrames sink session buffer count office).state.1 := by
  induction buffer using intake.buffer_induction generalizing count office with
  | partialFrame buffer seen =>
    rw [Intake.takeFrames_partial seen]
    exact within.still office.1
  | rejected buffer breach seen =>
    rw [Intake.takeFrames_rejected seen]
    exact within.still office.1
  | whole buffer header payload rest seen ih =>
    rw [Intake.takeFrames_whole seen]
    split
    · exact within.still office.1
    · exact within.still office.1
    · rename_i message _ _
      have submitted := within.submit (Message.group message) message office
      simp only
      split
      · exact within.trans submitted (ih _ _)
      · exact submitted

private theorem decode_moves (within : sink.WithinFrom session moves) (intake : Intake M)
    (buffer : List UInt8) (office : Sessions × D) :
    moves office.1 (intake.decode sink session buffer office).state.1 := by
  unfold Intake.decode
  split
  · exact within.still office.1
  · exact takeFrames_moves within intake 0 buffer office

/-- Reading keeps what a connection has to write, and moves sessions as its sink does. -/
theorem drain_moves (within : sink.WithinFrom session moves) (incoming : List Arrival)
    (reading : Reading M D) (own : reading.connection.session = session) :
    (reading.drain sink incoming).2.2.connection.session = session ∧
      (reading.drain sink incoming).2.2.connection.outbound = reading.connection.outbound ∧
      moves reading.office.1 (reading.drain sink incoming).2.2.office.1 := by
  have round (incoming : List Arrival) (reading : Reading M D)
      (own : reading.connection.session = session) :
      (reading.round sink incoming).2.2.connection.session = session ∧
      (reading.round sink incoming).2.2.connection.outbound = reading.connection.outbound ∧
      moves reading.office.1 (reading.round sink incoming).2.2.office.1 := by
    obtain ⟨got, case⟩ := Reading.round_cases sink incoming reading
    generalize (reading.round sink incoming).2.2 = next at case ⊢
    cases case with
    | idle stream connection office =>
      rw [connection, office]
      exact ⟨own, rfl, within.still _⟩
    | read stream decoded call connection office goesOn =>
      have decodes := decode_moves within reading.connection.intake
        (reading.connection.inbound ++ got) reading.office
      rw [own] at call
      rw [call] at decodes
      rw [connection, office]
      exact ⟨own, rfl, decodes⟩
  induction incoming, reading using Reading.drain_induction sink with
  | stop incoming reading pause stop =>
    rw [Reading.drain_of_stop stop]
    exact round incoming reading own
  | again incoming reading again ih =>
    obtain ⟨session, outbound, moved⟩ := round incoming reading own
    rw [Reading.drain_of_again again]
    obtain ⟨still, outboundOn, movedOn⟩ := ih session
    exact ⟨still, outboundOn.trans outbound, within.trans moved movedOn⟩

end Reads

/-! ## Speaking -/

/-- What can be done to sessions, with the messages that were accepted on the session `key`. -/
inductive Sessions.Spoken [Message M] (key : Nat) : Sessions → List M → Sessions → Prop where
  | none (sessions : Sessions) : Spoken key sessions [] sessions
  | send {early late : Sessions} {messages : List M} (spoken : Spoken key early messages late)
      (closed : Bool) (message : M) :
      Spoken key early
        (messages ++ Sessions.accepted message (late.sendUnder closed message key).1)
        (late.sendUnder closed message key).2
  | aside {early middle late : Sessions} {messages : List M}
      (spoken : Spoken key early messages middle) (aside : Sessions.Aside M key middle late) :
      Spoken key early messages late

private theorem Sessions.Spoken.trans [Message M] {key : Nat} {early middle late : Sessions}
    {messages more : List M} (first : Sessions.Spoken key early messages middle)
    (second : Sessions.Spoken key middle more late) :
    Sessions.Spoken key early (messages ++ more) late := by
  induction second with
  | none =>
    rw [List.append_nil]
    exact first
  | send spoken closed message ih =>
    rw [← List.append_assoc]
    exact ih.send closed message
  | aside spoken aside ih => exact ih.aside aside

/-- A sink that sends on the session `key` like anybody else, and takes nothing from it. -/
def Sink.Speaks [Message M] (sink : Sink M (Sessions × D)) (key : Nat) : Prop :=
  ∀ group task office, ∃ messages : List M,
    Sessions.Spoken key office.1 messages (sink.submit group task office).2.1

private theorem Sink.Speaks.within [Message M] {sink : Sink M (Sessions × D)} {key : Nat}
    (speaks : sink.Speaks key) :
    sink.Within fun early late => ∃ messages : List M,
      Sessions.Spoken key early messages late := by
  refine ⟨fun sessions => ⟨[], .none sessions⟩, ?_, speaks⟩
  rintro early middle late ⟨messages, first⟩ ⟨more, second⟩
  exact ⟨messages ++ more, first.trans second⟩

/-! ## Notifications -/

namespace Outlet

variable [Message M] {key : Nat} {source : Source} {start outlet next : Outlet M D}
  {messages : List M}

private theorem Run.quietly (run : Run key source start messages outlet)
    (step : Step key source outlet [] next) : Run key source start messages next := by
  have further := run.step step
  rwa [List.append_nil] at further

omit [Message M] in
private theorem withSocket_withSocket {premises : Premises D} {socket : Socket}
    (found : premises.network.sockets.get? source = some socket) (first second : Socket) :
    (premises.withSocket source first).withSocket source second =
      premises.withSocket source second := by
  have present : premises.network.sockets.contains source = true := by
    rw [Keyed.contains_eq_isSome, found]
    rfl
  have inserted : (premises.network.sockets.modify source fun _ => first) =
      premises.network.sockets.insert source first := by
    rw [Keyed.modify, found]
  have insertedToo : (premises.network.sockets.modify source fun _ => second) =
      premises.network.sockets.insert source second := by
    rw [Keyed.modify, found]
  have again : ((premises.network.sockets.insert source first).modify source fun _ => second) =
      premises.network.sockets.insert source second := by
    rw [Keyed.modify, Keyed.get?_insert, if_pos rfl]
    exact Keyed.insert_insert _ present first second
  unfold Premises.withSocket
  simp only [inserted, insertedToo, again]

/-- Attempts one after the other are part of a run. -/
theorem Run.attempts {connection : Connection M} {premises : Premises D}
    {found socket late : Socket} {outbound left : List UInt8}
    (here : premises.network.sockets.get? source = some found)
    (attempts : Socket.Attempts socket outbound left late)
    (run : Run key source start messages
      ⟨{ connection with outbound }, premises.withSocket source socket, true⟩) :
    Run key source start messages
      ⟨{ connection with outbound := left }, premises.withSocket source late, true⟩ := by
  induction attempts with
  | none => exact run
  | @attempt socket middle late outbound left rest first more ih =>
    refine ih ?_
    have attempted := run.quietly (.attempt _ _ (get?_withSocket here socket) first)
    rwa [withSocket_withSocket here] at attempted

/-- Flushing is a number of attempts and an end. -/
theorem Run.flushOut {event : Event (Endpoint M)} {connection : Connection M}
    {premises : Premises D} {socket : Socket}
    (here : premises.network.sockets.get? event.source = some socket)
    (run : Run key event.source start messages ⟨connection, premises, true⟩) :
    Run key event.source start messages
      ⟨(Service.flushOut event connection premises).connection,
        (Service.flushOut event connection premises).premises, false⟩ := by
  have looked : Run key event.source start messages
      ⟨connection, premises.withSocket event.source socket, true⟩ :=
    run.quietly (.elsewhere ⟨connection, premises, true⟩ rfl rfl rfl here
      (get?_withSocket here socket) rfl)
  have attempted := Run.attempts here (socket.flush_attempts connection.outbound) looked
  unfold Service.flushOut
  rw [here]
  simp only [Option.getD_some]
  split
  · exact attempted.quietly (.stop _ _)
  · exact attempted.quietly (.stop _ _)
  · exact attempted.quietly (.close event.handle _ _ true)

/-- **A notification of room is part of a run**, with nobody coming in between. -/
theorem Run.writable (service : Service M D) {event : Event (Endpoint M)}
    {connection : Connection M} {premises : Premises D} {socket : Socket}
    (here : premises.network.sockets.get? event.source = some socket)
    (run : Run key event.source start messages ⟨connection, premises, false⟩) :
    Run key event.source start messages
      ⟨(service.respond .writable event connection premises).connection,
        (service.respond .writable event connection premises).premises, false⟩ := by
  unfold Service.respond
  split
  · exact run
  · rename_i opened
    simp only [write_eq_flush_gather]
    exact Run.flushOut here (run.quietly (.gather connection premises (by simpa using opened)))

private theorem Run.spoken {connection : Connection M} {premises : Premises D} {writing : Bool}
    {sessions : Sessions} {more : List M}
    (run : Run key source start messages ⟨connection, premises, writing⟩)
    (spoken : Sessions.Spoken key premises.sessions more sessions) :
    Run key source start (messages ++ more)
      ⟨connection, { premises with sessions }, writing⟩ := by
  generalize begun : premises.sessions = early at spoken
  induction spoken with
  | none =>
    rw [List.append_nil, ← begun]
    exact run
  | send spoken closed message ih =>
    rw [← List.append_assoc]
    exact ih.step (.send _ closed message)
  | aside spoken aside ih => exact ih.quietly (.aside _ aside)

/-- Reading is what its sink says, and something that does not concern the outbound stream. -/
theorem Run.read {service : Service M D} (speaks : service.sink.Speaks key)
    {event : Event (Endpoint M)} {connection : Connection M} {premises : Premises D}
    {socket : Socket} (here : premises.network.sockets.get? event.source = some socket)
    (run : Run key event.source start messages ⟨connection, premises, false⟩) :
    ∃ more, Run key event.source start (messages ++ more)
      ⟨(service.read event connection premises).connection,
        (service.read event connection premises).premises, false⟩ := by
  obtain ⟨session, outbound, more, spoken⟩ := drain_moves (speaks.within.from connection.session)
    ((premises.network.sockets.get? event.source).getD {}).incoming
    { connection, office := (premises.sessions, premises.desk), shared := premises.shared,
      clock := premises.clock, scratch := (premises.pool.acquire service.makeBuffer).1 } rfl
  have said := run.spoken spoken
  have kept (incoming : List Arrival) : (premises.network.sockets.modify event.source
      fun socket => { socket with incoming }).get? event.source =
        some { socket with incoming } := by
    rw [Keyed.get?_modify, if_pos rfl, here]
    rfl
  refine ⟨more, ?_⟩
  unfold Service.read
  simp only
  split
  · exact said.quietly (.elsewhere _ session outbound rfl here (kept _) rfl)
  · exact said.quietly (.elsewhere _ session outbound rfl here (kept _) rfl)
  · refine Run.quietly ?_ (.close event.handle _ _ false)
    exact said.quietly (.elsewhere _ session outbound rfl here (kept _) rfl)

/-- **Any notification is part of a run**, with nobody coming in between. Being told of room
accepts nothing. -/
theorem Run.notified {service : Service M D} (speaks : service.sink.Speaks key) (notice : Notice)
    {event : Event (Endpoint M)} {connection : Connection M} {premises : Premises D}
    {socket : Socket} (here : premises.network.sockets.get? event.source = some socket)
    (run : Run key event.source start messages ⟨connection, premises, false⟩) :
    ∃ more, (notice = .writable → more = []) ∧
      Run key event.source start (messages ++ more)
        ⟨(service.respond notice event connection premises).connection,
          (service.respond notice event connection premises).premises, false⟩ := by
  have nothing : ∃ more, (notice = .writable → more = []) ∧
      Run key event.source start (messages ++ more) ⟨connection, premises, false⟩ :=
    ⟨[], fun _ => rfl, by rwa [List.append_nil]⟩
  cases notice with
  | writable =>
    refine ⟨[], fun _ => rfl, ?_⟩
    rw [List.append_nil]
    exact Run.writable service here run
  | readable =>
    unfold Service.respond
    split
    · exact nothing
    · simp only
      split
      · exact nothing
      · obtain ⟨more, said⟩ := Run.read speaks here run
        exact ⟨more, nofun, said⟩
  | timer =>
    unfold Service.respond
    split
    · exact nothing
    · have unthrottled : Run key event.source start messages
          ⟨{ connection with throttled := false }, premises, false⟩ :=
        run.quietly (.elsewhere _ rfl rfl rfl here here rfl)
      obtain ⟨more, said⟩ := Run.read speaks here unthrottled
      exact ⟨more, nofun, said⟩
  | accept =>
    unfold Service.respond
    split
    · exact nothing
    · exact nothing

omit [Message M] in
/-- A visitor who is admitted has a connection with nothing in its stream. -/
theorem welcome_carries (service : Service M D) (visitor : Visitor) {premises : Premises D}
    {socket : Socket} (room : service.isFull premises = false)
    (here : premises.sessions.loopGone = false)
    (found : premises.network.sockets.get? visitor.source = some socket)
    (unused : socket.sent = []) :
    ∃ event connection, (service.welcome visitor premises).1 = some (.add event .readable) ∧
      event.body = .connection connection ∧ event.source = visitor.source ∧
      Carries premises.sessions.opened visitor.source
        ⟨connection, (service.welcome visitor premises).2, false⟩ [] := by
  have begun : (premises.sessions.openSession
      (Session.attached premises.nextSession visitor.peer visitor.handle)).2.Holds
        premises.sessions.opened [] := by
    refine ⟨here, Nat.lt_succ_self _,
      Session.attached premises.nextSession visitor.peer visitor.handle, ?_, rfl⟩
    exact (premises.sessions.book.get?_insert premises.sessions.opened _ _).trans (if_pos rfl)
  have enlisted : ((premises.sessions.openSession
      (Session.attached premises.nextSession visitor.peer visitor.handle)).2.enlist
        premises.sessions.opened).Holds premises.sessions.opened [] := by
    unfold Sessions.enlist
    split
    · exact begun
    · exact ⟨begun.here, begun.numbered, begun.known⟩
  unfold Service.welcome
  rw [room]
  refine ⟨_, _, rfl, rfl, rfl, rfl, [], socket, enlisted, found, ?_⟩
  rw [unused]
  rfl

end Outlet

/-- **The outbound stream is exact.** Wherever a connection has come to and whatever has come in
between: what its socket has taken, followed by what the connection still has, followed by what
waits in its session, is the frames of the messages that were accepted for sending, one behind the
other in the order in which they came to the session. Any notification takes the connection on in
this way, and one of room does so without anything being accepted. -/
theorem outbound_stream_is_exact [Message M] {key : Nat} {source : Source}
    {start outlet : Outlet M D} {messages : List M} (fresh : start.Carries key source [])
    (run : Outlet.Run key source start messages outlet) :
    (∃ session socket, outlet.premises.sessions.get? key = some session ∧
      outlet.premises.network.sockets.get? source = some socket ∧
      socket.sent ++ outlet.connection.outbound ++ session.outbound = Frame.stream messages) ∧
    ∀ (service : Service M D) (notice : Notice) (event : Event (Endpoint M)),
      service.sink.Speaks key → event.source = source → outlet.writing = false →
        ∃ more, (notice = .writable → more = []) ∧
          Outlet.Run key source start (messages ++ more)
            ⟨(service.respond notice event outlet.connection outlet.premises).connection,
              (service.respond notice event outlet.connection outlet.premises).premises,
              false⟩ := by
  obtain ⟨_, queued, socket, holds, found, exact⟩ := run.carries fresh
  obtain ⟨session, known, rfl⟩ := holds.known
  refine ⟨⟨session, socket, known, found, exact⟩, ?_⟩
  intro service notice event speaks own resting
  subst own
  have rests : Outlet.Run key event.source start messages
      ⟨outlet.connection, outlet.premises, false⟩ := by
    rw [← resting]
    exact run
  exact rests.notified speaks notice found

/-- The socket of a visitor takes five bytes of a frame and then nothing for a while. Meanwhile
another message is accepted, and a third is not, as its sender has seen the session closed. All of
the second frame is behind all of the first. -/
theorem interrupted_frame_is_finished_first :
    let first : Trial.Telegram := .ping 1 3
    let second : Trial.Telegram := .ping 2 4
    let start : Outlet Trial.Telegram Unit :=
      { connection := { session := 0, intake := { catalogue := {}, forbidden := [] } }
        premises :=
          { sessions := (({} : Sessions).openSession
              (Session.attached 1 (.v4 127 0 0 1 40001) 7)).2.enlist 0
            desk := ()
            network :=
              { sockets := Keyed.ofFirst
                  [(1, { room := [.upTo 5, .interrupted, .upTo 30], ample := false })] }
            pool := Pool.full 1 fun _ => []
            nextSession := 2 } }
    start.Carries 0 1 [] ∧ ∃ outlet, Outlet.Run 0 1 start [first, second] outlet ∧
      outlet.connection.outbound.length = 5 ∧
      ∃ session socket, outlet.premises.sessions.get? 0 = some session ∧
        outlet.premises.network.sockets.get? 1 = some socket ∧
        socket.sent ++ outlet.connection.outbound ++ session.outbound =
          Frame.stream [first, second] := by
  intro first second start
  let service : Service Trial.Telegram Unit :=
    { settings := {}, catalogue := {}, sink := ⟨fun _ _ office => (.ok (), office)⟩ }
  let premises : Premises Unit :=
    { start.premises with sessions := {}, nextSession := 1 }
  have fresh : start.Carries 0 1 [] := by
    have room : service.isFull premises = false := rfl
    obtain ⟨event, connection, admitted, body, _, carries⟩ :=
      Outlet.welcome_carries service ⟨1, 7, .v4 127 0 0 1 40001⟩ room rfl rfl rfl
    cases admitted
    cases body
    exact carries
  have begun : Outlet.Run 0 1 start _ _ :=
    ((Outlet.Run.start.step (.send start false first)).quietly (.gather _ _ rfl)).quietly
      (.attempt _ _ rfl (.part 4 rfl))
  have meanwhile : Outlet.Run 0 1 start _ _ :=
    (begun.step (.send _ false second)).step (.send _ true second)
  have stopped : Outlet.Run 0 1 start _ _ :=
    (meanwhile.quietly (.attempt _ _ rfl (.interrupted rfl))).quietly (.stop _ _)
  have run : Outlet.Run 0 1 start _ _ :=
    (stopped.quietly (.gather _ _ rfl)).quietly (.attempt _ _ rfl (.part 29 rfl))
  exact ⟨fresh, _, run, by decide, (outbound_stream_is_exact fresh run).1⟩

end EventLoop
