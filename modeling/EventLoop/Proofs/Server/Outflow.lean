import EventLoop.Proofs.Frame.Streams
import EventLoop.Proofs.Server.Responses

/-! The way that frames take from those who send them to the far end. A frame is put
behind what waits in the session, the connection gathers from there, and the socket
takes as much at a time as it likes from what the connection has. Anybody may come in
between at any of these points. What the socket has taken, what the connection has and
what waits in the session, read one after the other, is the stream that was sent: a
step either moves bytes over one of the two borders without changing their order, or
puts one whole frame at the end. -/
namespace EventLoop

variable {M D : Type}

/-! ## Sockets -/

/-- One `write` in the loop of `Connection::on_writable`. It takes some of the bytes or all of
them, or none because it is interrupted or fails. A socket that would block does nothing at
all. -/
inductive Socket.Attempt (socket : Socket) (outbound : List UInt8) :
    List UInt8 → Socket → Prop where
  | part {rest : List Room} (bytes : Nat) (room : socket.room = .upTo (bytes + 1) :: rest) :
      Attempt socket outbound (outbound.drop (bytes + 1))
        { socket with room := rest, sent := socket.sent ++ outbound.take (bytes + 1) }
  | all (room : socket.room = []) (ample : socket.ample = true) :
      Attempt socket outbound [] { socket with sent := socket.sent ++ outbound }
  | interrupted {rest : List Room} (room : socket.room = .interrupted :: rest) :
      Attempt socket outbound outbound { socket with room := rest }
  | failed {rest : List Room}
      (room : socket.room = .failed :: rest ∨ socket.room = .upTo 0 :: rest) :
      Attempt socket outbound outbound { socket with room := rest }

/-- Attempts one after the other. -/
inductive Socket.Attempts : Socket → List UInt8 → List UInt8 → Socket → Prop where
  | none (socket : Socket) (outbound : List UInt8) : Attempts socket outbound outbound socket
  | attempt {socket middle late : Socket} {outbound left rest : List UInt8}
      (first : Attempt socket outbound left middle) (more : Attempts middle left rest late) :
      Attempts socket outbound rest late

/-- No attempt loses bytes or changes their order. -/
theorem Socket.Attempt.exact {socket late : Socket} {outbound left : List UInt8}
    (attempt : Socket.Attempt socket outbound left late) :
    late.sent ++ left = socket.sent ++ outbound := by
  cases attempt with
  | part bytes room => rw [List.append_assoc, List.take_append_drop]
  | all room ample => rw [List.append_nil]
  | interrupted room => rfl
  | failed room => rfl

/-- Writing as far as there is room is a number of attempts. -/
theorem Socket.flush_attempts (socket : Socket) (outbound : List UInt8) :
    Socket.Attempts socket outbound (socket.flush outbound).2.1 (socket.flush outbound).2.2 := by
  suffices goes : ∀ room sent, Socket.Attempts { socket with room, sent } outbound
      (Socket.flush.go socket room outbound sent).2.1
      (Socket.flush.go socket room outbound sent).2.2 from goes socket.room socket.sent
  intro room sent
  fun_induction Socket.flush.go socket room outbound sent with
  | case1 room sent => exact .none _ _
  | case2 outbound sent some ample => exact .attempt (.all rfl ample) (.none _ _)
  | case3 outbound sent some scarce => exact .none _ _
  | case4 rest outbound sent some ih => exact .attempt (.interrupted rfl) ih
  | case5 rest outbound sent some => exact .attempt (.failed (.inl rfl)) (.none _ _)
  | case6 rest outbound sent some => exact .attempt (.failed (.inr rfl)) (.none _ _)
  | case7 => rename_i ih; exact .attempt (.part _ rfl) ih

/-! ## Sessions -/

namespace Sessions

/-- The message of a send, if the send was accepted. -/
def accepted {M : Type} (message : M) : Except Fault Unit → List M
  | .ok () => [message]
  | .error _ => []

/-- Sends on a session for somebody who has looked before whether it is closed. -/
def sendUnder [Message M] (closed : Bool) (message : M) (key : Nat) (sessions : Sessions) :
    Except Fault Unit × Sessions :=
  match sessions.get? key with
  | none => (.error (.io .notConnected), sessions)
  | some session =>
    let (outcome, written, asked) :=
      { session with closed }.send message sessions.loopGone
    (outcome, sessions.record key { written with closed := session.closed } asked)

/-- Sending is looking and writing with nobody coming in between. -/
theorem send_eq_sendUnder [Message M] {key : Nat} {session : Session} {sessions : Sessions}
    (known : sessions.get? key = some session) (message : M) :
    sessions.send message key = sessions.sendUnder session.closed message key := by
  have closed : (session.send message sessions.loopGone).2.1.closed = session.closed := by
    unfold Session.send
    split
    · rfl
    · simp only
      split
      · rfl
      · split <;> rfl
  have kept : { (session.send message sessions.loopGone).2.1 with closed := session.closed } =
      (session.send message sessions.loopGone).2.1 := by rw [← closed]
  unfold send sendUnder
  rw [known]
  exact congrArg (fun written => ((session.send message sessions.loopGone).1,
    sessions.record key written (session.send message sessions.loopGone).2.2)) kept.symm

/-- What anybody may do to sessions that neither sends on the session `key` nor takes from it. -/
inductive Aside (M : Type) [Message M] (key : Nat) : Sessions → Sessions → Prop where
  | send (message : M) {other : Nat} (apart : other ≠ key) (sessions : Sessions) :
      Aside M key sessions (sessions.send message other).2
  | take {other : Nat} (apart : other ≠ key) (sessions : Sessions) :
      Aside M key sessions (sessions.takeOutbound other).2
  | close (any : Nat) (sessions : Sessions) : Aside M key sessions (sessions.close any)
  | markClosed (any : Nat) (sessions : Sessions) : Aside M key sessions (sessions.markClosed any)
  | open (session : Session) (sessions : Sessions) :
      Aside M key sessions (sessions.openSession session).2
  | enroll (roster : Keyed UInt64 Nat) (sessions : Sessions) :
      Aside M key sessions { sessions with roster }
  | ask (pleas : List Plea) (sessions : Sessions) : Aside M key sessions { sessions with pleas }

/-- A session that can be sent on while its loop is there, and the bytes that wait in it. -/
structure Holds (sessions : Sessions) (key : Nat) (queued : List UInt8) : Prop where
  here : sessions.loopGone = false
  numbered : key < sessions.opened
  known : ∃ session, sessions.get? key = some session ∧ session.outbound = queued

/-- Writing back another session, or this one with the bytes that wait in it. -/
theorem Holds.record {sessions : Sessions} {key other : Nat} {session : Session}
    {asked : List Plea} {before queued : List UInt8} (holds : sessions.Holds key before)
    (waits : other = key → session.outbound = queued) (same : other ≠ key → before = queued) :
    (sessions.record other session asked).Holds key queued := by
  refine ⟨holds.here, holds.numbered, ?_⟩
  rw [get?_record]
  by_cases own : key = other
  · rw [if_pos own]
    exact ⟨session, rfl, waits own.symm⟩
  · obtain ⟨resident, known, outbound⟩ := holds.known
    rw [if_neg own]
    exact ⟨resident, known, outbound.trans (same (Ne.symm own))⟩

/-- What goes on aside leaves what waits in a session alone. -/
theorem Holds.aside [Message M] {early late : Sessions} {key : Nat} {queued : List UInt8}
    (holds : early.Holds key queued) (aside : Aside M key early late) :
    late.Holds key queued := by
  obtain ⟨here, numbered, session, known, outbound⟩ := id holds
  cases aside with
  | @send message other apart =>
    unfold send
    split
    · exact holds
    · exact holds.record (fun same => absurd same apart) fun _ => rfl
  | @take other apart =>
    unfold takeOutbound
    split
    · exact holds
    · exact holds.record (fun same => absurd same apart) fun _ => rfl
  | close any =>
    unfold close
    split
    · exact holds
    · rename_i resident found
      have kept : (resident.close early.loopGone).1.outbound = resident.outbound := by
        unfold Session.close
        split <;> rfl
      refine holds.record (fun same => kept.trans ?_) fun _ => rfl
      subst same
      rw [Option.some.inj (found.symm.trans known)]
      exact outbound
  | markClosed any =>
    unfold markClosed
    split
    · exact holds
    · rename_i found
      refine holds.record (fun same => ?_) fun _ => rfl
      subst same
      rw [Option.some.inj (found.symm.trans known)]
      exact outbound
  | «open» opened =>
    refine ⟨here, Nat.lt_succ_of_lt numbered, session, ?_, outbound⟩
    have inserted := early.book.get?_insert early.opened key opened
    rw [if_neg (Nat.ne_of_lt numbered)] at inserted
    exact inserted.trans known
  | enroll roster => exact ⟨here, numbered, session, known, outbound⟩
  | ask pleas => exact ⟨here, numbered, session, known, outbound⟩

/-- A send that is accepted puts its frame behind what waits, and one that is not puts nothing
there. -/
theorem Holds.sendUnder [Message M] {sessions : Sessions} {key : Nat} {queued : List UInt8}
    (holds : sessions.Holds key queued) (closed : Bool) (message : M) :
    (sessions.sendUnder closed message key).2.Holds key
      (match (sessions.sendUnder closed message key).1 with
        | .ok () => Frame.encode queued message
        | .error _ => queued) := by
  obtain ⟨here, numbered, session, known, outbound⟩ := id holds
  unfold Sessions.sendUnder
  rw [known]
  simp only [Session.send, here]
  cases closed with
  | true => exact holds.record (fun _ => outbound) fun _ => rfl
  | false =>
    simp only [Bool.false_eq_true, ↓reduceIte]
    cases session.link with
    | none => exact holds.record (fun _ => by rw [← outbound]) fun other => absurd rfl other
    | some handle => exact holds.record (fun _ => by rw [← outbound]) fun other => absurd rfl other

end Sessions

/-! ## Outlets -/

/-- A connection on its premises. It may be in the middle of `Connection::on_writable`. -/
structure Outlet (M D : Type) where
  connection : Connection M
  premises : Premises D
  writing : Bool := false

/-- Premises in which a socket is another. -/
def Premises.withSocket (source : Source) (socket : Socket) (premises : Premises D) :
    Premises D :=
  { premises with network := { premises.network with
      sockets := premises.network.sockets.modify source fun _ => socket } }

namespace Outlet

variable [Message M]

/-- One step of a connection that writes what is sent on session `key` to the socket
`source`, or of somebody else, with the message that was accepted for sending, if there
was one. -/
inductive Step (key : Nat) (source : Source) : Outlet M D → List M → Outlet M D → Prop where
  /-- Somebody sends on the session. Whether it is closed was looked at some time ago. -/
  | send (outlet : Outlet M D) (closed : Bool) (message : M) :
      Step key source outlet
        (Sessions.accepted message (outlet.premises.sessions.sendUnder closed message key).1)
        { outlet with premises := { outlet.premises with
            sessions := (outlet.premises.sessions.sendUnder closed message key).2 } }
  /-- Somebody does something else with sessions. -/
  | aside (outlet : Outlet M D) {sessions : Sessions}
      (aside : Sessions.Aside M key outlet.premises.sessions sessions) :
      Step key source outlet [] { outlet with premises := { outlet.premises with sessions } }
  /-- The connection is told of room, and gathers what waits in its session. -/
  | gather (connection : Connection M) (premises : Premises D)
      (opened : connection.closing = false) :
      Step key source ⟨connection, premises, false⟩ []
        ⟨(Service.gather connection premises).1, (Service.gather connection premises).2, true⟩
  /-- It attempts to write what it has. -/
  | attempt (connection : Connection M) (premises : Premises D) {socket late : Socket}
      {left : List UInt8} (found : premises.network.sockets.get? source = some socket)
      (attempt : Socket.Attempt socket connection.outbound left late) :
      Step key source ⟨connection, premises, true⟩ []
        ⟨{ connection with outbound := left }, premises.withSocket source late, true⟩
  /-- It has written all it had, or as much as there was room for. -/
  | stop (connection : Connection M) (premises : Premises D) :
      Step key source ⟨connection, premises, true⟩ [] ⟨connection, premises, false⟩
  /-- The connection ends. -/
  | close (handle : Handle) (connection : Connection M) (premises : Premises D)
      (writing : Bool) :
      Step key source ⟨connection, premises, writing⟩ []
        ⟨(Service.close handle { connection, premises }).connection,
          (Service.close handle { connection, premises }).premises, false⟩
  /-- The connection does something else, and the world around changes, the sessions apart: there
      may be more or less room at the socket, but what it has taken stays taken. -/
  | elsewhere (outlet : Outlet M D) {connection : Connection M} {premises : Premises D}
      {socket late : Socket} (session : connection.session = outlet.connection.session)
      (outbound : connection.outbound = outlet.connection.outbound)
      (sessions : premises.sessions = outlet.premises.sessions)
      (before : outlet.premises.network.sockets.get? source = some socket)
      (after : premises.network.sockets.get? source = some late) (sent : late.sent = socket.sent) :
      Step key source outlet [] { outlet with connection, premises }

/-- Any number of steps in any order, with the messages that were accepted for sending, in the
order in which they came to the session. -/
inductive Run (key : Nat) (source : Source) (start : Outlet M D) : List M → Outlet M D → Prop where
  | start : Run key source start [] start
  | step {messages more : List M} {outlet next : Outlet M D}
      (run : Run key source start messages outlet) (step : Step key source outlet more next) :
      Run key source start (messages ++ more) next

/-- What the three parts come to. -/
structure Carries (key : Nat) (source : Source) (outlet : Outlet M D) (bytes : List UInt8) :
    Prop where
  session : outlet.connection.session = key
  parts : ∃ queued socket, outlet.premises.sessions.Holds key queued ∧
    outlet.premises.network.sockets.get? source = some socket ∧
    socket.sent ++ outlet.connection.outbound ++ queued = bytes

variable {key : Nat} {source : Source} {start outlet next : Outlet M D} {messages more : List M}

omit [Message M] in
/-- Where the sessions and the socket are as they were. -/
theorem Carries.still {bytes : List UInt8} (carries : outlet.Carries key source bytes)
    (session : next.connection.session = outlet.connection.session)
    (outbound : next.connection.outbound = outlet.connection.outbound)
    (holds : ∀ queued, outlet.premises.sessions.Holds key queued →
      next.premises.sessions.Holds key queued)
    (socket : ∀ socket, outlet.premises.network.sockets.get? source = some socket →
      ∃ late, next.premises.network.sockets.get? source = some late ∧ late.sent = socket.sent) :
    next.Carries key source bytes := by
  obtain ⟨queued, here, waits, found, exact⟩ := carries.parts
  obtain ⟨late, foundLate, sent⟩ := socket here found
  refine ⟨session.trans carries.session, queued, late, holds queued waits, foundLate, ?_⟩
  rw [sent, outbound]
  exact exact

omit [Message M] in
/-- What waits in the session goes over to the connection. -/
theorem Carries.gather {connection : Connection M} {premises : Premises D} {writing : Bool}
    {bytes : List UInt8} (carries : Carries key source ⟨connection, premises, writing⟩ bytes) :
    Carries key source
      ⟨(Service.gather connection premises).1, (Service.gather connection premises).2, true⟩
      bytes := by
  obtain ⟨own, queued, socket, holds, found, exact⟩ := carries
  obtain ⟨session, known, waits⟩ := holds.known
  have taken : premises.sessions.takeOutbound connection.session =
      (queued, premises.sessions.record key { session with outbound := [] } []) := by
    rw [own, Sessions.takeOutbound, known, ← waits]
    rfl
  unfold Service.gather
  rw [taken]
  refine ⟨own, [], socket, holds.record (fun _ => rfl) fun other => absurd rfl other, found, ?_⟩
  rw [← exact, List.append_nil, List.append_assoc]

omit [Message M] in
theorem get?_withSocket {premises : Premises D} {found : Socket}
    (here : premises.network.sockets.get? source = some found) (socket : Socket) :
    (premises.withSocket source socket).network.sockets.get? source = some socket := by
  refine (premises.network.sockets.get?_modify source source fun _ => socket).trans ?_
  rw [if_pos rfl, here]
  rfl

/-- **A step carries the stream on**: what was carried stays as it is, and a message that was
accepted is put behind it. -/
theorem Step.carries {bytes : List UInt8} (step : Step key source outlet messages next)
    (carries : outlet.Carries key source bytes) :
    next.Carries key source (bytes ++ Frame.stream messages) := by
  have nothing : bytes ++ Frame.stream ([] : List M) = bytes := List.append_nil bytes
  cases step with
  | send outlet closed message =>
    obtain ⟨queued, socket, holds, found, exact⟩ := carries.parts
    have sent := holds.sendUnder closed message
    refine ⟨carries.session, _, socket, sent, found, ?_⟩
    rw [← exact]
    cases (outlet.premises.sessions.sendUnder closed message key).1 with
    | ok _ =>
      have frame : Frame.stream [message] =
          Frame.bytes (Message.type message) (Message.payload message) := List.nil_append _
      simp only [Sessions.accepted, Frame.encode, frame, List.append_assoc]
    | error fault => exact (List.append_nil _).symm
  | aside outlet aside =>
    rw [nothing]
    exact carries.still rfl rfl (fun queued holds => holds.aside aside)
      fun socket found => ⟨socket, found, rfl⟩
  | gather connection premises opened =>
    rw [nothing]
    exact carries.gather
  | @attempt connection premises socket late left found attempt =>
    rw [nothing]
    obtain ⟨own, queued, here, holds, foundHere, exact⟩ := carries
    have same : here = socket := Option.some.inj (foundHere.symm.trans found)
    refine ⟨own, queued, late, holds, get?_withSocket found late, ?_⟩
    rw [attempt.exact, ← same]
    exact exact
  | stop connection premises =>
    rw [nothing]
    exact carries.still rfl rfl (fun queued holds => holds)
      fun socket found => ⟨socket, found, rfl⟩
  | close handle connection premises writing =>
    rw [nothing]
    unfold Service.close
    split
    · exact carries.still rfl rfl (fun queued holds => holds)
        fun socket found => ⟨socket, found, rfl⟩
    · have closes : Sessions.Aside M key premises.sessions
          (premises.sessions.markClosed connection.session) := .markClosed _ _
      exact carries.still rfl rfl (fun queued holds => holds.aside closes)
        fun socket found => ⟨socket, found, rfl⟩
  | @elsewhere outlet connection premises socket late session outbound sessions before after sent =>
    rw [nothing]
    refine carries.still session outbound (fun queued holds => ?_) ?_
    · simp only [sessions]
      exact holds
    · intro here found
      have same : here = socket := Option.some.inj (found.symm.trans before)
      exact ⟨late, after, sent.trans (congrArg Socket.sent same.symm)⟩

/-- A run carries on what was carried, and puts the frames of all accepted messages behind it. -/
theorem Run.carries {bytes : List UInt8} (run : Run key source start messages outlet)
    (carries : start.Carries key source bytes) :
    outlet.Carries key source (bytes ++ Frame.stream messages) := by
  induction run with
  | start =>
    rw [Frame.stream, List.foldl_nil, List.append_nil]
    exact carries
  | @step messages more outlet next run step ih =>
    have further := step.carries ih
    rwa [List.append_assoc, ← Frame.stream_append] at further

end Outlet

end EventLoop
