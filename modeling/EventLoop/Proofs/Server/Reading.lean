import EventLoop.Proofs.Server.Rounds
import EventLoop.Trial.Telegram

/-! What a connection reads is what its intake decodes. Reading is cut by the
length of the borrowed buffer, by two buckets, by pauses and by what the socket
gives, and none of it shows: at rest and in the middle of reading, the tasks
submitted and the bytes kept back are those of one call of a fresh intake on all
the bytes read so far. Between notifications the others may do what they like to
all that the connection shares with them. -/
namespace EventLoop

variable {M D : Type}

/-! ## The life of a connection -/

/-- A moment between two calls of `Connection::handle_event`: what the
connection is, the premises it works on, and the bytes read from its socket so
far. -/
structure Moment (M D : Type) where
  connection : Connection M
  premises : Premises D
  read : List UInt8 := []

/-- Whether a notification makes a connection read. -/
def Connection.reads (notice : Notice) (connection : Connection M) : Bool :=
  !connection.closing && (notice == .timer || notice == .readable && !connection.throttled)

/-- The reading that a notification starts. -/
def Service.beginReading (service : Service M D) (connection : Connection M)
    (premises : Premises D) : Reading M D where
  connection := { connection with throttled := false }
  office := (premises.sessions, premises.desk)
  shared := premises.shared
  clock := premises.clock
  scratch := (premises.pool.acquire service.makeBuffer).1

section Life

variable [Message M]

/-- The moment after a notification. -/
def Moment.notified (service : Service M D) (event : Event (Endpoint M)) (notice : Notice)
    (moment : Moment M D) : Moment M D :=
  let response := service.respond notice event moment.connection moment.premises
  { connection := response.connection
    premises := response.premises
    read := moment.read ++ Arrival.consumed (moment.premises.incoming event.source)
      (response.premises.incoming event.source) }

/-- The moments that can follow one another. Between two notifications the
others do to the premises what they like, as long as they hand in nothing in the
name of this session: they read and write, take tokens, leave anything in the
pooled buffers, let time pass, and let anything arrive at the socket. -/
inductive Onward (service : Service M D) (event : Event (Endpoint M)) (session : Nat)
    (early : Moment M (D × List (Handed M))) : Moment M (D × List (Handed M)) → Prop where
  | here : Onward service event session early early
  | meanwhile {late : Moment M (D × List (Handed M))}
      (onward : Onward service event session early late)
      (others : Premises (D × List (Handed M)))
      (same : handedFrom session others.desk = handedFrom session late.premises.desk) :
      Onward service event session early { late with premises := others }
  | notified {late : Moment M (D × List (Handed M))}
      (onward : Onward service event session early late) (notice : Notice) :
      Onward service event session early (late.notified service.recorded event notice)

/-- The moment at which a connection has just been made for a visitor. -/
structure Moment.Opened (service : Service M D) (event : Event (Endpoint M)) (session : Nat)
    (moment : Moment M (D × List (Handed M))) : Prop where
  admitted : ∃ visitor id bucket, event = service.connect visitor session id bucket
  body : event.body = .connection moment.connection
  read : moment.read = []
  unknown : handedFrom session moment.premises.desk = []

/-- The moments between two rounds of the reading that a notification starts:
where reading has come to, what is left at the socket, and the bytes read since
it began. -/
inductive Amid (service : Service M D) (event : Event (Endpoint M)) (start : Moment M D) :
    Reading M D → List Arrival → List UInt8 → Prop where
  | begun : Amid service event start (service.beginReading start.connection start.premises)
      (start.premises.incoming event.source) []
  | round {reading : Reading M D} {incoming : List Arrival} {got : List UInt8}
      (amid : Amid service event start reading incoming got)
      (again : (reading.round service.sink incoming).1 = none) :
      Amid service event start (reading.round service.sink incoming).2.2
        (reading.round service.sink incoming).2.1
        (got ++ Arrival.consumed incoming (reading.round service.sink incoming).2.1)

/-- The next read meets the end of the stream, a failure, or bytes that the
intake will not have. -/
def Reading.MeetsEnd (sink : Sink M (Sessions × D)) (incoming : List Arrival)
    (reading : Reading M D) : Prop :=
  reading.budget.1 ≠ 0 ∧
    match incoming with
    | .failed :: _ => True
    | .bytes [] :: _ => True
    | .bytes chunk :: _ =>
      (reading.connection.intake.decode sink reading.connection.session
        (reading.connection.inbound ++ chunk.take reading.budget.1)
        reading.office).outcome.isOk = false
    | _ => False

/-! ## What one notification does -/

private theorem respond_closing (service : Service M D) (notice : Notice)
    (event : Event (Endpoint M))
    {connection : Connection M} (premises : Premises D) (closing : connection.closing = true) :
    service.respond notice event connection premises = { connection, premises } := by
  unfold Service.respond
  rw [if_pos closing]

theorem respond_reads (service : Service M D) {notice : Notice} (event : Event (Endpoint M))
    {connection : Connection M} (premises : Premises D) (reads : connection.reads notice = true) :
    service.respond notice event connection premises =
      service.read event { connection with throttled := false } premises := by
  obtain ⟨session, intake, inbound, outbound, bucket, throttled, closing⟩ := connection
  cases closing with
  | true => cases reads
  | false =>
    cases notice with
    | timer => rfl
    | readable =>
      cases throttled with
      | true => cases reads
      | false => rfl
    | writable => cases reads
    | accept => cases reads

end Life

private theorem flush_incoming (socket : Socket) (outbound : List UInt8) :
    (socket.flush outbound).2.2.incoming = socket.incoming := by
  unfold Socket.flush
  generalize socket.room = room
  generalize socket.sent = sent
  fun_induction Socket.flush.go socket room outbound sent with
  | case1 => rfl
  | case2 => rfl
  | case3 => rfl
  | case4 _ _ _ _ ih => exact ih
  | case5 => rfl
  | case6 => rfl
  | case7 _ _ _ _ _ ih => exact ih

/-- Closing touches only the mark of a connection and its session. -/
private theorem close_keeps (handle : Handle) (response : Service.Response M D) :
    (Service.close handle response).connection =
        { response.connection with
          closing := (Service.close handle response).connection.closing } ∧
      (Service.close handle response).connection.closing = true ∧
      (Service.close handle response).premises.desk = response.premises.desk ∧
      (Service.close handle response).premises.network = response.premises.network := by
  unfold Service.close
  split
  · rename_i closing
    exact ⟨rfl, closing, rfl, rfl⟩
  · exact ⟨rfl, rfl, rfl, rfl⟩

/-- Writing leaves alone whatever has to do with reading. -/
theorem write_keeps (event : Event (Endpoint M)) (connection : Connection M)
    (premises : Premises D) :
    (Service.write event connection premises).connection =
        { connection with
          outbound := (Service.write event connection premises).connection.outbound
          closing := (Service.write event connection premises).connection.closing } ∧
      (Service.write event connection premises).premises.desk = premises.desk ∧
      (Service.write event connection premises).premises.incoming event.source =
        premises.incoming event.source := by
  have untouched : ∀ outbound,
      ((premises.network.sockets.modify event.source fun _ =>
        (((premises.network.sockets.get? event.source).getD {}).flush outbound).2.2).get?
          event.source |>.getD {}).incoming = premises.incoming event.source := by
    intro outbound
    rw [Keyed.get?_modify, if_pos rfl, Premises.incoming]
    cases premises.network.sockets.get? event.source with
    | none => rfl
    | some socket => exact flush_incoming socket outbound
  have here := untouched (connection.outbound ++
    (premises.sessions.takeOutbound connection.session).1)
  unfold Service.write
  simp only
  split
  · exact ⟨rfl, rfl, here⟩
  · exact ⟨rfl, rfl, here⟩
  · obtain ⟨connection, _, desk, network⟩ := close_keeps event.handle (M := M) (D := D) _
    refine ⟨?_, desk, ?_⟩
    · rw [connection]
    · rw [Premises.incoming, network]
      exact here

section Life

variable [Message M]

theorem respond_still (service : Service M D) {notice : Notice} (event : Event (Endpoint M))
    {connection : Connection M} (premises : Premises D) (still : connection.reads notice = false) :
    let response := service.respond notice event connection premises
    response.connection =
        { connection with
          outbound := response.connection.outbound
          closing := response.connection.closing } ∧
      response.premises.desk = premises.desk ∧
      response.premises.incoming event.source = premises.incoming event.source := by
  cases closing : connection.closing with
  | true =>
    rw [respond_closing service notice event premises closing]
    exact ⟨rfl, rfl, rfl⟩
  | false =>
    cases notice with
    | writable =>
      have same : service.respond .writable event connection premises =
          Service.write event connection premises := by
        simp [Service.respond, closing]
      rw [same]
      exact write_keeps event connection premises
    | accept =>
      have same : service.respond .accept event connection premises = { connection, premises } := by
        simp [Service.respond, closing]
      rw [same]
      exact ⟨rfl, rfl, rfl⟩
    | timer => simp [Connection.reads, closing] at still
    | readable =>
      have throttled : connection.throttled = true := by
        simpa [Connection.reads, closing] using still
      have same : service.respond .readable event connection premises =
          { connection, premises } := by
        simp [Service.respond, closing, throttled]
      rw [same]
      exact ⟨rfl, rfl, rfl⟩

private theorem drain_nothing (sink : Sink M (Sessions × D)) (reading : Reading M D) :
    (reading.drain sink []).2.1 = [] := by
  rw [Reading.drain_eq_round, Reading.round]
  simp only
  split <;> rename_i same <;> split at same <;> cases same <;> rfl

/-- A notification that makes a connection read does what `drain` does, and ends
the connection if that is how reading stopped. -/
theorem respond_drains (service : Service M D) {notice : Notice} (event : Event (Endpoint M))
    {connection : Connection M} (premises : Premises D) (reads : connection.reads notice = true) :
    let response := service.respond notice event connection premises
    let done := (service.beginReading connection premises).drain service.sink
      (premises.incoming event.source)
    response.connection =
        { done.2.2.connection with
          throttled := response.connection.throttled
          closing := response.connection.closing } ∧
      (done.1 = .ended → response.connection.closing = true) ∧
      response.premises.desk = done.2.2.office.2 ∧
      response.premises.incoming event.source = done.2.1 := by
  have left : (((premises.network.sockets.modify event.source fun socket =>
      { socket with incoming := ((service.beginReading connection premises).drain service.sink
          (premises.incoming event.source)).2.1 }).get? event.source).getD {}).incoming =
      ((service.beginReading connection premises).drain service.sink
        (premises.incoming event.source)).2.1 := by
    rw [Keyed.get?_modify, if_pos rfl]
    cases absent : premises.network.sockets.get? event.source with
    | some socket => rfl
    | none =>
      have nothing : premises.incoming event.source = [] := by rw [Premises.incoming, absent]; rfl
      rw [nothing, drain_nothing]
      rfl
  rw [respond_reads service event premises reads]
  unfold Service.read
  simp only
  split
  · rename_i drained
    refine ⟨rfl, fun ended => ?_, rfl, left⟩
    cases drained.symm.trans ended
  · rename_i throttled
    refine ⟨rfl, fun ended => ?_, rfl, left⟩
    cases throttled.symm.trans ended
  · obtain ⟨connection, closing, desk, network⟩ := close_keeps event.handle (M := M) (D := D) _
    refine ⟨?_, fun _ => closing, desk, ?_⟩
    · rw [connection]
      rfl
    · rw [Premises.incoming, network]
      exact left

/-! ## The invariant between notifications -/

/-- A connection tracks its stream, and while it is not closing no decoding has
failed. -/
structure InStep (service : Service M D)
    (answer : List (Handed M) → UInt64 → Errand M → Except Fault Unit) (session : Nat)
    (moment : Moment M (D × List (Handed M))) : Prop where
  tracks : Tracks session moment.connection (handedFrom session moment.premises.desk)
    (service.decodeAll answer session moment.read)
  fine : moment.connection.closing = false →
    (service.decodeAll answer session moment.read).outcome.isOk = true

variable {service : Service M D} {event : Event (Endpoint M)} {session : Nat}
  {answer : List (Handed M) → UInt64 → Errand M → Except Fault Unit}
  {early moment late : Moment M (D × List (Handed M))}

private theorem notified_grows (service : Service M D) (event : Event (Endpoint M))
    (notice : Notice) (own : moment.connection.session = session) :
    handedFrom session moment.premises.desk <+:
        handedFrom session (moment.notified service.recorded event notice).premises.desk ∧
      (moment.notified service.recorded event notice).connection.session = session := by
  rw [Moment.notified]
  cases reads : moment.connection.reads notice with
  | false =>
    obtain ⟨connection, desk, _⟩ :=
      respond_still service.recorded event moment.premises reads
    simp only
    rw [connection, desk]
    exact ⟨List.prefix_rfl, own⟩
  | true =>
    obtain ⟨connection, _, desk, _⟩ :=
      respond_drains service.recorded event moment.premises reads
    obtain ⟨longer, ownLast, _⟩ := drain_grows service (moment.premises.incoming event.source)
      (service.recorded.beginReading moment.connection moment.premises) own
    simp only
    rw [connection, desk]
    exact ⟨longer, ownLast⟩

private theorem Onward.grows (onward : Onward service event session early late)
    (own : early.connection.session = session) :
    handedFrom session early.premises.desk <+: handedFrom session late.premises.desk ∧
      late.connection.session = session := by
  induction onward with
  | here => exact ⟨List.prefix_rfl, own⟩
  | meanwhile onward others same ih =>
    simp only
    rw [same]
    exact ih
  | notified onward notice ih =>
    obtain ⟨longer, ownLast⟩ := notified_grows service event notice ih.2
    exact ⟨ih.1.trans longer, ownLast⟩

omit [Message M] in
theorem reads_open {notice : Notice} {connection : Connection M}
    (reads : connection.reads notice = true) : connection.closing = false := by
  cases closing : connection.closing with
  | false => rfl
  | true => simp [Connection.reads, closing] at reads

private theorem InStep.notified (inStep : InStep service answer session moment) (notice : Notice)
    (answered : AnsweredBy answer (handedFrom session
      (moment.notified service.recorded event notice).premises.desk)) :
    InStep service answer session (moment.notified service.recorded event notice) := by
  rw [Moment.notified] at answered ⊢
  cases reads : moment.connection.reads notice with
  | false =>
    obtain ⟨connection, desk, incoming⟩ :=
      respond_still service.recorded event moment.premises reads
    have tracks := inStep.tracks
    rw [incoming, Arrival.consumed_self, List.append_nil]
    refine ⟨?_, fun opened => inStep.fine ?_⟩
    · rw [connection, desk]
      exact ⟨⟨tracks.handed, tracks.inbound⟩, tracks.session, tracks.intake⟩
    · cases closing : moment.connection.closing with
      | false => rfl
      | true =>
        rw [respond_closing service.recorded notice event moment.premises closing,
          closing] at opened
        exact opened
  | true =>
    obtain ⟨connection, ended, desk, incoming⟩ :=
      respond_drains service.recorded event moment.premises reads
    have start : Tracks session
        (service.recorded.beginReading moment.connection moment.premises).connection
        (handedFrom session moment.premises.desk)
        (service.decodeAll answer session moment.read) :=
      ⟨⟨inStep.tracks.handed, inStep.tracks.inbound⟩, inStep.tracks.session, inStep.tracks.intake⟩
    simp only at answered
    rw [desk] at answered
    obtain ⟨tracks, lasting⟩ := Tracks.drain (moment.premises.incoming event.source)
      (service.recorded.beginReading moment.connection moment.premises) answered start
      (inStep.fine (reads_open reads))
    rw [incoming]
    refine ⟨?_, fun opened => lasting ?_⟩
    · rw [connection, desk]
      exact ⟨⟨tracks.handed, tracks.inbound⟩, tracks.session, tracks.intake⟩
    · intro stopped
      rw [ended stopped] at opened
      cases opened

private theorem Moment.Opened.inStep (opened : Moment.Opened service event session early) :
    InStep service answer session early := by
  obtain ⟨⟨visitor, id, bucket, admitted⟩, body, read, unknown⟩ := opened
  have nothing : service.decodeAll answer session [] = ⟨.ok 0, [], service.intake, []⟩ :=
    Intake.takeFrames_partial rfl
  have made : early.connection = { session, intake := service.intake, bucket } :=
    Endpoint.connection.inj (body.symm.trans (congrArg Event.body admitted))
  constructor
  · rw [read, nothing, unknown, made]
    exact ⟨⟨rfl, rfl⟩, rfl, rfl⟩
  · intro _
    rw [read, nothing]
    rfl

private theorem Onward.inStep (onward : Onward service event session early late)
    (start : InStep service answer session early)
    (answered : AnsweredBy answer (handedFrom session late.premises.desk)) :
    InStep service answer session late := by
  induction onward with
  | here => exact start
  | meanwhile onward others same ih =>
    simp only at answered
    rw [same] at answered
    obtain ⟨tracks, fine⟩ := ih answered
    refine ⟨?_, fine⟩
    simp only
    rw [same]
    exact tracks
  | notified onward notice ih =>
    have own := (onward.grows start.tracks.session).2
    exact (ih (answered.of_prefix (notified_grows service event notice own).1)).notified notice
      answered

private theorem Amid.keeps_session {reading : Reading M (D × List (Handed M))}
    {incoming : List Arrival}
    {got : List UInt8} (amid : Amid service.recorded event moment reading incoming got)
    (own : moment.connection.session = session) : reading.connection.session = session := by
  induction amid with
  | begun => exact own
  | round amid again ih =>
    rename_i reading incoming got
    obtain ⟨further, case⟩ := Reading.round_cases service.recorded.sink incoming reading
    exact (case.grows ih).2.2

/-- Reading goes on from any moment in its middle to the same end. -/
theorem Amid.drain {service : Service M D} {start : Moment M D} {reading : Reading M D}
    {incoming : List Arrival} {got : List UInt8}
    (amid : Amid service event start reading incoming got) :
    (service.beginReading start.connection start.premises).drain service.sink
        (start.premises.incoming event.source) = reading.drain service.sink incoming := by
  induction amid with
  | begun => rfl
  | round amid again ih => rw [ih, Reading.drain_of_again again]

private theorem Reading.MeetsEnd.round {sink : Sink M (Sessions × D)} {incoming : List Arrival}
    {reading : Reading M D} (meets : reading.MeetsEnd sink incoming) :
    (reading.round sink incoming).1 = some .ended := by
  obtain ⟨enough, seen⟩ := meets
  unfold Reading.round
  simp only
  rw [if_neg enough]
  split at seen
  · rfl
  · rfl
  · rename_i chunk rest more
    cases chunk with
    | nil => rfl
    | cons byte bytes =>
      have call := Reading.received_call sink reading ((byte :: bytes).take reading.budget.1)
      rw [← call] at seen
      simp only [Reading.decode, seen]
  · cases seen

/-- What the rounds of one notification preserve. -/
theorem Amid.tracks {reading : Reading M (D × List (Handed M))} {incoming : List Arrival}
    {got : List UInt8} (amid : Amid service.recorded event moment reading incoming got)
    (inStep : InStep service answer session moment) (opened : moment.connection.closing = false)
    (answered : AnsweredBy answer (handedFrom session reading.office.2)) :
    Tracks session reading.connection (handedFrom session reading.office.2)
        (service.decodeAll answer session (moment.read ++ got)) ∧
      (service.decodeAll answer session (moment.read ++ got)).outcome.isOk = true := by
  induction amid with
  | begun =>
    rw [List.append_nil]
    exact ⟨⟨⟨inStep.tracks.handed, inStep.tracks.inbound⟩, inStep.tracks.session,
      inStep.tracks.intake⟩, inStep.fine opened⟩
  | round amid again ih =>
    rename_i reading incoming got
    obtain ⟨further, case⟩ := Reading.round_cases service.recorded.sink incoming reading
    obtain ⟨longer, stream, _⟩ := case.grows (amid.keeps_session inStep.tracks.session)
    obtain ⟨tracks, fine⟩ := ih (answered.of_prefix longer)
    obtain ⟨after, lasting⟩ := tracks.round case answered fine
    rw [Arrival.consumed_of_stream stream, ← List.append_assoc]
    exact ⟨after, lasting (by rw [again]; exact fun impossible => by cases impossible)⟩

/-- A connection that is closing has come to rest. -/
theorem Onward.rests (onward : Onward service event session moment late)
    (closing : moment.connection.closing = true) :
    late.connection = moment.connection ∧ late.read = moment.read ∧
      handedFrom session late.premises.desk = handedFrom session moment.premises.desk := by
  induction onward with
  | here => exact ⟨rfl, rfl, rfl⟩
  | meanwhile onward others same ih => exact ⟨ih.1, ih.2.1, same.trans ih.2.2⟩
  | notified onward notice ih =>
    rename_i late
    obtain ⟨connection, read, handed⟩ := ih
    have still := respond_closing service.recorded notice event late.premises
      (connection ▸ closing)
    rw [Moment.notified, still]
    refine ⟨connection, ?_, handed⟩
    simp only [Arrival.consumed_self, List.append_nil]
    exact read

/-- **What a connection reads is what its intake decodes.** At every moment
between two notifications, and at every moment between two rounds of reading, a
connection has handed in what one call of a fresh intake hands in on all the
bytes read from its socket so far, and keeps back the bytes that this call
leaves. Once reading has met the end of the stream, a failure or a fault of the
intake, the connection is closing, and from then on it reads and hands in
nothing. How much is read at once, and what the borrowed buffer held, decides
nothing. -/
theorem read_path_is_decoding (service : Service M D) (event : Event (Endpoint M))
    (session : Nat) (answer : List (Handed M) → UInt64 → Errand M → Except Fault Unit)
    {opened moment : Moment M (D × List (Handed M))}
    (start : opened.Opened service event session)
    (onward : Onward service event session opened moment)
    (answered : AnsweredBy answer (handedFrom session moment.premises.desk)) :
    Mirrors moment.connection (handedFrom session moment.premises.desk)
        (service.decodeAll answer session moment.read) ∧
      ((service.decodeAll answer session moment.read).outcome.isOk = false →
        moment.connection.closing = true) ∧
      (∀ notice reading incoming got, moment.connection.reads notice = true →
        Amid service.recorded event moment reading incoming got →
        AnsweredBy answer (handedFrom session reading.office.2) →
          Mirrors reading.connection (handedFrom session reading.office.2)
            (service.decodeAll answer session (moment.read ++ got)) ∧
          (reading.MeetsEnd service.recorded.sink incoming →
            (moment.notified service.recorded event notice).connection.closing = true)) ∧
      (moment.connection.closing = true → ∀ later,
        Onward service event session moment later →
          later.connection = moment.connection ∧ later.read = moment.read ∧
          handedFrom session later.premises.desk = handedFrom session moment.premises.desk) := by
  have inStep := onward.inStep start.inStep answered
  refine ⟨inStep.tracks.toMirrors, ?_, ?_, fun closing later further =>
    further.rests closing⟩
  · intro failed
    cases closing : moment.connection.closing with
    | true => rfl
    | false =>
      rw [inStep.fine closing] at failed
      cases failed
  · intro notice reading incoming got reads amid answeredSoFar
    refine ⟨(amid.tracks inStep (reads_open reads) answeredSoFar).1.toMirrors, ?_⟩
    intro meets
    have ended := (respond_drains service.recorded event moment.premises reads).2.1
    rw [amid.drain, Reading.drain_of_stop meets.round] at ended
    exact ended rfl

end Life

/-- A frame that comes before the end of the stream is read in pieces of five
bytes into a used buffer. One task is handed in, and the connection closes. -/
theorem ping_read_path :
    let service : Service Trial.Telegram Trial.Desk :=
      { settings := { bufferSize := 5 }, sink := Trial.sink
        catalogue := { listings := Keyed.ofFirst Trial.Telegram.listings } }
    let event := service.connect ⟨1, 11, .v4 127 0 0 1 40001⟩ 0 1 none
    let frame : List UInt8 := [0, 0, 0, 7, 0, 0, 0, 0, 0, 0, 0, 8, 0, 0, 0, 1, 0, 0, 0, 3]
    let opened : Moment Trial.Telegram (Trial.Desk × List (Handed Trial.Telegram)) :=
      { connection := { session := 0, intake := service.intake }
        premises :=
          { desk := ({}, [])
            network := { sockets := Keyed.ofFirst [(1, { incoming := [.bytes frame, .bytes []] })] }
            pool := Pool.full 1 fun _ => [9, 9, 9, 9, 9] } }
    let moment := opened.notified service.recorded event .readable
    moment.read = frame ∧ moment.connection.closing = true ∧
      (handedFrom 0 moment.premises.desk).map Handed.group = [3] ∧
      Mirrors moment.connection (handedFrom 0 moment.premises.desk)
        (service.decodeAll (fun _ _ _ => .ok ()) 0 moment.read) := by
  intro service event frame opened moment
  have accepted : ∀ handed ∈ handedFrom 0 moment.premises.desk, handed.answer.isOk = true := by
    have all :
        (handedFrom 0 moment.premises.desk).all (fun handed => handed.answer.isOk) = true := by
      decide +kernel
    exact List.all_eq_true.1 all
  refine ⟨by decide +kernel, by decide +kernel, by decide +kernel, ?_⟩
  refine (read_path_is_decoding service event 0 (fun _ _ _ => .ok ())
    ⟨⟨_, _, _, rfl⟩, rfl, rfl, rfl⟩ (.notified .here .readable) ?_).1
  intro before handed inside
  have taken := accepted handed (inside.subset (by simp))
  cases answer : handed.answer with
  | ok _ => rfl
  | error fault =>
    rw [answer] at taken
    cases taken

end EventLoop
