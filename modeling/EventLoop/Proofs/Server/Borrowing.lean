import EventLoop.Proofs.Server.Holdings

/-! What a borrowed buffer held is no matter. Only the part that has just been written is taken
over from it, so reading with another buffer of the same length reads the same. Whichever buffers
a server has to lend, a connection that is told of something does the same with them: nothing
that somebody else has read comes to it that way. -/
namespace EventLoop

variable {M D : Type}

namespace Reading

/-- The same reading with another buffer. -/
def borrowing (scratch : List UInt8) (reading : Reading M D) : Reading M D :=
  { reading with scratch }

variable {reading : Reading M D} {scratch : List UInt8}

private theorem budget_borrowing (same : scratch.length = reading.scratch.length) :
    (reading.borrowing scratch).budget =
      (reading.budget.1, reading.budget.2.borrowing scratch) := by
  simp only [budget, borrowing, same]

/-- What was in the buffer before is not taken over. -/
theorem receive_borrowing (reading : Reading M D) (bytes : List UInt8) :
    (reading.borrowing scratch).receive bytes =
      (reading.receive bytes).borrowing (bytes ++ scratch.drop bytes.length) := by
  simp only [receive, borrowing, List.take_left']

variable [Message M] (sink : Sink M (Sessions × D))

private theorem decode_borrowing :
    (reading.borrowing scratch).decode sink =
      ((reading.decode sink).1, (reading.decode sink).2.borrowing scratch) := rfl

/-- One round reads the same with any buffer of the same length, and gives back one as long. -/
theorem round_borrowing (same : scratch.length = reading.scratch.length)
    (incoming : List Arrival) :
    ∃ used, used.length = (reading.round sink incoming).2.2.scratch.length ∧
      (reading.borrowing scratch).round sink incoming =
        ((reading.round sink incoming).1, (reading.round sink incoming).2.1,
          (reading.round sink incoming).2.2.borrowing used) := by
  unfold round
  rw [budget_borrowing same]
  simp only
  split
  · exact ⟨scratch, same, rfl⟩
  · split
    · exact ⟨scratch, same, rfl⟩
    · exact ⟨scratch, same, rfl⟩
    · exact ⟨scratch, same, rfl⟩
    · exact ⟨scratch, same, rfl⟩
    · next byte bytes rest =>
      generalize (byte :: bytes).take reading.budget.1 = taken
      have received : ((reading.budget.2.borrowing scratch).pay taken.length).receive taken =
          ((reading.budget.2.pay taken.length).receive taken).borrowing
            (taken ++ scratch.drop taken.length) :=
        receive_borrowing (reading.budget.2.pay taken.length) taken
      have long : (taken ++ scratch.drop taken.length).length =
          ((reading.budget.2.pay taken.length).receive taken).scratch.length := by
        have kept : (reading.budget.2.pay taken.length).scratch = reading.scratch := rfl
        simp only [receive, kept, List.length_append, List.length_drop, same]
      have kept : (decode sink ((reading.budget.2.pay taken.length).receive taken)).2.scratch =
          ((reading.budget.2.pay taken.length).receive taken).scratch := rfl
      rw [← kept] at long
      rw [received, decode_borrowing]
      generalize decode sink ((reading.budget.2.pay taken.length).receive taken) = decoded at long ⊢
      obtain ⟨goesOn, next⟩ := decoded
      cases goesOn with
      | false => exact ⟨_, long, rfl⟩
      | true => exact ⟨_, long, rfl⟩

/-- **Reading reads the same with any buffer of the same length.** -/
theorem drain_borrowing (same : scratch.length = reading.scratch.length)
    (incoming : List Arrival) :
    ∃ used, used.length = (reading.drain sink incoming).2.2.scratch.length ∧
      (reading.borrowing scratch).drain sink incoming =
        ((reading.drain sink incoming).1, (reading.drain sink incoming).2.1,
          (reading.drain sink incoming).2.2.borrowing used) := by
  induction incoming, reading using drain_induction sink generalizing scratch with
  | stop incoming reading pause stop =>
    obtain ⟨used, long, round⟩ := round_borrowing sink same incoming
    have stopToo : ((reading.borrowing scratch).round sink incoming).1 = some pause := by
      rw [round]
      exact stop
    rw [drain_of_stop stop, drain_of_stop stopToo, round]
    exact ⟨used, long, rfl⟩
  | again incoming reading again ih =>
    obtain ⟨used, long, round⟩ := round_borrowing sink same incoming
    have againToo : ((reading.borrowing scratch).round sink incoming).1 = none := by
      rw [round]
      exact again
    rw [drain_of_again again, drain_of_again againToo, round]
    exact ih long

/-- What is held after reading is the end of what was held and of what came in at the socket. -/
theorem drain_inbound (incoming : List Arrival) (reading : Reading M D) :
    ∃ got, Arrival.stream incoming = got ++ Arrival.stream (reading.drain sink incoming).2.1 ∧
      (reading.drain sink incoming).2.2.connection.inbound <:+
        reading.connection.inbound ++ got := by
  have round (incoming : List Arrival) (reading : Reading M D) :
      ∃ got, Arrival.stream incoming = got ++ Arrival.stream (reading.round sink incoming).2.1 ∧
        (reading.round sink incoming).2.2.connection.inbound <:+
          reading.connection.inbound ++ got := by
    obtain ⟨got, case⟩ := round_cases sink incoming reading
    refine ⟨got, ?_⟩
    generalize (reading.round sink incoming).2.2 = next at case ⊢
    cases case with
    | idle stream connection office =>
      rw [connection, List.append_nil]
      exact ⟨stream, List.suffix_refl _⟩
    | read stream decoded call connection office goesOn =>
      have leaves := (reading.connection.intake.decode_leaves sink reading.connection.session
        (reading.connection.inbound ++ got) reading.office).1
      rw [call] at leaves
      rw [connection]
      exact ⟨stream, leaves⟩
  induction incoming, reading using drain_induction sink with
  | stop incoming reading pause stop =>
    rw [drain_of_stop stop]
    exact round incoming reading
  | again incoming reading again ih =>
    obtain ⟨got, stream, held⟩ := round incoming reading
    obtain ⟨more, streamOn, heldOn⟩ := ih
    rw [drain_of_again again]
    refine ⟨got ++ more, ?_, ?_⟩
    · rw [stream, streamOn, List.append_assoc]
    · obtain ⟨gone, whole⟩ := held
      refine heldOn.trans ⟨gone, ?_⟩
      rw [← List.append_assoc, whole, List.append_assoc]

end Reading

/-! ## Notifications -/

/-- The same premises with other buffers to lend. -/
def Premises.lending (pool : Pool (List UInt8)) (premises : Premises D) : Premises D :=
  { premises with pool }

namespace Service

/-- Responses that differ in nothing but the buffers that there are to lend. -/
structure Response.Alike (response other : Response M D) : Prop where
  connection : other.connection = response.connection
  requests : other.requests = response.requests
  premises : other.premises = response.premises.lending other.premises.pool

variable {service : Service M D} {premises : Premises D} {pool : Pool (List UInt8)}
  {response other : Response M D}

private theorem Response.Alike.close (alike : response.Alike other) (handle : Handle) :
    (close handle response).Alike (close handle other) := by
  obtain ⟨connection, premises, requests⟩ := response
  obtain ⟨connectionToo, premisesToo, requestsToo⟩ := other
  obtain ⟨rfl, rfl, same⟩ := alike
  simp only at same
  rw [same]
  unfold Service.close
  simp only
  split
  · exact ⟨rfl, rfl, rfl⟩
  · exact ⟨rfl, rfl, rfl⟩

private theorem flushOut_lending (event : Event (Endpoint M)) (connection : Connection M) :
    (flushOut event connection premises).Alike
      (flushOut event connection (premises.lending pool)) := by
  unfold flushOut Premises.lending
  simp only
  split
  · exact ⟨rfl, rfl, rfl⟩
  · exact ⟨rfl, rfl, rfl⟩
  · refine Response.Alike.close ?_ event.handle
    exact ⟨rfl, rfl, rfl⟩

private theorem read_lending [Message M] (stocked : service.Stocked premises)
    (stockedToo : service.Stocked (premises.lending pool)) (event : Event (Endpoint M))
    (connection : Connection M) :
    (service.read event { connection with throttled := false } premises).Alike
      (service.read event { connection with throttled := false } (premises.lending pool)) := by
  have lent : (pool.acquire service.makeBuffer).1.length =
      (premises.pool.acquire service.makeBuffer).1.length :=
    stockedToo.acquire.trans stocked.acquire.symm
  obtain ⟨used, _, reads⟩ := (service.beginReading connection premises).drain_borrowing
    service.sink lent ((premises.network.sockets.get? event.source).getD {}).incoming
  unfold beginReading Reading.borrowing at reads
  unfold Service.read Premises.lending
  simp only at reads ⊢
  rw [reads]
  simp only
  split
  · exact ⟨rfl, rfl, rfl⟩
  · exact ⟨rfl, rfl, rfl⟩
  · refine Response.Alike.close ?_ event.handle
    exact ⟨rfl, rfl, rfl⟩

/-- **Whichever buffers there are to lend**, a connection does the same when it is told of
something. -/
theorem respond_lending [Message M] (stocked : service.Stocked premises)
    (stockedToo : service.Stocked (premises.lending pool)) (notice : Notice)
    (event : Event (Endpoint M)) (connection : Connection M) :
    (service.respond notice event connection premises).Alike
      (service.respond notice event connection (premises.lending pool)) := by
  have nothing : Response.Alike (M := M) { connection, premises }
      { connection, premises := premises.lending pool } := ⟨rfl, rfl, rfl⟩
  cases reads : connection.reads notice with
  | true =>
    rw [respond_reads service event premises reads,
      respond_reads service event (premises.lending pool) reads]
    exact read_lending stocked stockedToo event connection
  | false =>
    rw [respond_unread service event premises reads,
      respond_unread service event (premises.lending pool) reads]
    split
    · exact flushOut_lending event _
    · exact nothing

/-- **What a connection holds is the end of what it held and of what came in at its own socket**,
whatever it is told of. -/
theorem respond_inbound [Message M] (service : Service M D) (notice : Notice)
    (event : Event (Endpoint M)) (connection : Connection M) (premises : Premises D) :
    let response := service.respond notice event connection premises
    ∃ got, Arrival.stream (premises.incoming event.source) =
        got ++ Arrival.stream (response.premises.incoming event.source) ∧
      response.connection.inbound <:+ connection.inbound ++ got := by
  cases reads : connection.reads notice with
  | false =>
    obtain ⟨still, _, incoming⟩ := respond_still service event premises reads
    have held : connection.inbound ++ [] = connection.inbound := List.append_nil _
    exact ⟨[], by rw [incoming, List.nil_append], [],
      (congrArg Connection.inbound still).trans held.symm⟩
  | true =>
    obtain ⟨done, _, _, incoming⟩ := respond_drains service event premises reads
    obtain ⟨got, stream, held⟩ := Reading.drain_inbound service.sink
      (premises.incoming event.source) (service.beginReading connection premises)
    refine ⟨got, by rw [incoming]; exact stream, ?_⟩
    rw [done]
    exact held

end Service

end EventLoop
