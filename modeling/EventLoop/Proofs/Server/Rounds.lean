import EventLoop.Proofs.Frame.Cuts
import EventLoop.Server.Basic

/-! Reading round by round. A round looks how much may be read, reads once, pays
and decodes; `drain_eq_round` cuts `drain` into such rounds. Reading keeps to the
one call that decodes all the bytes read so far: `Tracks` is that invariant, and
a round keeps it because a call on more bytes goes on where the call on fewer
stopped. -/
namespace EventLoop

variable {M D : Type}

/-! ## The bytes of a socket -/

/-- The bytes that reading will meet, in order. -/
def Arrival.stream : List Arrival → List UInt8
  | [] => []
  | .bytes chunk :: rest => chunk ++ stream rest
  | _ :: rest => stream rest

/-- The bytes that were there before and are not there after: as many as the
stream has lost, from its front. -/
def Arrival.consumed (before after : List Arrival) : List UInt8 :=
  (stream before).take ((stream before).length - (stream after).length)

theorem Arrival.consumed_of_stream {before after : List Arrival} {bytes : List UInt8}
    (split : stream before = bytes ++ stream after) : consumed before after = bytes := by
  simp [consumed, split]

theorem Arrival.consumed_self (arrivals : List Arrival) : consumed arrivals arrivals = [] := by
  simp [consumed]

/-- What waits at the socket of an object. -/
def Premises.incoming (source : Source) (premises : Premises D) : List Arrival :=
  ((premises.network.sockets.get? source).getD {}).incoming

/-! ## One round of reading -/

namespace Reading

/-- `Connection::drain_socket`, one round of its loop: looks how much may be read, reads
once, pays, and decodes. None says that there is another round. -/
def round [Message M] (sink : Sink M (Sessions × D)) (incoming : List Arrival)
    (reading : Reading M D) : Option Pause × List Arrival × Reading M D :=
  let (budget, reading) := reading.budget
  if budget = 0 then (some .throttled, incoming, reading)
  else
    match incoming with
    | [] => (some .drained, [], reading)
    | .interrupted :: rest => (none, rest, reading)
    | .failed :: rest => (some .ended, rest, reading)
    | .bytes [] :: rest => (some .ended, .bytes [] :: rest, reading)
    | .bytes (byte :: bytes) :: rest =>
      let taken := (byte :: bytes).take budget
      let left := leave (byte :: bytes) budget rest
      match ((reading.pay taken.length).receive taken).decode sink with
      | (false, reading) => (some .ended, left, reading)
      | (true, reading) => (none, left, reading)

variable [Message M] {sink : Sink M (Sessions × D)}

/-- Reading is one round and, if it does not stop there, reading again. -/
theorem drain_eq_round (sink : Sink M (Sessions × D)) (incoming : List Arrival)
    (reading : Reading M D) :
    reading.drain sink incoming =
      match reading.round sink incoming with
      | (some pause, left, next) => (pause, left, next)
      | (none, left, next) => next.drain sink left := by
  rw [drain, round]
  simp only
  split
  · rfl
  · cases incoming with
    | nil => rfl
    | cons arrival rest =>
      cases arrival with
      | interrupted => rfl
      | failed => rfl
      | bytes chunk =>
        cases chunk with
        | nil => rfl
        | cons byte bytes =>
          simp only
          generalize Reading.decode sink _ = decoded
          obtain ⟨goesOn, next⟩ := decoded
          cases goesOn with
          | false => rfl
          | true => rfl

private theorem weight_leave (byte : UInt8) (bytes : List UInt8) (rest : List Arrival)
    {budget : Nat} (some : budget ≠ 0) :
    Arrival.weight (leave (byte :: bytes) budget rest) <
      Arrival.weight (.bytes (byte :: bytes) :: rest) := by
  unfold leave
  split
  · simp only [Arrival.weight]
    omega
  · simp only [Arrival.weight, List.length_drop, List.length_cons]
    omega

theorem stream_leave (bytes : List UInt8) (budget : Nat) (rest : List Arrival) :
    bytes ++ Arrival.stream rest =
      bytes.take budget ++ Arrival.stream (leave bytes budget rest) := by
  unfold leave
  split
  · rename_i all
    rw [List.take_of_length_le all]
  · rw [Arrival.stream, ← List.append_assoc, List.take_append_drop]

omit [Message M] in
private theorem budget_keeps (reading : Reading M D) :
    reading.budget.2.office = reading.office ∧
      reading.budget.2.connection =
        { reading.connection with bucket := reading.budget.2.connection.bucket } :=
  ⟨rfl, rfl⟩

omit [Message M] in
private theorem receive_pay_keeps (reading : Reading M D) (got : List UInt8) :
    ((reading.pay got.length).receive got).office = reading.office ∧
      ((reading.pay got.length).receive got).connection =
        { reading.connection with
          bucket := ((reading.pay got.length).receive got).connection.bucket
          inbound := reading.connection.inbound ++ got } := by
  refine ⟨rfl, ?_⟩
  simp only [receive, pay, List.take_left']

/-- Whatever is paid and whatever is in the buffer, the intake is called on the
inbound bytes with those just read behind them. -/
theorem received_call (sink : Sink M (Sessions × D)) (reading : Reading M D)
    (taken : List UInt8) :
    let received := (reading.budget.2.pay taken.length).receive taken
    received.connection.intake.decode sink received.connection.session
        received.connection.inbound received.office =
      reading.connection.intake.decode sink reading.connection.session
        (reading.connection.inbound ++ taken) reading.office := by
  obtain ⟨sameOffice, sameConnection⟩ := budget_keeps reading
  obtain ⟨paidOffice, paidConnection⟩ := receive_pay_keeps reading.budget.2 taken
  simp only
  rw [paidConnection, paidOffice, sameConnection, sameOffice]

/-- What a round comes to, in two cases. Either nothing was read, or bytes were
and the rest of the round is one call of the intake on the inbound bytes with
these behind them. -/
inductive RoundCase (sink : Sink M (Sessions × D)) (incoming : List Arrival)
    (reading : Reading M D) (pause : Option Pause) (left : List Arrival) (next : Reading M D) :
    List UInt8 → Prop where
  | idle (stream : Arrival.stream incoming = Arrival.stream left)
      (connection : next.connection = { reading.connection with bucket := next.connection.bucket })
      (office : next.office = reading.office) : RoundCase sink incoming reading pause left next []
  | read (stream : Arrival.stream incoming = got ++ Arrival.stream left)
      (decoded : Decoded M (Sessions × D))
      (call : reading.connection.intake.decode sink reading.connection.session
        (reading.connection.inbound ++ got) reading.office = decoded)
      (connection : next.connection =
        { reading.connection with
          bucket := next.connection.bucket
          intake := decoded.intake
          inbound := decoded.buffer })
      (office : next.office = decoded.state)
      (goesOn : pause = if decoded.outcome.isOk then none else some .ended) :
      RoundCase sink incoming reading pause left next got

omit [Message M] in
/-- No more may be read at once than the borrowed buffer holds. -/
theorem budget_le (reading : Reading M D) : reading.budget.1 ≤ reading.scratch.length :=
  Nat.le_trans (Nat.min_le_left _ _) (Nat.min_le_left _ _)

omit [Message M] in
/-- What is read into a buffer that holds it leaves the buffer as long as it was. -/
theorem length_receive {reading : Reading M D} {bytes : List UInt8}
    (fits : bytes.length ≤ reading.scratch.length) :
    (reading.receive bytes).scratch.length = reading.scratch.length := by
  simp only [receive, List.length_append, List.length_drop]
  omega

/-- A round is one of the two cases; the borrowed buffer holds what is read, and is as long
afterwards as it was before. -/
theorem round_fits (sink : Sink M (Sessions × D)) (incoming : List Arrival)
    (reading : Reading M D) :
    (reading.round sink incoming).2.2.scratch.length = reading.scratch.length ∧
      ∃ got, got.length ≤ reading.scratch.length ∧
        RoundCase sink incoming reading (reading.round sink incoming).1
          (reading.round sink incoming).2.1 (reading.round sink incoming).2.2 got := by
  obtain ⟨sameOffice, sameConnection⟩ := budget_keeps reading
  have nothing : ([] : List UInt8).length ≤ reading.scratch.length := Nat.zero_le _
  unfold round
  simp only
  split
  · exact ⟨rfl, [], nothing, .idle rfl sameConnection sameOffice⟩
  · rename_i enough
    split
    · exact ⟨rfl, [], nothing, .idle rfl sameConnection sameOffice⟩
    · exact ⟨rfl, [], nothing, .idle rfl sameConnection sameOffice⟩
    · exact ⟨rfl, [], nothing, .idle rfl sameConnection sameOffice⟩
    · exact ⟨rfl, [], nothing, .idle rfl sameConnection sameOffice⟩
    · rename_i byte bytes rest
      have fits : ((byte :: bytes).take reading.budget.1).length ≤ reading.scratch.length :=
        Nat.le_trans (List.length_take_le _ _) reading.budget_le
      have kept : ((reading.budget.2.pay ((byte :: bytes).take reading.budget.1).length).receive
          ((byte :: bytes).take reading.budget.1)).scratch.length = reading.scratch.length :=
        length_receive fits
      obtain ⟨paidOffice, paidConnection⟩ :=
        receive_pay_keeps reading.budget.2 ((byte :: bytes).take reading.budget.1)
      have call := (received_call sink reading ((byte :: bytes).take reading.budget.1)).symm
      generalize (reading.budget.2.pay _).receive _ = paid
        at paidOffice paidConnection call kept ⊢
      have stream := stream_leave (byte :: bytes) reading.budget.1 rest
      rw [decode]
      cases isOk : (paid.connection.intake.decode sink paid.connection.session
          paid.connection.inbound paid.office).outcome.isOk with
      | false =>
        refine ⟨kept, _, fits, .read stream _ call ?_ rfl (by simp [isOk])⟩
        rw [paidConnection, sameConnection]
      | true =>
        refine ⟨kept, _, fits, .read stream _ call ?_ rfl (by simp [isOk])⟩
        rw [paidConnection, sameConnection]

theorem round_cases (sink : Sink M (Sessions × D)) (incoming : List Arrival)
    (reading : Reading M D) :
    ∃ got, RoundCase sink incoming reading (reading.round sink incoming).1
      (reading.round sink incoming).2.1 (reading.round sink incoming).2.2 got := by
  obtain ⟨_, got, _, case⟩ := round_fits sink incoming reading
  exact ⟨got, case⟩

private theorem round_lighter {incoming : List Arrival} {reading : Reading M D}
    (again : (reading.round sink incoming).1 = none) :
    Arrival.weight (reading.round sink incoming).2.1 < Arrival.weight incoming := by
  unfold round at again ⊢
  simp only at again ⊢
  split at again
  · cases again
  · rename_i enough
    rw [if_neg enough]
    split at again
    · cases again
    · simp only [Arrival.weight]
      omega
    · cases again
    · cases again
    · rename_i byte bytes rest
      split at again
      · cases again
      · exact weight_leave byte bytes rest enough

/-- Reading goes round by round: what holds where a round is the last, and holds
before a round whenever it holds after it, holds of all reading. -/
theorem drain_induction (sink : Sink M (Sessions × D)) {motive : List Arrival → Reading M D → Prop}
    (stop : ∀ incoming reading pause, (reading.round sink incoming).1 = some pause →
      motive incoming reading)
    (again : ∀ incoming reading, (reading.round sink incoming).1 = none →
      motive (reading.round sink incoming).2.1 (reading.round sink incoming).2.2 →
        motive incoming reading)
    (incoming : List Arrival) (reading : Reading M D) : motive incoming reading := by
  induction weight : Arrival.weight incoming using Nat.strongRecOn
    generalizing incoming reading with
  | _ size ih =>
    cases ended : (reading.round sink incoming).1 with
    | some pause => exact stop incoming reading pause ended
    | none =>
      exact again incoming reading ended (ih _ (weight ▸ round_lighter ended) _ _ rfl)

theorem drain_of_stop {incoming : List Arrival} {reading : Reading M D} {pause : Pause}
    (stop : (reading.round sink incoming).1 = some pause) :
    reading.drain sink incoming = (pause, (reading.round sink incoming).2) := by
  rw [drain_eq_round]
  split
  · next same => rw [same] at stop ⊢; cases stop; rfl
  · next same => rw [same] at stop; cases stop

theorem drain_of_again {incoming : List Arrival} {reading : Reading M D}
    (again : (reading.round sink incoming).1 = none) :
    reading.drain sink incoming =
      (reading.round sink incoming).2.2.drain sink (reading.round sink incoming).2.1 := by
  rw [drain_eq_round]
  split
  · next same => rw [same] at again; cases again
  · next same => rw [same]

end Reading

/-! ## Submissions of one connection -/

/-- The service that serves as `service` does while its sink writes down what it
is handed. -/
def Service.recorded (service : Service M D) : Service M (D × List (Handed M)) where
  settings := service.settings
  catalogue := service.catalogue
  sink.submit group task office :=
    let answered := service.sink.submit group task (office.1, office.2.1)
    (answered.1, answered.2.1, answered.2.2, office.2.2 ++ [⟨group, task, answered.1⟩])

/-- What was handed in from one session. -/
def handedFrom (session : Nat) (desk : D × List (Handed M)) : List (Handed M) :=
  desk.2.filter fun handed => handed.task.session = session

/-- The sink whose answers are laid down: each is a function of what was handed
in before and of what is handed in now. -/
def Sink.answering (answer : List (Handed M) → UInt64 → Errand M → Except Fault Unit) :
    Sink M (List (Handed M)) where
  submit group task before :=
    (answer before group task, before ++ [⟨group, task, answer before group task⟩])

/-- Whoever handed these in was answered by `answer` each time. -/
def AnsweredBy (answer : List (Handed M) → UInt64 → Errand M → Except Fault Unit)
    (log : List (Handed M)) : Prop :=
  ∀ before handed, before ++ [handed] <+: log →
    handed.answer = answer before handed.group handed.task

/-- Any list of submissions can have been answered by one function. -/
theorem AnsweredBy.exists (log : List (Handed M)) :
    ∃ answer : List (Handed M) → UInt64 → Errand M → Except Fault Unit, AnsweredBy answer log := by
  refine ⟨fun before _ _ => (log[before.length]?.map Handed.answer).getD (.ok ()), ?_⟩
  rintro before handed ⟨after, rfl⟩
  simp

theorem AnsweredBy.of_prefix {answer : List (Handed M) → UInt64 → Errand M → Except Fault Unit}
    {early late : List (Handed M)} (answered : AnsweredBy answer late) (earlier : early <+: late) :
    AnsweredBy answer early :=
  fun before handed inside => answered before handed (inside.trans earlier)

section Answers

variable [Message M] {service : Service M D} {intake : Intake M} {session count : Nat}
  {buffer : List UInt8} {office : Sessions × (D × List (Handed M))}

omit [Message M] in
private theorem handedFrom_submit (service : Service M D)
    (office : Sessions × (D × List (Handed M)))
    (group : UInt64) (task : Errand M) (own : task.session = session) :
    handedFrom session (service.recorded.sink.submit group task office).2.2 =
      handedFrom session office.2 ++
        [⟨group, task, (service.recorded.sink.submit group task office).1⟩] := by
  simp [handedFrom, Service.recorded, own]

/-- Submissions are only ever added. -/
theorem handedFrom_takeFrames :
    handedFrom session office.2 <+: handedFrom session
      (intake.takeFrames service.recorded.sink session buffer count office).state.2 := by
  induction buffer using intake.buffer_induction generalizing count office with
  | partialFrame buffer seen => simp only [Intake.takeFrames_partial seen, List.prefix_rfl]
  | rejected buffer breach seen =>
    rw [Intake.takeFrames_rejected seen]
    exact List.prefix_rfl
  | whole buffer header payload rest seen ih =>
    rw [Intake.takeFrames_whole seen]
    split
    · exact List.prefix_rfl
    · exact List.prefix_rfl
    · rename_i message _ _
      have added := handedFrom_submit service office (Message.group message)
        ⟨message, session⟩ rfl
      have grown : handedFrom session office.2 <+: handedFrom session
          (service.recorded.sink.submit (Message.group message) ⟨message, session⟩ office).2.2 :=
        ⟨_, added.symm⟩
      simp only
      split
      · exact grown.trans ih
      · exact grown

/-- A call with a sink that answers by `answer` is, for the intake, a call with
any sink that happened to answer so. -/
theorem takeFrames_answering (service : Service M D)
    (answer : List (Handed M) → UInt64 → Errand M → Except Fault Unit) (intake : Intake M)
    (session count : Nat) (buffer : List UInt8) (office : Sessions × (D × List (Handed M)))
    (answered : AnsweredBy answer (handedFrom session
      (intake.takeFrames service.recorded.sink session buffer count office).state.2)) :
    intake.takeFrames (Sink.answering answer) session buffer count (handedFrom session office.2) =
      let run := intake.takeFrames service.recorded.sink session buffer count office
      ⟨run.outcome, run.buffer, run.intake, handedFrom session run.state.2⟩ := by
  induction buffer using intake.buffer_induction generalizing count office with
  | partialFrame buffer seen =>
    rw [Intake.takeFrames_partial seen, Intake.takeFrames_partial seen]
  | rejected buffer breach seen =>
    rw [Intake.takeFrames_rejected seen, Intake.takeFrames_rejected seen]
    rfl
  | whole buffer header payload rest seen ih =>
    rw [Intake.takeFrames_whole seen] at answered
    rw [Intake.takeFrames_whole seen, Intake.takeFrames_whole seen]
    split
    · rfl
    · rfl
    · rename_i message unread unpacked
      simp only [unpacked] at answered
      have added := handedFrom_submit service office (Message.group message)
        ⟨message, session⟩ rfl
      generalize service.recorded.sink.submit (Message.group message) ⟨message, session⟩ office =
        submitted at added answered ⊢
      obtain ⟨reply, after⟩ := submitted
      cases reply with
      | ok _ =>
        have same := answered.of_prefix handedFrom_takeFrames (handedFrom session office.2)
          ⟨Message.group message, ⟨message, session⟩, .ok ()⟩ (added ▸ List.prefix_rfl)
        simp only [Sink.answering, ← same, ← added]
        exact ih _ _ answered
      | error fault =>
        have same := answered.of_prefix List.prefix_rfl (handedFrom session office.2)
          ⟨Message.group message, ⟨message, session⟩, .error fault⟩ (added ▸ List.prefix_rfl)
        simp only [Sink.answering, ← same, ← added]

end Answers

/-! ## One call on all the bytes -/

/-- The intake of a connection before its first byte. -/
def Service.intake (service : Service M D) : Intake M :=
  { catalogue := service.catalogue, forbidden := service.settings.forbidden }

/-- One call of a fresh intake on `read`, with a sink that answers by `answer`. -/
def Service.decodeAll [Message M] (service : Service M D)
    (answer : List (Handed M) → UInt64 → Errand M → Except Fault Unit) (session : Nat)
    (read : List UInt8) : Decoded M (List (Handed M)) :=
  service.intake.decode (Sink.answering answer) session read []

/-- A connection has come to what one call on all the bytes it has read comes
to: the same submissions with the same answers, and the same bytes kept back. -/
structure Mirrors (connection : Connection M) (log : List (Handed M))
    (whole : Decoded M (List (Handed M))) : Prop where
  handed : log = whole.state
  inbound : connection.inbound = whole.buffer

/-- The part of the invariant that only the connection itself can see. -/
structure Tracks (session : Nat) (connection : Connection M) (log : List (Handed M))
    (whole : Decoded M (List (Handed M))) : Prop extends Mirrors connection log whole where
  session : connection.session = session
  intake : connection.intake = whole.intake

section Rounds

variable [Message M] {service : Service M D}
  {answer : List (Handed M) → UInt64 → Errand M → Except Fault Unit} {session : Nat}
  {read got : List UInt8}

private theorem Service.decodeAll_append {taken : Nat}
    (fine : (service.decodeAll answer session read).outcome = .ok taken) :
    let further := service.intake.takeFrames (Sink.answering answer) session
      ((service.decodeAll answer session read).buffer ++ got) 0
      (service.decodeAll answer session read).state
    service.decodeAll answer session (read ++ got) =
      { further with outcome := further.outcome.map (taken + ·) } := by
  simp only [decodeAll, Intake.decode, intake, Bool.false_eq_true, ↓reduceIte] at fine ⊢
  rw [Intake.takeFrames_append_of_ok got fine, Intake.takeFrames_count]

private theorem isOk_map {α β : Type} (f : α → β) (outcome : Except Fault α) :
    (outcome.map f).isOk = outcome.isOk := by
  cases outcome <;> rfl

/-- What one round preserves. Where the round reads, the call it makes is the
further part of the one call, because no earlier call has failed. -/
theorem Tracks.round {incoming left : List Arrival} {reading next : Reading M (D × List (Handed M))}
    {pause : Option Pause}
    (case : Reading.RoundCase service.recorded.sink incoming reading pause left next got)
    (answered : AnsweredBy answer (handedFrom session next.office.2))
    (tracks : Tracks session reading.connection (handedFrom session reading.office.2)
      (service.decodeAll answer session read))
    (fine : (service.decodeAll answer session read).outcome.isOk = true) :
    Tracks session next.connection (handedFrom session next.office.2)
        (service.decodeAll answer session (read ++ got)) ∧
      (pause ≠ some .ended →
        (service.decodeAll answer session (read ++ got)).outcome.isOk = true) := by
  cases case with
  | idle stream connection office =>
    rw [List.append_nil, connection, office]
    exact ⟨⟨⟨tracks.handed, tracks.inbound⟩, tracks.session, tracks.intake⟩, fun _ => fine⟩
  | read stream decoded call connection office goesOn =>
    cases outcome : (service.decodeAll answer session read).outcome with
    | error fault =>
      rw [outcome] at fine
      cases fine
    | ok taken =>
      have unpoisoned : reading.connection.intake = service.intake := by
        rw [tracks.intake]
        exact (Intake.takeFrames_settled outcome).2
      have same : service.intake.takeFrames service.recorded.sink session
          (reading.connection.inbound ++ got) 0 reading.office = decoded := by
        rw [← call, unpoisoned, tracks.session]
        rfl
      have further := takeFrames_answering service answer service.intake session 0
        (reading.connection.inbound ++ got) reading.office (by rw [same, ← office]; exact answered)
      rw [same, tracks.inbound, tracks.handed] at further
      rw [Service.decodeAll_append outcome, further, connection, office]
      refine ⟨⟨⟨rfl, rfl⟩, tracks.session, rfl⟩, ?_⟩
      intro lasting
      rw [isOk_map]
      cases isOk : decoded.outcome.isOk with
      | false =>
        rw [isOk] at goesOn
        exact absurd goesOn lasting
      | true => rfl

theorem Reading.RoundCase.grows {incoming left : List Arrival}
    {reading next : Reading M (D × List (Handed M))} {pause : Option Pause}
    (case : Reading.RoundCase service.recorded.sink incoming reading pause left next got)
    (own : reading.connection.session = session) :
    handedFrom session reading.office.2 <+: handedFrom session next.office.2 ∧
      Arrival.stream incoming = got ++ Arrival.stream left ∧ next.connection.session = session := by
  cases case with
  | idle stream connection office =>
    rw [office, connection]
    exact ⟨List.prefix_rfl, stream, own⟩
  | read stream decoded call connection office goesOn =>
    refine ⟨?_, stream, by rw [connection]; exact own⟩
    rw [office, ← call, own]
    unfold Intake.decode
    split
    · exact List.prefix_rfl
    · exact handedFrom_takeFrames

/-- All reading of one notification, in the terms of its single rounds. -/
theorem drain_grows (service : Service M D) (incoming : List Arrival)
    (reading : Reading M (D × List (Handed M))) (own : reading.connection.session = session) :
    handedFrom session reading.office.2 <+:
        handedFrom session (reading.drain service.recorded.sink incoming).2.2.office.2 ∧
      (reading.drain service.recorded.sink incoming).2.2.connection.session = session ∧
      ∃ got, Arrival.stream incoming =
        got ++ Arrival.stream (reading.drain service.recorded.sink incoming).2.1 := by
  induction incoming, reading using Reading.drain_induction service.recorded.sink with
  | stop incoming reading pause stop =>
    obtain ⟨got, case⟩ := Reading.round_cases service.recorded.sink incoming reading
    obtain ⟨longer, stream, ownNext⟩ := case.grows own
    rw [Reading.drain_of_stop stop]
    exact ⟨longer, ownNext, got, stream⟩
  | again incoming reading again ih =>
    obtain ⟨got, case⟩ := Reading.round_cases service.recorded.sink incoming reading
    obtain ⟨longer, stream, ownNext⟩ := case.grows own
    obtain ⟨later, ownLast, further, rest⟩ := ih ownNext
    rw [Reading.drain_of_again again]
    exact ⟨longer.trans later, ownLast, got ++ further, by rw [stream, rest, List.append_assoc]⟩

/-- What all the reading of one notification preserves. -/
theorem Tracks.drain (incoming : List Arrival) (reading : Reading M (D × List (Handed M)))
    (answered : AnsweredBy answer (handedFrom session
      (reading.drain service.recorded.sink incoming).2.2.office.2))
    (tracks : Tracks session reading.connection (handedFrom session reading.office.2)
      (service.decodeAll answer session read))
    (fine : (service.decodeAll answer session read).outcome.isOk = true) :
    Tracks session (reading.drain service.recorded.sink incoming).2.2.connection
        (handedFrom session (reading.drain service.recorded.sink incoming).2.2.office.2)
        (service.decodeAll answer session (read ++
          Arrival.consumed incoming (reading.drain service.recorded.sink incoming).2.1)) ∧
      ((reading.drain service.recorded.sink incoming).1 ≠ .ended →
        (service.decodeAll answer session (read ++
          Arrival.consumed incoming (reading.drain service.recorded.sink incoming).2.1)).outcome.isOk =
            true) := by
  induction incoming, reading using Reading.drain_induction service.recorded.sink
    generalizing read with
  | stop incoming reading pause stop =>
    obtain ⟨got, case⟩ := Reading.round_cases service.recorded.sink incoming reading
    obtain ⟨_, stream, _⟩ := case.grows tracks.session
    rw [Reading.drain_of_stop stop] at answered ⊢
    simp only at answered ⊢
    obtain ⟨after, lasting⟩ := tracks.round case answered fine
    rw [Arrival.consumed_of_stream stream]
    refine ⟨after, fun other => lasting ?_⟩
    rw [stop]
    exact fun same => other (Option.some.inj same)
  | again incoming reading again ih =>
    obtain ⟨got, case⟩ := Reading.round_cases service.recorded.sink incoming reading
    obtain ⟨_, stream, ownNext⟩ := case.grows tracks.session
    rw [Reading.drain_of_again again] at answered ⊢
    obtain ⟨later, _, further, rest⟩ := drain_grows service _ _ ownNext
    obtain ⟨after, lasting⟩ := tracks.round case (answered.of_prefix later) fine
    have still := lasting (by rw [again]; exact fun impossible => by cases impossible)
    have whole : Arrival.stream incoming = (got ++ further) ++ Arrival.stream
        (((reading.round service.recorded.sink incoming).2.2.drain service.recorded.sink
          (reading.round service.recorded.sink incoming).2.1).2.1) := by
      rw [stream, rest, List.append_assoc]
    have all := ih answered after still
    rw [Arrival.consumed_of_stream rest, List.append_assoc] at all
    rw [Arrival.consumed_of_stream whole]
    exact all

end Rounds

end EventLoop
