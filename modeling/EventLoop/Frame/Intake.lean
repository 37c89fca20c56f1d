import EventLoop.Frame.Catalogue

/-!
The receiving end of one stream. An intake takes whole frames off the front of the inbound buffer
and hands each message to a sink, as a task that will run it for the stream's session. A frame cut
short by the end of the buffer stays where it is. The first violation poisons the intake, and a
poisoned intake takes nothing more.
-/
namespace EventLoop

/-- The task that `Decoder::decode` submits: a message on its way to be run for a session. -/
structure Errand (M : Type) where
  message : M
  session : Nat

/-- `DispatchSink`: where tasks go. The state `S` holds whatever a sink can reach; a submission says
whether the task was taken or why not. A task that is not taken is the sink's to destroy. -/
structure Sink (M S : Type) where
  submit : UInt64 → Errand M → S → Except Fault Unit × S

/-- `Decoder`: the receiving end of one stream. -/
structure Intake (M : Type) where
  catalogue : Catalogue M
  forbidden : List UInt32 := []
  poisoned : Bool := false

/-- What stands at the front of a buffer. -/
inductive Front where
  /-- No whole header, or an acceptable header without its whole payload. -/
  | partialFrame
  /-- A header that policy rejects, whatever follows it. -/
  | rejected (breach : Violation)
  | whole (header : Frame.Header) (payload rest : List UInt8)

/-- The outcome of one `Decoder::decode`: how many messages were submitted or what stopped it, what
is left of the buffer, and the intake and the sink's state afterwards. -/
structure Decoded (M S : Type) where
  outcome : Except Fault Nat
  buffer : List UInt8
  intake : Intake M
  state : S

namespace Intake

variable {M S : Type}

/-- `Decoder::check`: the policy on headers. The type must be listed, then not forbidden, then
within its limit. -/
def check (intake : Intake M) (header : Frame.Header) : Except Violation Unit :=
  match intake.catalogue.limit? header.type with
  | none => .error (.unknownType header.type header.size)
  | some limit =>
    if intake.forbidden.contains header.type then .error (.forbidden header.type)
    else if limit < header.size then .error (.oversized header.type header.size limit)
    else .ok ()

/-- `Decoder::decode`, one round of its loop up to the split: looks at the front of a buffer. Policy
comes before waiting, so a header that promises too much is rejected at once. -/
def look (intake : Intake M) (buffer : List UInt8) : Front :=
  match Frame.Header.read? buffer with
  | none => .partialFrame
  | some header =>
    match intake.check header with
    | .error breach => .rejected breach
    | .ok () =>
      let whole := buffer.take (Frame.length header.size)
      if whole.length < Frame.length header.size then .partialFrame
      else .whole header (whole.drop Frame.headerLength) (buffer.drop (Frame.length header.size))

theorem rest_shorter (intake : Intake M) {buffer payload rest : List UInt8}
    {header : Frame.Header} (seen : intake.look buffer = .whole header payload rest) :
    rest.length < buffer.length := by
  unfold look at seen
  split at seen
  · cases seen
  · split at seen
    · cases seen
    · simp only at seen
      split at seen
      · cases seen
      · rename_i enough
        cases seen
        have positive := Frame.headerLength_le_length header.size
        simp only [List.length_take, Frame.headerLength, List.length_drop] at *
        omega

/-- `Decoder::poison`: ends a call with a violation and closes the stream to all later ones. -/
def poison (intake : Intake M) (breach : Violation) (buffer : List UInt8) (state : S) :
    Decoded M S :=
  ⟨.error (.violation breach), buffer, { intake with poisoned := true }, state⟩

/-- `Decoder::decode`, its loop: takes frames off the buffer until there is no whole one, after
`count` of them. -/
def takeFrames [Message M] (intake : Intake M) (sink : Sink M S) (session : Nat)
    (buffer : List UInt8) (count : Nat) (state : S) : Decoded M S :=
  match _seen : intake.look buffer with
  | .partialFrame => ⟨.ok count, buffer, intake, state⟩
  | .rejected breach => intake.poison breach buffer state
  | .whole header payload rest =>
    match intake.catalogue.unpack? header.type payload with
    | none => intake.poison (.unknownType header.type header.size) rest state
    | some (.error fault) =>
      intake.poison (.malformed header.type fault.message) rest state
    | some (.ok (message, _)) =>
      let submitted := sink.submit (Message.group message) ⟨message, session⟩ state
      match submitted.1 with
      | .ok () => takeFrames intake sink session rest (count + 1) submitted.2
      | .error fault => ⟨.error fault, rest, intake, submitted.2⟩
termination_by buffer.length
decreasing_by exact rest_shorter intake ‹_›

/-- `Decoder::decode`: submits every whole frame of the buffer, in order. -/
def decode [Message M] (intake : Intake M) (sink : Sink M S) (session : Nat)
    (buffer : List UInt8) (state : S) : Decoded M S :=
  if intake.poisoned then ⟨.error (.violation .closed), buffer, intake, state⟩
  else intake.takeFrames sink session buffer 0 state

end Intake

end EventLoop
