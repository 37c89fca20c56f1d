import EventLoop.Trial.Telegram

/-!
The receiving end of one stream on its own: an intake, its buffer, the session that messages come
in on, and the desk that they go to.
-/
namespace EventLoop.Trial

structure Stream where
  intake : Intake Telegram
  buffer : List UInt8 := []
  session : Nat := 0
  sessions : Sessions := {}
  desk : Desk := {}

namespace Stream

/-- Opens a session, on which later messages come in. -/
def withSession (id : UInt64) (stream : Stream) : Stream :=
  let (key, sessions) := stream.sessions.openSession (Session.detached id)
  { stream with session := key, sessions }

def feed (bytes : List UInt8) (stream : Stream) : Stream :=
  { stream with buffer := stream.buffer ++ bytes }

/-- Decodes what the buffer holds. -/
def decode (stream : Stream) : Except Fault Nat × Stream :=
  let decoded := stream.intake.decode sink stream.session stream.buffer
    (stream.sessions, stream.desk)
  (decoded.outcome, { stream with
    intake := decoded.intake
    buffer := decoded.buffer
    sessions := decoded.state.1
    desk := decoded.state.2 })

/-- Feeds and decodes piece by piece, up to the first piece that is answered by a fault. -/
def decodeEach : List (List UInt8) → Stream → List (Except Fault Nat) × Stream
  | [], stream => ([], stream)
  | piece :: rest, stream =>
    match (stream.feed piece).decode with
    | (.error fault, stream) => ([.error fault], stream)
    | (.ok count, stream) =>
      let (outcomes, stream) := decodeEach rest stream
      (.ok count :: outcomes, stream)

/-- Cuts bytes into pieces of `size + 1`; the last may be shorter. -/
def pieces (size : Nat) (bytes : List UInt8) : List (List UInt8) :=
  if bytes.isEmpty then [] else bytes.take (size + 1) :: pieces size (bytes.drop (size + 1))
termination_by bytes.length
decreasing_by
  cases bytes with
  | nil => simp_all
  | cons byte rest => simp only [List.length_drop, List.length_cons]; omega

/-- Starts again with a fresh intake of the same policy. -/
def renew (stream : Stream) : Stream :=
  { stream with intake := { stream.intake with poisoned := false } }

/-- Performs up to `most` kept tasks, all of them if nothing is said, and counts them. -/
def perform (most : Option Nat) (stream : Stream) : Nat × Stream :=
  let (count, sessions, desk) :=
    performKept (most.getD stream.desk.kept.length) (stream.sessions, stream.desk)
  (count, { stream with sessions, desk })

end Stream

end EventLoop.Trial
