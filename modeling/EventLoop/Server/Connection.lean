import EventLoop.Bucket
import EventLoop.Clock
import EventLoop.Frame.Intake
import EventLoop.Server.Network
import EventLoop.Session.Roster

/-!
One connection: reading its socket into its intake, as fast as the buckets allow, and writing to
the socket what its session has queued. Nothing is read that has not been found in every bucket
first, and reading goes through a borrowed buffer of which only the part just read is used.
-/
namespace EventLoop

/-- `Connection`. `session` is the number of its session in the book. A throttled connection reads
nothing until an alarm comes; a closing one does nothing more at all. -/
structure Connection (M : Type) where
  session : Nat
  intake : Intake M
  inbound : List UInt8 := []
  outbound : List UInt8 := []
  bucket : Option Bucket := none
  throttled : Bool := false
  closing : Bool := false

/-- `ReadOutcome`: why a connection stops reading. There is nothing more at the moment, a bucket is
empty, or the connection is to end. -/
inductive Pause where
  | drained
  | throttled
  | ended
deriving DecidableEq, Repr, Inhabited

/-- What `Connection::drain_socket` works on: the connection, the surroundings of the sink, the
bucket that all connections share, the clock, and a borrowed buffer. -/
structure Reading (M D : Type) where
  connection : Connection M
  office : Sessions × D
  shared : Option Bucket
  clock : Clock
  scratch : List UInt8

/-- `Connection::read_budget` for one shaper: how many of `wanted` bytes a bucket holds, if there is
a bucket. -/
def Bucket.allowance (wanted : Nat) (clock : Clock) : Option Bucket → Nat × Option Bucket × Clock
  | none => (wanted, none, clock)
  | some bucket =>
    let (now, clock) := clock.read
    let (bytes, bucket) := bucket.available (Word.clamp now)
    (min bytes.toNat wanted, some bucket, clock)

/-- `Connection::charge` for one shaper: takes `bytes` from a bucket, if there is a bucket and it
holds them. -/
def Bucket.charge (bytes : Nat) (clock : Clock) : Option Bucket → Option Bucket × Clock
  | none => (none, clock)
  | some bucket =>
    let (now, clock) := clock.read
    (some (bucket.acquire (Word.clamp bytes) (Word.clamp now)).2, clock)

namespace Reading

variable {M D : Type}

/-- `Connection::read_budget`: how much may be read at once, no more than the buffer or either
bucket holds. -/
def budget (reading : Reading M D) : Nat × Reading M D :=
  let wanted := reading.scratch.length
  let (own, bucket, clock) := Bucket.allowance wanted reading.clock reading.connection.bucket
  let (common, shared, clock) := Bucket.allowance wanted clock reading.shared
  (min (min wanted own) common,
    { reading with connection := { reading.connection with bucket }, shared, clock })

/-- `Connection::charge`: pays for bytes that have been read. -/
def pay (bytes : Nat) (reading : Reading M D) : Reading M D :=
  let (bucket, clock) := Bucket.charge bytes reading.clock reading.connection.bucket
  let (shared, clock) := Bucket.charge bytes clock reading.shared
  { reading with connection := { reading.connection with bucket }, shared, clock }

/-- `Connection::drain_socket`, what it does with a read: puts `bytes` into the front of the buffer,
and from there into the inbound buffer. -/
def receive (bytes : List UInt8) (reading : Reading M D) : Reading M D :=
  let scratch := bytes ++ reading.scratch.drop bytes.length
  { reading with
    scratch
    connection := { reading.connection with
      inbound := reading.connection.inbound ++ scratch.take bytes.length } }

/-- `Connection::drain_socket`, the call of `Decoder::decode`: submits every whole frame of the
inbound buffer. Says whether the stream may go on. -/
def decode [Message M] (sink : Sink M (Sessions × D)) (reading : Reading M D) :
    Bool × Reading M D :=
  let connection := reading.connection
  let decoded := connection.intake.decode sink connection.session connection.inbound reading.office
  (decoded.outcome.isOk,
    { reading with
      connection := { connection with intake := decoded.intake, inbound := decoded.buffer }
      office := decoded.state })

/-- What is left of arrivals of which the first held `bytes`, when `budget` of them are taken. -/
def leave (bytes : List UInt8) (budget : Nat) (rest : List Arrival) : List Arrival :=
  if bytes.length ≤ budget then rest else .bytes (bytes.drop budget) :: rest

/-- `Connection::drain_socket`: reads until the socket would block, a bucket is empty, or the
connection is to end. Gives why it stopped, and what was not read. -/
def drain [Message M] (sink : Sink M (Sessions × D)) (incoming : List Arrival)
    (reading : Reading M D) : Pause × List Arrival × Reading M D :=
  let (budget, reading) := reading.budget
  if _empty : budget = 0 then (.throttled, incoming, reading)
  else
    match incoming with
    | [] => (.drained, [], reading)
    | .interrupted :: rest => drain sink rest reading
    | .failed :: rest => (.ended, rest, reading)
    | .bytes [] :: rest => (.ended, .bytes [] :: rest, reading)
    | .bytes (byte :: bytes) :: rest =>
      let taken := (byte :: bytes).take budget
      let left := leave (byte :: bytes) budget rest
      match ((reading.pay taken.length).receive taken).decode sink with
      | (false, reading) => (.ended, left, reading)
      | (true, reading) => drain sink left reading
termination_by Arrival.weight incoming
decreasing_by
  · simp only [Arrival.weight]; omega
  · unfold leave
    split
    · simp only [Arrival.weight]; omega
    · simp only [Arrival.weight, List.length_drop, List.length_cons]; omega

end Reading

/-! ## Writing -/

/-- How the loop of `Connection::on_writable` stops: nothing is left, the socket would block, or the
connection is to end. -/
inductive Flushed where
  | done
  | blocked
  | broken
deriving DecidableEq, Repr, Inhabited

/-- `Connection::on_writable`, its loop: writes `outbound` to a socket as far as there is room.
Gives how it stopped, what is left of `outbound`, and the socket afterwards. -/
def Socket.flush (socket : Socket) (outbound : List UInt8) : Flushed × List UInt8 × Socket :=
  go socket.room outbound socket.sent
where
  go : List Room → List UInt8 → List UInt8 → Flushed × List UInt8 × Socket
  | room, [], sent => (.done, [], { socket with room, sent })
  | [], outbound, sent =>
    if socket.ample then (.done, [], { socket with room := [], sent := sent ++ outbound })
    else (.blocked, outbound, { socket with room := [], sent })
  | .interrupted :: rest, outbound, sent => go rest outbound sent
  | .failed :: rest, outbound, sent => (.broken, outbound, { socket with room := rest, sent })
  | .upTo 0 :: rest, outbound, sent => (.broken, outbound, { socket with room := rest, sent })
  | .upTo (bytes + 1) :: rest, outbound, sent =>
    go rest (outbound.drop (bytes + 1)) (sent ++ outbound.take (bytes + 1))

end EventLoop
