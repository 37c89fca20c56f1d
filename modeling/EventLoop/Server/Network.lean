import EventLoop.Address
import EventLoop.Keyed
import EventLoop.Poller

/-!
The network as a server meets it: who knocks, what each socket has for its reader next, and how
much its writer may write. All that can come from outside is laid down here as data, so that a
statement about every network is one about every course that reads and writes can take.
-/
namespace EventLoop

/-- What reading from a `TcpStream` meets. Bytes that are none are the end of the stream. -/
inductive Arrival where
  | bytes (chunk : List UInt8)
  | interrupted
  | failed
deriving DecidableEq, Repr, Inhabited

/-- How much there is to read, counting each arrival as one more. -/
def Arrival.weight : List Arrival → Nat
  | [] => 0
  | .bytes chunk :: rest => chunk.length + 1 + weight rest
  | _ :: rest => 1 + weight rest

/-- What writing to a `TcpStream` meets. Room for nothing ends the connection. -/
inductive Room where
  | upTo (bytes : Nat)
  | interrupted
  | failed
deriving DecidableEq, Repr, Inhabited

/-- A connected `TcpStream`. Reading meets `incoming` in order and would block after it. Writing
meets `room` in order; after it, an ample socket takes everything and any other would block. Once it
is closed nothing is read or written any more, and only the far end still has what was sent. -/
structure Socket where
  incoming : List Arrival := []
  room : List Room := []
  ample : Bool := true
  /-- The bytes it has taken. -/
  sent : List UInt8 := []
  isOpen : Bool := true
deriving DecidableEq, Repr, Inhabited

/-- Somebody who has connected and waits to be accepted. -/
structure Visitor where
  source : Source
  handle : Handle
  peer : Address
deriving DecidableEq, Repr, Inhabited

/-- What `TcpListener::accept` meets. -/
inductive Knock where
  | visitor (visitor : Visitor)
  | interrupted
  | failed
deriving DecidableEq, Repr, Inhabited

/-- The network. `door` is what accepting meets, in order; after it, accepting would block.
`refusals` says for each of the next registration calls whether it fails. -/
structure Network where
  sockets : Keyed Source Socket := {}
  door : List Knock := []
  refusals : List Bool := []

namespace Network

/-- The source of the listening socket. Connected ones have others. -/
def doorSource : Source := 0

/-- What can be seen of a source. -/
def level (network : Network) (source : Source) : Level :=
  if source = doorSource then { input := !network.door.isEmpty }
  else
    match network.sockets.get? source with
    | none => {}
    | some socket =>
      { input := socket.isOpen && !socket.incoming.isEmpty
        output := socket.isOpen && (socket.ample || !socket.room.isEmpty) }

/-- Closes a socket, as dropping its `TcpStream` does. -/
def close (source : Source) (network : Network) : Network :=
  { network with sockets := network.sockets.modify source fun socket =>
      { socket with isOpen := false } }

/-- The sockets of those who wait to be accepted. -/
def waiting (door : List Knock) : List Source :=
  door.filterMap fun
    | .visitor visitor => some visitor.source
    | _ => none

/-- Closes the door, as dropping the `TcpListener` does. Who waits at it is turned away. -/
def closeDoor (network : Network) : Network :=
  (waiting network.door).foldl (fun network source => network.close source)
    { network with door := [] }

/-- The outcome of the next registration call: whether it is refused. -/
def nextRefusal (network : Network) : Bool × Network :=
  match network.refusals with
  | [] => (false, network)
  | refused :: rest => (refused, { network with refusals := rest })

end Network

end EventLoop
