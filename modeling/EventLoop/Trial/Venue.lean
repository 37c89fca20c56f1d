import EventLoop.Server.Basic
import EventLoop.Trial.Telegram

/-!
A server with clients. Clients connect, send and receive on one thread with the loop, so nothing
moves between two of their acts but what the loop is told to do. Where the server cannot be reached
nobody connects, and there are no clients.
-/
namespace EventLoop.Trial

/-- A client, and how much it has received of what was sent to it. -/
structure Client where
  source : Source
  received : Nat := 0

/-- A serving loop, its clients, and sessions kept under names. -/
structure Venue where
  loop : ServerLoop Telegram Desk
  reachable : Bool
  clients : Keyed String Client := {}
  held : Keyed String Nat := {}

namespace Venue

/-- The handle that the listener is started under. Those of connections come after it. -/
def listenerHandle : Handle := 10

/-- More turns than a loop takes before it comes to rest. -/
def mostTurns : Nat := 10000

/-- A server that has just started. -/
def setUp (service : Service Telegram Desk) (desk : Desk) (rate : Option UInt64)
    (reachable : Bool) : Venue :=
  let loop : ServerLoop Telegram Desk := { pause := 0, world := service.premises desk rate }
  { loop := (service.start listenerHandle loop).2, reachable }

def desk (venue : Venue) : Desk := venue.loop.world.desk

def withDesk (desk : Desk) (venue : Venue) : Venue :=
  { venue with loop := { venue.loop with world := { venue.loop.world with desk } } }

/-- Changes the network and nothing else. -/
def onNetwork (change : Network → Network) (venue : Venue) : Venue :=
  { venue with loop := { venue.loop with world := { venue.loop.world with
      network := change venue.loop.world.network } } }

/-- There is input at a source. -/
def hasInput (source : Source) (venue : Venue) : Venue :=
  { venue with loop := { venue.loop with selector := { venue.loop.selector with
      poller := venue.loop.selector.poller.happened source { input := true } } } }

def socket? (client : Client) (venue : Venue) : Option Socket :=
  venue.loop.world.network.sockets.get? client.source

/-- A client connects, if the server can be reached. Says whether it did. -/
def connect (name : String) (venue : Venue) : Bool × Venue :=
  if !venue.reachable || !venue.loop.alive then (false, venue)
  else
    let source := venue.loop.world.network.sockets.size + 1
    let visitor : Visitor :=
      { source, handle := listenerHandle + Int32.ofNat source,
        peer := .v4 127 0 0 1 (40000 + source) }
    let venue := venue.onNetwork fun network =>
      { network with
        sockets := network.sockets.insert source {}
        door := network.door ++ [.visitor visitor] }
    (true, { venue with clients := venue.clients.insert name { source } }.hasInput
      Network.doorSource)

/-- Something arrives from a client: bytes, or with none of them the end of its stream. -/
def deliver (bytes : List UInt8) (client : Client) (venue : Venue) : Venue :=
  (venue.onNetwork fun network =>
    { network with sockets := network.sockets.modify client.source fun socket =>
        { socket with incoming := socket.incoming ++ [.bytes bytes] } }).hasInput client.source

/-- A client goes away. Says whether it was there. -/
def leave (name : String) (venue : Venue) : Bool × Venue :=
  match venue.clients.get? name with
  | none => (false, venue)
  | some client =>
    (true, { venue with clients := venue.clients.erase name }.deliver [] client)

/-- What a client has not received yet, and whether its connection is still open. -/
def receive (name : String) (client : Client) (venue : Venue) : List UInt8 × Bool × Venue :=
  match venue.socket? client with
  | none => ([], false, venue)
  | some socket =>
    let after := { client with received := socket.sent.length }
    (socket.sent.drop client.received, socket.isOpen,
      { venue with clients := venue.clients.insert name after })

/-- Lets the loop run until it is at rest, if it is there. -/
def pump (service : Service Telegram Desk) (venue : Venue) : Venue :=
  if venue.loop.alive then { venue with loop := service.settle mostTurns false venue.loop }
  else venue

/-- Does something with the sessions. -/
def onSessions {α : Type} (service : Service Telegram Desk) (act : Sessions → α × Sessions)
    (venue : Venue) : α × Venue :=
  let (result, loop) := service.onSessions act venue.loop
  (result, { venue with loop })

/-- Performs the kept tasks and counts them. -/
def perform (service : Service Telegram Desk) (venue : Venue) : Nat × Venue :=
  let world := venue.loop.world
  let (count, sessions, desk) := performKept world.desk.kept.length (world.sessions, world.desk)
  let loop := { venue.loop with world := { world with sessions, desk } }
  (count, ({ venue with loop }.onSessions service fun sessions => ((), sessions)).2)

/-- Keeps a live session under a name. Says whether there is one. -/
def hold (id : UInt64) (name : String) (venue : Venue) : Bool × Venue :=
  match venue.loop.world.sessions.live? id with
  | none => (false, venue)
  | some key => (true, { venue with held := venue.held.insert name key })

/-- Removes the listener. Says whether it was there. -/
def stopListening (service : Service Telegram Desk) (venue : Venue) : Bool × Venue :=
  let (found, loop) := venue.loop.removeEvent service.conduct listenerHandle
  (found, { venue with loop })

/-- The end of the loop. Says whether it was there. -/
def dismiss (service : Service Telegram Desk) (venue : Venue) : Bool × Venue :=
  if venue.loop.alive then (true, { venue with loop := service.dismiss venue.loop })
  else (false, venue)

end Venue

end EventLoop.Trial
