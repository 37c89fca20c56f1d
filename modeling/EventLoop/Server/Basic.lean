import EventLoop.Loop.Plea
import EventLoop.Loop.Turn
import EventLoop.Pool
import EventLoop.Server.Connection
import EventLoop.Settings.Server

/-!
A server of framed messages. Its listener admits visitors while there are fewer sessions than
allowed, and gives each a connection of its own; a connection hands what it decodes to the sink,
writes what its session has queued, and takes its session off the roster when it ends. Message
handlers may run anywhere: all they can do to a connection is to ask the loop through its session.
-/
namespace EventLoop

/-- What a `TcpServer` is asked to do and never changes: its `config`, `registry` and `sink`. -/
structure Service (M D : Type) where
  settings : ServerSettings
  catalogue : Catalogue M
  sink : Sink M (Sessions × D)

/-- What a server works on: the part of `Shared` that changes, and what is around it. `desk` is
what the sink has besides the sessions, and `pool` has the buffers that connections borrow to read
with. -/
structure Premises (D : Type) where
  sessions : Sessions := {}
  desk : D
  network : Network := {}
  pool : Pool (List UInt8)
  shared : Option Bucket := none
  nextSession : UInt64 := 1
  clock : Clock := {}
  started : Bool := false

/-- The objects of a server: its `Listener`, and a `Connection` for each client. -/
inductive Endpoint (M : Type) where
  | listener
  | connection (connection : Connection M)

/-- A loop that serves. A server brings no callbacks of its own. -/
abbrev ServerLoop (M D : Type) := Loop (Endpoint M) Empty (Premises D)

/-- What a `Connection` makes of a notification, before the pleas of sessions are added. -/
structure Service.Response (M D : Type) where
  connection : Connection M
  premises : Premises D
  requests : List (Request (Endpoint M)) := []

namespace Service

variable {M D : Type}

/-- `POOLED_BUFFERS`: how many buffers are kept for reading. -/
def keptBuffers : Nat := 32

/-- `TcpServer::start`, the `buffer_size` it takes: the length of the buffers for reading. It is
never zero. -/
def bufferSize (service : Service M D) : Nat := max service.settings.bufferSize.toNat 1

/-- What the `buffer_pool` of `Shared` makes its buffers by. -/
def makeBuffer (service : Service M D) : Nat → List UInt8 :=
  fun _ => List.replicate service.bufferSize 0

/-- `TcpServer::bind` and `TcpServer::with_shaper`: the premises of a server that has not started,
with a bucket of the given rate for all its connections if there is one. -/
def premises (service : Service M D) (desk : D) (rate : Option UInt64) : Premises D :=
  { desk
    pool := Pool.full keptBuffers service.makeBuffer
    shared := rate.map fun rate => Bucket.full rate 0 }

/-! ## Admitting -/

/-- `Listener::admit`, the check of `max_connections`: whether no more sessions are allowed. -/
def isFull (service : Service M D) (premises : Premises D) : Bool :=
  match service.settings.maxConnections with
  | none => false
  | some limit => limit.toNat ≤ premises.sessions.count

/-- `Connection::new`: the event of a new connection. -/
def connect (service : Service M D) (visitor : Visitor) (session : Nat) (id : UInt64)
    (bucket : Option Bucket) : Event (Endpoint M) :=
  { handle := visitor.handle
    generation := id
    source := visitor.source
    body := .connection
      { session
        intake := { catalogue := service.catalogue, forbidden := service.settings.forbidden }
        bucket } }

/-- `Listener::admit`: admits a visitor, with a session of the next identity, on the roster from now
on, and a connection to be added. When the server is full the visitor is turned away. -/
def welcome (service : Service M D) (visitor : Visitor) (premises : Premises D) :
    Option (Request (Endpoint M)) × Premises D :=
  if service.isFull premises then
    (none, { premises with network := premises.network.close visitor.source })
  else
    let id := premises.nextSession
    let (now, clock) := premises.clock.read
    let bucket := service.settings.readRate.map fun rate => Bucket.full rate (Word.clamp now)
    let (key, sessions) :=
      premises.sessions.openSession (Session.attached id visitor.peer visitor.handle)
    (some (.add (service.connect visitor key id bucket) .readable),
      { premises with sessions := sessions.enlist key, nextSession := id + 1, clock })

/-- `Listener::handle_event`, its loop: admits whoever stands at the door. Gives what is to be
added, who still stands there, and the premises. A failure leaves the rest for the next time. -/
def welcomeAll (service : Service M D) :
    List Knock → Premises D → List (Request (Endpoint M)) × List Knock × Premises D
  | [], premises => ([], [], premises)
  | .interrupted :: rest, premises => welcomeAll service rest premises
  | .failed :: rest, premises => ([], rest, premises)
  | .visitor visitor :: rest, premises =>
    let (request, premises) := service.welcome visitor premises
    let (requests, door, premises) := welcomeAll service rest premises
    (request.toList ++ requests, door, premises)

/-! ## Reading and writing -/

/-- `Connection::close`: ends a connection. Its session is closed, and it asks to be removed. -/
def close (handle : Handle) (response : Response M D) : Response M D :=
  if response.connection.closing then response
  else
    { connection := { response.connection with closing := true }
      premises := { response.premises with
        sessions := response.premises.sessions.markClosed response.connection.session }
      requests := response.requests ++ [.remove handle] }

/-- `Connection::on_readable`: reads what a connection's socket has, with a borrowed buffer. A
connection whose budget is used up is throttled, and asks for an alarm. -/
def read [Message M] (service : Service M D) (event : Event (Endpoint M))
    (connection : Connection M) (premises : Premises D) : Response M D :=
  let (scratch, pool) := premises.pool.acquire service.makeBuffer
  let socket := (premises.network.sockets.get? event.source).getD {}
  let reading : Reading M D :=
    { connection, office := (premises.sessions, premises.desk), shared := premises.shared,
      clock := premises.clock, scratch }
  let (pause, incoming, reading) := reading.drain service.sink socket.incoming
  let premises := { premises with
    sessions := reading.office.1
    desk := reading.office.2
    shared := reading.shared
    clock := reading.clock
    pool := (pool.release reading.scratch).2
    network := { premises.network with
      sockets := premises.network.sockets.modify event.source fun socket =>
        { socket with incoming } } }
  match pause with
  | .drained => { connection := reading.connection, premises }
  | .throttled =>
    { connection := { reading.connection with throttled := true }, premises,
      requests := [.schedule event.handle service.settings.retry.toNat] }
  | .ended => close event.handle { connection := reading.connection, premises }

/-- `Connection::on_writable`: writes what a connection and its session have to send. When nothing
is left the connection asks not to be told of room any more. -/
def write (event : Event (Endpoint M)) (connection : Connection M) (premises : Premises D) :
    Response M D :=
  let (queued, sessions) := premises.sessions.takeOutbound connection.session
  let socket := (premises.network.sockets.get? event.source).getD {}
  let (flushed, outbound, socket) := socket.flush (connection.outbound ++ queued)
  let response : Response M D :=
    { connection := { connection with outbound }
      premises := { premises with
        sessions
        network := { premises.network with
          sockets := premises.network.sockets.modify event.source fun _ => socket } } }
  match flushed with
  | .done => { response with requests := [.rearm event.handle .readable] }
  | .blocked => response
  | .broken => close event.handle response

/-- `Connection::handle_event`: what a connection does when it is notified. -/
def respond [Message M] (service : Service M D) (notice : Notice) (event : Event (Endpoint M))
    (connection : Connection M) (premises : Premises D) : Response M D :=
  if connection.closing then { connection, premises }
  else
    match notice with
    | .readable =>
      if connection.throttled then { connection, premises }
      else service.read event connection premises
    | .timer => service.read event { connection with throttled := false } premises
    | .writable => write event connection premises
    | .accept => { connection, premises }

/-! ## The conduct of a server -/

/-- `EventHandler::handle_event` of a `Listener` or a `Connection`: what an endpoint does when it is
notified. What sessions ask meanwhile is sent to the loop. -/
def notifyEndpoint [Message M] (service : Service M D) (notice : Notice)
    (event : Event (Endpoint M)) (premises : Premises D) :
    Reaction (Endpoint M) Empty (Premises D) :=
  let reaction : Reaction (Endpoint M) Empty (Premises D) := match event.body, notice with
    | .listener, .accept =>
      let (requests, door, premises) := service.welcomeAll premises.network.door premises
      { body := .listener, world := { premises with network := { premises.network with door } },
        requests }
    | .listener, _ => { body := .listener, world := premises }
    | .connection connection, notice =>
      let response := service.respond notice event connection premises
      { body := .connection response.connection, world := response.premises,
        requests := response.requests }
  let (pleas, sessions) := reaction.world.sessions.takePleas
  { reaction with
    world := { reaction.world with sessions }
    orders := pleas.map Plea.order }

/-- The end of an endpoint. That of a connection, `Connection::drop`, closes its session and takes
it off the roster. -/
def endEndpoint (event : Event (Endpoint M)) (premises : Premises D) : Premises D :=
  match event.body with
  | .listener => { premises with network := premises.network.closeDoor }
  | .connection connection =>
    { premises with
      sessions := ((premises.sessions.markClosed connection.session).strike event.generation).2
      network := premises.network.close event.source }

/-- A registration call of the `Source` of an endpoint. Taking a socket off the poller always
succeeds. -/
def callEndpoint (call : SourceCall) (premises : Premises D) : Option Trouble × Premises D :=
  match call with
  | .deregister => (none, premises)
  | _ =>
    let (refused, network) := premises.network.nextRefusal
    (if refused then some (.system "refused") else none, { premises with network })

/-- `EventHandler` for the objects of a server: how they act. -/
def conduct [Message M] (service : Service M D) : Conduct (Endpoint M) Empty (Premises D) where
  call call _ premises := callEndpoint call premises
  notify notice event _ premises := service.notifyEndpoint notice event premises
  fire callback := nomatch callback
  level premises := premises.network.level
  clock premises :=
    let (now, clock) := premises.clock.read
    (now, { premises with clock })
  wait prompt timeout premises :=
    if prompt then premises
    else { premises with clock := premises.clock.advance (timeout.getD 0) }
  unresolved _ premises := premises
  destroy := endEndpoint

/-! ## A serving loop -/

/-- `TcpServer::start`: starts listening under `handle`. A server starts once. -/
def start [Message M] (service : Service M D) (handle : Handle) (loop : ServerLoop M D) :
    Except Fault Unit × ServerLoop M D :=
  if loop.world.started then (.error (.invalidArgument .alreadyStarted), loop)
  else
    { loop with world := { loop.world with started := true } }.addEvent service.conduct
      { handle, source := Network.doorSource, body := .listener } .accept

/-- Does something with the sessions from outside the loop, and sends the loop what they ask. -/
def onSessions [Message M] {α : Type} (service : Service M D)
    (act : Sessions → α × Sessions) (loop : ServerLoop M D) : α × ServerLoop M D :=
  let (result, sessions) := act loop.world.sessions
  let (pleas, sessions) := sessions.takePleas
  (result,
    Loop.heed service.conduct pleas { loop with world := { loop.world with sessions } })

/-- The end of the loop, where its `Reactor` is dropped. Sessions learn of it. -/
def dismiss [Message M] (service : Service M D) (loop : ServerLoop M D) : ServerLoop M D :=
  let loop := loop.close service.conduct
  { loop with world := { loop.world with
      sessions := { loop.world.sessions with loopGone := true } } }

/-- Turns until two turns running deliver nothing, but at most `turns` times. -/
def settle [Message M] (service : Service M D) : Nat → Bool → ServerLoop M D → ServerLoop M D
  | 0, _, loop => loop
  | turns + 1, quiet, loop =>
    match loop.turn service.conduct with
    | (0, loop) => if quiet then loop else settle service turns true loop
    | (_, loop) => settle service turns false loop

end Service

end EventLoop
