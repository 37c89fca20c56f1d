import EventLoop.Address
import EventLoop.Fault
import EventLoop.Frame.Catalogue

/-!
What a message handler sees of a connection: an identity and a way to answer. Answers are framed
into an outbound buffer; the bytes leave later, on the loop's thread, after the session has asked
the loop to watch its connection for room to write. A session without a connection only collects.
-/
namespace EventLoop

/-- What a `Session` asks of its `ReactorHandle`, always naming its own handle and its own identity,
so that a request that comes too late does not reach another owner of the handle. -/
inductive Plea where
  | rearm (handle : Handle) (generation : UInt64) (interest : Interest)
  | remove (handle : Handle) (generation : UInt64)
deriving DecidableEq, Repr

/-- `Session`: the state shared by everyone who holds it. `link` is the handle of the connection
behind it. -/
structure Session where
  id : UInt64
  peer : Option Address := none
  link : Option Handle := none
  outbound : List UInt8 := []
  closed : Bool := false
deriving DecidableEq, Repr, Inhabited

namespace Session

/-- `Session::detached`: a session with no connection behind it. -/
def detached (id : UInt64) : Session := { id }

/-- `Session::attached`: a session of the connection that is registered under `handle`. -/
def attached (id : UInt64) (peer : Address) (handle : Handle) : Session :=
  { id, peer := some peer, link := some handle }

/-- `Session::send`: frames a message and asks for it to be sent. A closed session refuses before it
writes. If the loop is gone the request fails, though the frame has been written. -/
def send {M : Type} [Message M] (message : M) (loopGone : Bool) (session : Session) :
    Except Fault Unit × Session × List Plea :=
  if session.closed then (.error (.io .notConnected), session, [])
  else
    let written := { session with outbound := Frame.encode session.outbound message }
    match session.link with
    | none => (.ok (), written, [])
    | some handle =>
      if loopGone then (.error .loopGone, written, [])
      else (.ok (), written, [.rearm handle session.id .both])

/-- `Session::take_outbound`: takes everything that waits to be sent. -/
def takeOutbound (session : Session) : List UInt8 × Session :=
  (session.outbound, { session with outbound := [] })

/-- `Session::close`: closes the session. The first to close it asks the loop to drop its
connection. -/
def close (loopGone : Bool) (session : Session) : Session × List Plea :=
  if session.closed then (session, [])
  else
    ({ session with closed := true },
      match session.link with
      | none => []
      | some handle => if loopGone then [] else [.remove handle session.id])

/-- `Session::mark_closed`: closes the session on behalf of its connection, which needs no request
to go. -/
def markClosed (session : Session) : Session := { session with closed := true }

end Session

end EventLoop
