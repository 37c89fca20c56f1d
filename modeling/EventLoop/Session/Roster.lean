import EventLoop.Keyed
import EventLoop.Session.Basic

/-!
All sessions and the roster of live ones. Whoever holds a session holds the number it has in the
book, so all holders see one state. The roster names at most one session for each identity. What
sessions ask of the loop gathers in `pleas`, in order, until it is passed on.
-/
namespace EventLoop

/-- `SessionManager`, and all that is behind its sessions: the sessions ever opened, by number, and
the live ones, by identity. -/
structure Sessions where
  book : Keyed Nat Session := {}
  roster : Keyed UInt64 Nat := {}
  pleas : List Plea := []
  loopGone : Bool := false
  opened : Nat := 0

namespace Sessions

variable {M : Type} [Message M]

/-- Enters a new session into the book and gives it the number by which all its clones are known. -/
def openSession (session : Session) (sessions : Sessions) : Nat × Sessions :=
  (sessions.opened,
    { sessions with
      book := sessions.book.insert sessions.opened session
      opened := sessions.opened + 1 })

/-- The session that the holders of a number share. -/
def get? (key : Nat) (sessions : Sessions) : Option Session := sessions.book.get? key

/-- Writes back a session after one of its operations, with what it asks of the loop. -/
def record (key : Nat) (session : Session) (asked : List Plea) (sessions : Sessions) : Sessions :=
  { sessions with
    book := sessions.book.insert key session
    pleas := sessions.pleas ++ asked }

/-- `Session::send` on the session with number `key`. A number that stands for no session is not
connected to anything. -/
def send (message : M) (key : Nat) (sessions : Sessions) : Except Fault Unit × Sessions :=
  match sessions.get? key with
  | none => (.error (.io .notConnected), sessions)
  | some session =>
    let (outcome, session, asked) := session.send message sessions.loopGone
    (outcome, sessions.record key session asked)

/-- `Session::take_outbound` on the session with number `key`. -/
def takeOutbound (key : Nat) (sessions : Sessions) : List UInt8 × Sessions :=
  match sessions.get? key with
  | none => ([], sessions)
  | some session =>
    let (bytes, session) := session.takeOutbound
    (bytes, sessions.record key session [])

/-- `Session::close` on the session with number `key`. -/
def close (key : Nat) (sessions : Sessions) : Sessions :=
  match sessions.get? key with
  | none => sessions
  | some session =>
    let (session, asked) := session.close sessions.loopGone
    sessions.record key session asked

/-- `Session::mark_closed` on the session with number `key`. -/
def markClosed (key : Nat) (sessions : Sessions) : Sessions :=
  match sessions.get? key with
  | none => sessions
  | some session => sessions.record key session.markClosed []

/-! ## The roster -/

/-- `SessionManager::insert`: puts a session on the roster, in place of one with the same
identity. -/
def enlist (key : Nat) (sessions : Sessions) : Sessions :=
  match sessions.get? key with
  | none => sessions
  | some session => { sessions with roster := sessions.roster.insert session.id key }

/-- `SessionManager::remove`: strikes an identity off the roster. Says which session it named. -/
def strike (id : UInt64) (sessions : Sessions) : Option Nat × Sessions :=
  (sessions.roster.get? id, { sessions with roster := sessions.roster.erase id })

/-- `SessionManager::get`: the live session of an identity. -/
def live? (id : UInt64) (sessions : Sessions) : Option Nat := sessions.roster.get? id

/-- `SessionManager::count`: how many sessions are on the roster. -/
def count (sessions : Sessions) : Nat := sessions.roster.size

/-- `SessionManager::send_to`: sends to one live session. Says whether there is such a session. -/
def sendTo (message : M) (id : UInt64) (sessions : Sessions) : Except Fault Bool × Sessions :=
  match sessions.live? id with
  | none => (.ok false, sessions)
  | some key =>
    let (outcome, sessions) := sessions.send message key
    (outcome.map (fun _ => true), sessions)

/-- `SessionManager::broadcast`, going through its sessions: sends to each of `keys` in turn and
counts the sends that were accepted. -/
def sendEach (message : M) : List Nat → Sessions → Nat × Sessions
  | [], sessions => (0, sessions)
  | key :: rest, sessions =>
    let (outcome, sessions) := sessions.send message key
    let (count, sessions) := sendEach message rest sessions
    ((match outcome with | .ok () => count + 1 | .error _ => count), sessions)

/-- `SessionManager::broadcast`: sends to every session on the roster and counts the sends that were
accepted. -/
def broadcast (message : M) (sessions : Sessions) : Nat × Sessions :=
  sessions.sendEach message sessions.roster.values

/-- `SessionManager::close`: closes one live session. Says whether there is such a session. -/
def closeLive (id : UInt64) (sessions : Sessions) : Bool × Sessions :=
  match sessions.live? id with
  | none => (false, sessions)
  | some key => (true, sessions.close key)

/-- Hands over what the sessions have asked of the loop. -/
def takePleas (sessions : Sessions) : List Plea × Sessions :=
  (sessions.pleas, { sessions with pleas := [] })

end Sessions

end EventLoop
