import EventLoop.Fault
import EventLoop.Poller
import EventLoop.Agenda

/-!
The objects that a loop owns and what it needs to know about them. An object reacts to a
notification by changing itself and the world around it, and by asking for changes: requests, which
are applied when the current batch is done, and orders, which go through the loop's inbox as those
of any other thread do. How objects react is given by a `Conduct`; the loop is the same for all.
-/
namespace EventLoop

/-- An object behind `EventHandler`, with its handle, registered or to be registered. `generation`
tells apart successive owners of one handle, `standing` is what `EventHandler::state` gives and
`EventHandler::set_state` sets, and `body` is what only its conduct looks into. -/
structure Event (B : Type) where
  handle : Handle
  generation : UInt64 := 0
  source : Source
  standing : Standing := .absent
  body : B

/-- `Target`: the owner of a handle that a change is meant for, whoever owns it (`Target::any`) or
one generation only (`Target::pinned`). -/
structure Target where
  handle : Handle
  generation : Option UInt64 := none
deriving DecidableEq, Repr, Inhabited

/-- `Change`: a change to what the loop owns, watches or has on its agenda. -/
inductive Change (B C : Type) where
  | add (event : Event B) (interest : Interest)
  | rearm (target : Target) (interest : Interest)
  | remove (target : Target)
  | schedule (target : Target) (delay : Nat)
  | timer (callback : C) (interval : Nat) (delayed : Bool) (repeats : Option Nat)

/-- What an object may ask of the `Changes` it is handed while it reacts. It means whoever owns the
handle when the request is applied. -/
inductive Request (B : Type) where
  | add (event : Event B) (interest : Interest)
  | rearm (handle : Handle) (interest : Interest)
  | remove (handle : Handle)
  | schedule (handle : Handle) (delay : Nat)

/-- What can be sent to a loop from anywhere, by a `ReactorHandle`. -/
inductive Order (B C : Type) where
  | change (change : Change B C)
  | stop
  | wake

/-- `Changes`: the requests of the current batch, in order, and the handles that are to be
removed. -/
structure Changes (B C : Type) where
  pending : List (Change B C) := []
  removed : List Handle := []

namespace Changes

variable {B C : Type}

/-- `Changes::add`, `Changes::rearm`, `Changes::remove` and `Changes::schedule`: takes up a request.
A removal also silences its handle at once. -/
def request (changes : Changes B C) : Request B → Changes B C
  | .add event interest => { changes with pending := changes.pending ++ [.add event interest] }
  | .rearm handle interest =>
    { changes with pending := changes.pending ++ [.rearm { handle } interest] }
  | .remove handle =>
    { pending := changes.pending ++ [.remove { handle }], removed := handle :: changes.removed }
  | .schedule handle delay =>
    { changes with pending := changes.pending ++ [.schedule { handle } delay] }

/-- `Changes::is_removed`: whether a handle is to be removed. -/
def isRemoved (changes : Changes B C) (handle : Handle) : Bool := changes.removed.contains handle

/-- `Changes::len`: how many requests wait to be applied. -/
def size (changes : Changes B C) : Nat := changes.pending.length

end Changes

/-- The calls of a `Source` by which its registration with the poller is made, changed and ended. -/
inductive SourceCall where
  | register (token : Token) (wanted : Readiness)
  | reregister (token : Token) (wanted : Readiness)
  | deregister
deriving DecidableEq, Repr, Inhabited

/-- What an object or a callback can see of the loop while it runs. -/
structure Outlook (B C : Type) where
  changes : Changes B C
  stopped : Bool

/-- What `EventHandler::handle_event` leads to. -/
structure Reaction (B C W : Type) where
  body : B
  world : W
  requests : List (Request B) := []
  orders : List (Order B C) := []

/-- What running a `TimerCallback` leads to; `again` is what it returns. -/
structure Firing (B C W : Type) where
  again : Bool
  callback : C
  world : W
  orders : List (Order B C) := []

/-- How objects with bodies in `B` and callbacks in `C` act on a world `W`. -/
structure Conduct (B C W : Type) where
  /-- A call of a source: none, or why it failed. -/
  call : SourceCall → Event B → W → Option Trouble × W
  notify : Notice → Event B → Outlook B C → W → Reaction B C W
  fire : C → Outlook B C → W → Firing B C W
  level : W → Source → Level
  /-- A reading of the clock, in milliseconds. -/
  clock : W → Nat × W
  /-- Waiting for readiness, no longer than the given time. The flag says that something is ready
  already, so that there is nothing to wait for. -/
  wait : Bool → Option Nat → W → W
  /-- A readiness entry named a handle that nobody owns. -/
  unresolved : Handle → W → W
  /-- The end of an object. -/
  destroy : Event B → W → W

end EventLoop
