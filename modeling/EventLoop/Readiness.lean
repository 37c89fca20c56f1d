/-!
What an object can ask of the loop and what the loop can tell it: the interest mask, the part of
it that a poller understands, the kinds of notification, the handle that names an object, the
token that a poller hands back for it, and how far an object's registration has come.
-/
namespace EventLoop

/-- `Handle`: the number that names a registered object, as the operating system numbers its
files. -/
abbrev Handle := Int32

/-- `Token`: what a poller is given with a registration and hands back with each readiness entry. -/
abbrev Token := UInt64

/-- The token of a handle. Negative handles would collide with the waker's token and are refused
before they get here. -/
def Handle.token (handle : Handle) : Token := handle.toInt64.toUInt64

/-- The handle that a token stands for. -/
def Token.handle (token : Token) : Handle := token.toInt64.toInt32

/-- `WAKE_TOKEN`: the token of the loop's own waker. No handle that is not negative reaches it. -/
def wakerToken : Token := 18446744073709551615

/-- `Interest`: a set of wishes, one bit each. Bits without a name are kept as they are. -/
structure Interest where
  bits : UInt8
deriving DecidableEq, Repr, Inhabited

namespace Interest

/-- `Interest::empty`. -/
def none : Interest := ⟨0⟩
/-- `Interest::ACCEPT`: read readiness, reported as a connection waiting to be accepted. -/
def accept : Interest := ⟨1⟩
/-- `Interest::READABLE`. -/
def readable : Interest := ⟨2⟩
/-- `Interest::WRITABLE`. -/
def writable : Interest := ⟨4⟩
/-- `Interest::HANGUP`: read readiness, for the sake of learning that the far end is gone. -/
def hangup : Interest := ⟨8⟩
/-- `Interest::TIMER`: a timer notification. The loop serves it; no poller ever sees it. -/
def timer : Interest := ⟨16⟩

def union (a b : Interest) : Interest := ⟨a.bits ||| b.bits⟩
def without (a b : Interest) : Interest := ⟨a.bits &&& ~~~b.bits⟩
def isEmpty (a : Interest) : Bool := a.bits == 0
/-- `Interest::contains`: whether every bit of `b` is in `a`. -/
def includes (a b : Interest) : Bool := a.bits &&& b.bits == b.bits
/-- `Interest::intersects`: whether some bit of `b` is in `a`. -/
def meets (a b : Interest) : Bool := !(a.bits &&& b.bits == 0)

/-- The wish of a connection that has something to send. -/
def both : Interest := readable.union writable

end Interest

/-- What a poller can watch a source for, which its own kind of interest says. -/
structure Readiness where
  input : Bool
  output : Bool
deriving DecidableEq, Repr, Inhabited

/-- `Interest::to_mio`: the part of a mask that a poller understands; none if there is no such
part. -/
def Interest.readiness? (mask : Interest) : Option Readiness :=
  let input := mask.meets ((Interest.accept.union .readable).union .hangup)
  let output := mask.includes .writable
  if input || output then some ⟨input, output⟩ else Option.none

/-- `EventKind`: the kinds of notification. -/
inductive Notice where
  | accept
  | readable
  | writable
  | timer
deriving DecidableEq, Repr, Inhabited

/-- `EventKind::fmt`: the text of a kind. -/
def Notice.text : Notice → String
  | .accept => "accept"
  | .readable => "readable"
  | .writable => "writable"
  | .timer => "timer"

/-- `RegistrationState`: how far an object's registration has come. `rearming` is its
`ModifyPending`, held only while a registration is being changed, and no registration call is
accepted from it. -/
inductive Standing where
  | absent
  | added
  | rearming
deriving DecidableEq, Repr, Inhabited

/-- The name of a `RegistrationState` as error texts show it. -/
def Standing.text : Standing → String
  | .absent => "None"
  | .added => "Added"
  | .rearming => "ModifyPending"

end EventLoop
