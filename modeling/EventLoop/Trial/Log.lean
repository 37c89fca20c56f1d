import EventLoop.Fault

/-!
What a trial writes down while it runs. A trial exercises the library in surroundings that follow
a script; its log holds, in order, all that the scripted parts saw and did.
-/
namespace EventLoop.Trial

/-- What a step answers to the script. -/
inductive Reply where
  | outcome (outcome : Except Fault Unit)
  | flag (value : Bool)
deriving Inhabited

/-- What the handler of a message was run on. -/
inductive Detail where
  | nothing
  | number (value : Nat)
  | shard (shard : Nat) (data : List UInt8)
deriving DecidableEq, Repr, Inhabited

/-- The calls that a source gets. -/
inductive CallName where
  | register
  | reregister
  | deregister
deriving DecidableEq, Repr, Inhabited

def CallName.text : CallName → String
  | .register => "register"
  | .reregister => "reregister"
  | .deregister => "deregister"

/-- One entry of a log. -/
inductive Entry where
  | ran (name : String) (detail : Detail) (session : UInt64)
  | submitted (group : UInt64)
  | brokeOff
  | replied (outcome : Except Fault Unit)
  /-- A call of a source, with the token and the readiness it was given. -/
  | called (call : CallName) (id : String) (wanted : Option (Token × Readiness))
  | event (id : String) (notice : Notice)
  | asked (handle : Handle) (removed : Bool)
  | counted (size : Nat)
  | drained (id : String) (bytes : Nat) (ended : Bool)
  | requested (name : String) (reply : Reply)
  | callback (id : String) (run : Nat)
  | signal (number : Int)
  | turn (index : Nat)
  | unresolved (handle : Handle)
deriving Inhabited

end EventLoop.Trial
