import EventLoop.Readiness

/-!
Everything that can go wrong, as causes. The wording of a cause is given in one place,
`Fault.message`; nothing else in the library decides by text.
-/
namespace EventLoop

/-- `Violation`: the ways in which an inbound frame breaks policy. Each is fatal for the stream it
came on and harmless for every other one. -/
inductive Violation where
  | unknownType (type : UInt32) (size : UInt64)
  | oversized (type : UInt32) (size limit : UInt64)
  | forbidden (type : UInt32)
  | malformed (type : UInt32) (reason : String)
  | closed
deriving DecidableEq, Repr, Inhabited

/-- The text of a `Violation`. -/
def Violation.message : Violation → String
  | .unknownType type size => s!"unknown protocol type {type} (declared size {size})"
  | .oversized type size limit =>
    s!"protocol type {type} declared size {size}, maximum is {limit}"
  | .forbidden type => s!"protocol type {type} is forbidden on this connection"
  | .malformed type reason => s!"protocol type {type} payload is malformed: {reason}"
  | .closed => "stream already closed by an earlier violation"

/-- What an `Error::InvalidArgument` says: an argument that a call cannot work with. -/
inductive Misuse where
  | emptyMask
  | noReadiness
  | negativeHandle
  | notRegistered
  | reservedSignal
  | alreadyStarted
  /-- A reason that the caller words itself. -/
  | worded (text : String)
deriving DecidableEq, Repr, Inhabited

/-- What an `Error::InvalidArgument` holds. -/
def Misuse.message : Misuse → String
  | .emptyMask => "interest mask is empty"
  | .noReadiness => "interest mask has no I/O readiness"
  | .negativeHandle => "handle is negative"
  | .notRegistered => "handle is not registered"
  | .reservedSignal => "signal cannot be handled"
  | .alreadyStarted => "server already started"
  | .worded text => text

/-- What an I/O error says: why reading, writing or another service of the operating system
failed. -/
inductive Trouble where
  | notConnected
  | unexpectedEnd
  /-- A reason given by the operating system, with its text. -/
  | system (text : String)
deriving DecidableEq, Repr, Inhabited

/-- The text of an I/O error. -/
def Trouble.message : Trouble → String
  | .notConnected => "not connected"
  | .unexpectedEnd => "unexpected end of file"
  | .system text => text

/-- `Error`: the causes of failure. -/
inductive Fault where
  /-- No poller could be made, so no loop can run. -/
  | noPoller (cause : Trouble)
  | invalidArgument (misuse : Misuse)
  /-- `operation` was asked of an object whose standing does not allow it. -/
  | invalidState (handle : Handle) (standing : Standing) (operation : String)
  /-- The operating system refused to change a registration. -/
  | refusedBySystem (handle : Handle) (cause : Trouble)
  | violation (breach : Violation)
  | duplicateType (type : UInt32)
  /-- A payload is no message of its type. -/
  | malformed (reason : String)
  | pollFailed (cause : Trouble)
  /-- The sink of decoded messages takes no more. -/
  | sinkClosed
  /-- The loop behind a request is gone. -/
  | loopGone
  | settings (reason : String)
  | io (cause : Trouble)
deriving DecidableEq, Repr, Inhabited

/-- The text of an `Error`. -/
def Fault.message : Fault → String
  | .noPoller cause => "failed to create polling context: " ++ cause.message
  | .invalidArgument misuse => "invalid argument: " ++ misuse.message
  | .invalidState handle standing operation =>
    "handle " ++ toString handle ++ " is " ++ standing.text ++ ", cannot " ++ operation
  | .refusedBySystem handle cause =>
    "registration syscall failed for handle " ++ toString handle ++ ": " ++ cause.message
  | .violation breach => "protocol violation: " ++ breach.message
  | .duplicateType type => s!"protocol type {type} is already registered"
  | .malformed reason => "malformed payload: " ++ reason
  | .pollFailed cause => "poll failed: " ++ cause.message
  | .sinkClosed => "dispatch sink is closed"
  | .loopGone => "reactor is gone"
  | .settings reason => "configuration error: " ++ reason
  | .io cause => "I/O error: " ++ cause.message

end EventLoop
