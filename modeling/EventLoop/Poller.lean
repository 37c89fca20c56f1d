import EventLoop.Keyed
import EventLoop.Readiness

/-!
An edge-triggered poller. It knows which sources are watched, for what, and under which token, and
keeps a queue of the sources at which something has happened, each at most once. Polling takes
sources off the front of the queue and reports those that are ready at that moment; a source is
queued again only by another happening.
-/
namespace EventLoop

/-- The number of a pollable source. No two sources share one. -/
abbrev Source := Nat

/-- What can be seen of a source. -/
structure Level where
  input : Bool := false
  output : Bool := false
  /-- The far end is gone, which is reported as input whatever is watched. -/
  hungUp : Bool := false
deriving DecidableEq, Repr, Inhabited

/-- The part of what is watched that is there. -/
def Readiness.at (watched : Readiness) (level : Level) : Readiness :=
  ⟨(watched.input && level.input) || level.hungUp, watched.output && level.output⟩

def Readiness.isAny (readiness : Readiness) : Bool := readiness.input || readiness.output

/-- What stands in the queue: the waker or a source. -/
inductive Mark where
  | waker
  | source (source : Source)
deriving DecidableEq, Repr, Inhabited

/-- One entry of a poll's result, with its token. -/
structure Ready where
  token : Token
  readiness : Readiness
deriving DecidableEq, Repr, Inhabited

/-- The `Poll` that a `Multiplexer` works with: what is watched, and the queue of what has
happened. -/
structure Poller where
  watched : Keyed Source (Token × Readiness) := {}
  queue : List Mark := []

namespace Poller

/-- Queues a mark unless it is queued already. -/
def enqueue (mark : Mark) (poller : Poller) : Poller :=
  if mark ∈ poller.queue then poller else { poller with queue := poller.queue ++ [mark] }

/-- What is watched of a source. -/
def readiness? (source : Source) (poller : Poller) : Option Readiness :=
  (poller.watched.get? source).map Prod.snd

/-- Tells the poller that `level` has come about at a source. -/
def happened (source : Source) (level : Level) (poller : Poller) : Poller :=
  match poller.readiness? source with
  | none => poller
  | some watched => if (watched.at level).isAny then poller.enqueue (.source source) else poller

/-- Watches a source, anew or for something else. What is there already counts as happening. -/
def watch (source : Source) (token : Token) (wanted : Readiness) (level : Level)
    (poller : Poller) : Poller :=
  { poller with watched := poller.watched.insert source (token, wanted) }.happened source level

/-- Stops watching a source and forgets what has happened at it. -/
def forget (source : Source) (poller : Poller) : Poller :=
  { watched := poller.watched.erase source
    queue := poller.queue.filter (· ≠ .source source) }

/-- `Waker::wake`: wakes a poll, the one that waits or the next one. -/
def wake (poller : Poller) : Poller := poller.enqueue .waker

/-- The entry for a mark, if it is ready. The waker always is. -/
def entry? (level : Source → Level) (poller : Poller) : Mark → Option Ready
  | .waker => some ⟨wakerToken, ⟨true, false⟩⟩
  | .source source =>
    match poller.watched.get? source with
    | none => none
    | some (token, watched) =>
      let readiness := watched.at (level source)
      if readiness.isAny then some ⟨token, readiness⟩ else none

/-- Goes through the queue until `room` entries are found: the entries, and what was not looked
at. -/
def collect (level : Source → Level) (poller : Poller) : Nat → List Mark → List Ready × List Mark
  | 0, marks => ([], marks)
  | _ + 1, [] => ([], [])
  | room + 1, mark :: marks =>
    match poller.entry? level mark with
    | none => collect level poller (room + 1) marks
    | some entry =>
      let (entries, rest) := collect level poller room marks
      (entry :: entries, rest)

/-- `Poll::poll`: one poll for at most `capacity` entries. -/
def poll (level : Source → Level) (capacity : Nat) (poller : Poller) : List Ready × Poller :=
  let (entries, rest) := collect level poller capacity poller.queue
  (entries, { poller with queue := rest })

/-- Whether a poll would find something at once. -/
def isPrompt (level : Source → Level) (poller : Poller) : Bool :=
  poller.queue.any fun mark => (poller.entry? level mark).isSome

end Poller

end EventLoop
