import EventLoop.Dispatch
import EventLoop.Session.Roster
import EventLoop.Trial.Log

/-!
The messages of the trials. Between them they use every freedom that messages have: several lanes,
two kinds that want the same type, handlers that answer, fail, break off, change their message or
close their session, payloads read in part, and one kind that can only be sent.
-/
namespace EventLoop.Trial

inductive Telegram where
  | ping (seq lane : UInt32)
  | pong (seq : UInt32)
  | tally (value : UInt32)
  | blob (shard : UInt32) (data : List UInt8)
  | echo (value : UInt64)
  | failing
  | boom
  | lazy (first : UInt8)
  | quit (code : UInt8)
  /-- Any payload under any type. -/
  | raw (type : UInt32) (payload : List UInt8)
deriving DecidableEq, Repr, Inhabited

namespace Telegram

def name : Telegram → String
  | ping .. => "ping"
  | pong _ => "pong"
  | tally _ => "tally"
  | blob .. => "blob"
  | echo _ => "echo"
  | failing => "failing"
  | boom => "boom"
  | lazy _ => "lazy"
  | quit _ => "quit"
  | raw .. => "raw"

def type : Telegram → UInt32
  | ping .. => 7
  | pong _ => 8
  | tally _ => 20
  | blob .. => 1
  | echo _ => 1
  | failing => 40
  | boom => 41
  | lazy _ => 50
  | quit _ => 60
  | raw type _ => type

def group : Telegram → UInt64
  | ping _ lane => lane.toUInt64
  | blob shard _ => shard.toUInt64
  | boom => 3
  | lazy first => first.toUInt64
  | _ => 0

def payload : Telegram → List UInt8
  | ping seq lane => bigEndian 4 seq.toNat ++ bigEndian 4 lane.toNat
  | pong seq => bigEndian 4 seq.toNat
  | tally value => bigEndian 4 value.toNat
  | blob shard data => bigEndian 4 shard.toNat ++ data
  | echo value => bigEndian 8 value.toNat
  | failing => []
  | boom => []
  | lazy first => [first]
  | quit code => [code]
  | raw _ payload => payload

instance : Message Telegram := ⟨type, name, group, payload⟩

/-! ## Reading payloads -/

/-- The number in the first `width` bytes, and the rest. -/
def number (width : Nat) (payload : List UInt8) : Nat × List UInt8 :=
  (ofBigEndian (payload.take width), payload.drop width)

/-- Reads a payload of which at least `needed` bytes must be there. -/
def reading (name : String) (needed : Nat) (read : List UInt8 → Telegram × List UInt8)
    (payload : List UInt8) : Except Fault (Telegram × List UInt8) := do
  ensureRemaining payload needed name
  return read payload

/-- The type, the limit and the way to read of each kind that can be received. -/
def listings : List (UInt32 × Listing Telegram) := [
  (7, ⟨"ping", 64, reading "ping" 8 fun payload =>
    let (seq, rest) := number 4 payload
    let (lane, rest) := number 4 rest
    (ping (UInt32.ofNat seq) (UInt32.ofNat lane), rest)⟩),
  (8, ⟨"pong", 16, reading "pong" 4 fun payload =>
    let (seq, rest) := number 4 payload
    (pong (UInt32.ofNat seq), rest)⟩),
  (20, ⟨"tally", 4, reading "tally" 4 fun payload =>
    let (value, rest) := number 4 payload
    (tally (UInt32.ofNat value), rest)⟩),
  (1, ⟨"blob", 65536, reading "blob" 4 fun payload =>
    let (shard, rest) := number 4 payload
    (blob (UInt32.ofNat shard) rest, [])⟩),
  (1, ⟨"echo", 8, reading "echo" 8 fun payload =>
    let (value, rest) := number 8 payload
    (echo (UInt64.ofNat value), rest)⟩),
  (40, ⟨"failing", 0, fun payload => .ok (failing, payload)⟩),
  (41, ⟨"boom", 4, fun payload => .ok (boom, payload)⟩),
  (50, ⟨"lazy", 300, reading "lazy" 1 fun payload =>
    let (first, rest) := number 1 payload
    (lazy (UInt8.ofNat first), rest)⟩),
  (60, ⟨"quit", 1, reading "quit" 1 fun payload =>
    let (code, rest) := number 1 payload
    (quit (UInt8.ofNat code), rest)⟩)]

/-- The listing of a kind, under its own type. -/
def listing? (name : String) : Option (UInt32 × Listing Telegram) :=
  listings.find? fun listing => listing.2.name = name

/-- Ways to read that always fail, each with a fault of another sort. -/
def refusal? : String → Option (List UInt8 → Except Fault (Telegram × List UInt8))
  | "reject" => some fun payload =>
    .error (.malformed ("rejected " ++ toString payload.length ++ " bytes"))
  | "ioerr" => some fun _ => .error (.io .unexpectedEnd)
  | "violate" => some fun _ => .error (.violation (.forbidden 3))
  | _ => none

/-- A way to read by name: that of a kind, or one that fails. -/
def reader? (name : String) : Option (List UInt8 → Except Fault (Telegram × List UInt8)) :=
  match listing? name with
  | some (_, listing) => some listing.unpack
  | none => refusal? name

end Telegram

/-- What the handlers and the sink of a trial can reach besides the sessions: the log, the names of
destroyed things, the tasks kept for later, and how many more tasks will be taken. -/
structure Desk where
  log : List Entry := []
  dropped : List String := []
  kept : List (Errand Telegram) := []
  room : Option Nat := none
  inline : Bool := false

/-- All that a handler can reach. -/
abbrev Office := Sessions × Desk

def Desk.note (entry : Entry) (desk : Desk) : Desk := { desk with log := desk.log ++ [entry] }

/-- Notes that a handler was run. -/
def noteRun (message : Telegram) (detail : Detail) (session : Nat) (office : Office) : Office :=
  let id := match office.1.get? session with
    | some session => session.id
    | none => 0
  (office.1, office.2.note (.ran message.name detail id))

/-- Sends from within a handler. -/
def sendFrom (message : Telegram) (session : Nat) (office : Office) :
    Except Fault Unit × Office :=
  let (outcome, sessions) := office.1.send message session
  (outcome, sessions, office.2)

/-- How a handler ends whose last act was to send. -/
def endingOf : Except Fault Unit → Ending
  | .ok () => .done
  | .error fault => .failed fault.message

/-- Runs the handler of a telegram. -/
def Telegram.run (message : Telegram) (session : Nat) (office : Office) :
    Ending × Telegram × Office :=
  match message with
  | .ping seq _ =>
    let office := noteRun message (.number seq.toNat) session office
    let (outcome, office) := sendFrom (.pong seq) session office
    (endingOf outcome, message, office)
  | .pong seq => (.done, message, noteRun message (.number seq.toNat) session office)
  | .tally value =>
    let value := value + 100
    (.done, .tally value, noteRun message (.number value.toNat) session office)
  | .blob shard data => (.done, message, noteRun message (.shard shard.toNat data) session office)
  | .echo value =>
    let office := noteRun message (.number value.toNat) session office
    let (outcome, office) := sendFrom message session office
    (endingOf outcome, message, office)
  | .failing => (.failed "handler refused", message, noteRun message .nothing session office)
  | .boom => (.brokeOff, message, noteRun message .nothing session office)
  | .lazy first => (.done, message, noteRun message (.number first.toNat) session office)
  | .quit code =>
    let (sessions, desk) := noteRun message (.number code.toNat) session office
    let (outcome, sessions, desk) :=
      sendFrom (.pong code.toUInt32) session (sessions.close session, desk)
    (.done, message, sessions, desk.note (.replied outcome))
  | .raw .. => (.done, message, office)

/-- Destroys a telegram. Only one kind leaves a trace. -/
def Telegram.destroy (message : Telegram) (office : Office) : Office :=
  match message with
  | .failing => (office.1, { office.2 with dropped := office.2.dropped ++ ["failing"] })
  | _ => office

/-- The names that telegrams leave when they are destroyed. -/
def Telegram.traces (messages : List Telegram) : List String :=
  (messages.foldl (fun office message => message.destroy office)
    (({} : Sessions), ({} : Desk))).2.dropped

/-- How telegrams act. -/
def telegrams : Trade Telegram Office := ⟨Telegram.run, Telegram.destroy⟩

/-- Performs a task and notes if its handler breaks off. -/
def performNoted (task : Errand Telegram) (office : Office) : Office :=
  match task.perform telegrams office with
  | (.brokeOff, sessions, desk) => (sessions, desk.note .brokeOff)
  | (_, office) => office

/-- The sink of the trials: takes tasks while there is room, and performs them at once or keeps
them. A task that is not taken is destroyed. -/
def sink : Sink Telegram Office where
  submit group task office :=
    let (sessions, desk) := office
    if desk.room = some 0 then (.error .sinkClosed, task.message.destroy office)
    else
      let desk := { desk.note (.submitted group) with room := desk.room.map (· - 1) }
      if desk.inline then (.ok (), performNoted task (sessions, desk))
      else (.ok (), sessions, { desk with kept := desk.kept ++ [task] })

/-- Performs up to `most` kept tasks, in order, and counts them. -/
def performKept : Nat → Office → Nat × Office
  | 0, office => (0, office)
  | most + 1, (sessions, desk) =>
    match desk.kept with
    | [] => (0, sessions, desk)
    | task :: rest =>
      let (count, office) :=
        performKept most (performNoted task (sessions, { desk with kept := rest }))
      (count + 1, office)

end EventLoop.Trial
