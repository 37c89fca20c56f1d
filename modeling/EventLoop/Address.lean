import EventLoop.Hex

/-!
Addresses of sockets: an internet address of either version and a port. Reading accepts the usual
text forms; writing gives one form for each address, with the longest run of zero groups of a
version 6 address left out and an address that wraps a version 4 one written as such.
-/
namespace EventLoop

/-- `SocketAddr`: where a socket is. A version 6 address has eight groups of sixteen bits. -/
inductive Address where
  | v4 (a b c d : Nat) (port : Nat)
  | v6 (groups : List Nat) (scope : Nat) (port : Nat)
deriving DecidableEq, Repr, Inhabited

namespace Address

/-- Whether `c` is a digit in base `radix`. -/
def isDigit (radix : Nat) (c : Char) : Bool :=
  match Hex.digitValue c with
  | some value => value < radix
  | none => false

/-! ## Reading -/

/-- A reader takes its part off the front of a text, or refuses. -/
abbrev Reader (α : Type) := List Char → Option (α × List Char)

/-- One given character. -/
def readMark (mark : Char) : Reader Unit
  | c :: rest => if c = mark then some ((), rest) else none
  | [] => none

/-- A number with all the digits that follow. Refuses more than `width` digits, a leading zero
unless zeros may lead, and values above `bound`. -/
def readNumber (radix : Nat) (width : Option Nat) (zerosLead : Bool) (bound : Nat) : Reader Nat :=
  fun text =>
    let digits := text.takeWhile (isDigit radix)
    let value := digits.foldl (fun sum c => radix * sum + (Hex.digitValue c).getD 0) 0
    let tooWide := match width with
      | some width => width < digits.length
      | none => false
    if digits.isEmpty || tooWide || (!zerosLead && digits.head? = some '0' && 1 < digits.length)
        || bound < value then none
    else some (value, text.dropWhile (isDigit radix))

/-- Four numbers below 256 with points between them. -/
def readV4 : Reader (Nat × Nat × Nat × Nat) := fun text => do
  let octet := readNumber 10 (some 3) false 255
  let (a, text) ← octet text
  let (_, text) ← readMark '.' text
  let (b, text) ← octet text
  let (_, text) ← readMark '.' text
  let (c, text) ← octet text
  let (_, text) ← readMark '.' text
  let (d, text) ← octet text
  return ((a, b, c, d), text)

/-- A colon, except in front of the first group. -/
def readSeparator (first : Bool) : Reader Unit :=
  fun text => if first then some ((), text) else readMark ':' text

/-- Up to `slots` groups with colons between them. Where two slots are left a version 4 address may
fill both, and ends the groups; the flag says so. -/
def readGroups : Nat → Bool → List Char → List Nat × Bool × List Char
  | 0, _, text => ([], false, text)
  | slots + 1, first, text =>
    let wrapped := if 1 ≤ slots then (readSeparator first text).bind fun r => readV4 r.2 else none
    match wrapped with
    | some ((a, b, c, d), rest) => ([256 * a + b, 256 * c + d], true, rest)
    | none =>
      match (readSeparator first text).bind fun r => readNumber 16 (some 4) true 65535 r.2 with
      | none => ([], false, text)
      | some (group, rest) =>
        let (groups, ended, rest) := readGroups slots false rest
        (group :: groups, ended, rest)

/-- Eight groups, or fewer with a double colon that stands for at least one group of zeros. -/
def readV6 : Reader (List Nat) := fun text =>
  let (head, wrapped, rest) := readGroups 8 true text
  if head.length = 8 then some (head, rest)
  else if wrapped then none
  else do
    let (_, rest) ← readMark ':' rest
    let (_, rest) ← readMark ':' rest
    let (tail, _, rest) := readGroups (7 - head.length) true rest
    return (head ++ List.replicate (8 - head.length - tail.length) 0 ++ tail, rest)

/-- A colon and a port. -/
def readPort : Reader Nat := fun text => do
  let (_, text) ← readMark ':' text
  readNumber 10 none true 65535 text

def readV4Socket : Reader Address := fun text => do
  let ((a, b, c, d), text) ← readV4 text
  let (port, text) ← readPort text
  return (.v4 a b c d port, text)

/-- A percent sign and a number; a text without them has scope zero. -/
def readScope (text : List Char) : Nat × List Char :=
  match (readMark '%' text).bind fun r => readNumber 10 none true 4294967295 r.2 with
  | some (scope, rest) => (scope, rest)
  | none => (0, text)

def readV6Socket : Reader Address := fun text => do
  let (_, text) ← readMark '[' text
  let (groups, text) ← readV6 text
  let (scope, text) := readScope text
  let (_, text) ← readMark ']' text
  let (port, text) ← readPort text
  return (.v6 groups scope port, text)

/-- `SocketAddr::from_str`: the address that a text gives, if all of the text is one. -/
def ofText? (text : String) : Option Address :=
  match (readV4Socket text.toList).orElse fun _ => readV6Socket text.toList with
  | some (address, []) => some address
  | _ => none

/-! ## Writing -/

/-- The runs of zero groups, as start and length, from the group with index `at` on. -/
def zeroRuns : Nat → List Nat → List (Nat × Nat)
  | _, [] => []
  | index, group :: rest =>
    if group ≠ 0 then zeroRuns (index + 1) rest
    else
      match zeroRuns (index + 1) rest with
      | (start, length) :: runs =>
        if start = index + 1 then (index, length + 1) :: runs
        else (index, 1) :: (start, length) :: runs
      | [] => [(index, 1)]

/-- The first of the longest runs, if it leaves out more than one group. -/
def longestRun (groups : List Nat) : Option (Nat × Nat) :=
  let best := (zeroRuns 0 groups).foldl
    (fun best run => if best.2 < run.2 then run else best) (0, 0)
  if 1 < best.2 then some best else none

def hexText (n : Nat) : String := String.ofList (Nat.toDigits 16 n)

def groupsText (groups : List Nat) : String := ":".intercalate (groups.map hexText)

def v4Text (a b c d : Nat) : String :=
  ".".intercalate [toString a, toString b, toString c, toString d]

def v6Text (groups : List Nat) : String :=
  match groups with
  | [0, 0, 0, 0, 0, 65535, high, low] =>
    "::ffff:" ++ v4Text (high / 256) (high % 256) (low / 256) (low % 256)
  | _ =>
    match longestRun groups with
    | none => groupsText groups
    | some (start, length) =>
      groupsText (groups.take start) ++ "::" ++ groupsText (groups.drop (start + length))

/-- `SocketAddr::fmt`: the text of an address. A scope is shown unless it is zero. -/
def text : Address → String
  | .v4 a b c d port => v4Text a b c d ++ ":" ++ toString port
  | .v6 groups scope port =>
    let suffix := if scope = 0 then "" else "%" ++ toString scope
    "[" ++ v6Text groups ++ suffix ++ "]:" ++ toString port

/-- Whether the address is one of the machine itself. -/
def isLoopback : Address → Bool
  | .v4 a _ _ _ _ => a = 127
  | .v6 groups _ _ => groups = [0, 0, 0, 0, 0, 0, 0, 1]

end Address

end EventLoop
