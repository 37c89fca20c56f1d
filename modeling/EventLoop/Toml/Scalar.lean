import EventLoop.Toml.Reader

/-!
Numbers and moments. A number has no leading zero and lets underscores stand between digits; an
integer fits sixty-four bits with sign; a float that only infinity could stand for is out of range.
A moment is a date, a time of day, or both with or without an offset, and must exist.
-/
namespace EventLoop.Toml

def isDecimal (c : Char) : Bool := '0' ≤ c && c ≤ '9'

/-- A digit, then digits, each perhaps after one underscore. Gives the digits alone. -/
def readDigits (isDigit : Char → Bool) : Nat → Reader (List Char)
  | 0, text => .ok ([], text)
  | fuel + 1, text =>
    match text with
    | c :: rest =>
      if isDigit c then
        match rest with
        | '_' :: next => do
          let (digits, rest) ← readDigits isDigit fuel next
          match digits with
          | [] => .error (.expected "a digit after the underscore")
          | _ => return (c :: digits, rest)
        | _ => do
          let (digits, rest) ← readDigits isDigit fuel rest
          return (c :: digits, rest)
      else .ok ([], text)
    | [] => .ok ([], text)

/-- One digit or more, underscores allowed between them. -/
def readDigitRun (isDigit : Char → Bool) : Reader (List Char) := fun text => do
  let (digits, rest) ← readDigits isDigit text.length text
  match digits with
  | [] => .error (.expected "a digit")
  | _ => return (digits, rest)

def valueOf (radix : Nat) (digits : List Char) : Nat :=
  digits.foldl (fun sum c =>
    radix * sum +
      (if isDecimal c then c.toNat - 48
       else if 'a' ≤ c && c ≤ 'f' then c.toNat - 87 else c.toNat - 55)) 0

/-- An integer must fit sixty-four bits with sign. -/
def integerInRange (value : Int) : Except Problem Value :=
  if -9223372036854775808 ≤ value ∧ value ≤ 9223372036854775807 then .ok (.integer value)
  else .error .outOfRange

/-- A sign, if there is one; true stands for minus. -/
def readSign : List Char → Bool × List Char
  | '-' :: rest => (true, rest)
  | '+' :: rest => (false, rest)
  | text => (false, text)

/-- Whether a decimal fraction, `digits` times a power of ten, is too large for a double: whether
it reaches the middle between the largest double and the next power of two. -/
def isInfinite (digits : Nat) (exponent : Int) : Bool :=
  if digits = 0 then false
  else if 400 < (toString digits).length + exponent then true
  else if (toString digits).length + exponent < 300 then false
  else
    let bound := Nat.pow 2 1024 - Nat.pow 2 970
    if 0 ≤ exponent then bound ≤ digits * Nat.pow 10 exponent.toNat
    else bound * Nat.pow 10 (-exponent).toNat ≤ digits

/-- The digits after a point. -/
def readFraction : Reader (List Char)
  | '.' :: rest => readDigitRun isDecimal rest
  | text => .ok ([], text)

/-- The power of ten, or none if there is no exponent. -/
def readExponent : Reader (Option Int)
  | c :: rest =>
    if c = 'e' || c = 'E' then do
      let (minus, rest) := readSign rest
      let (digits, rest) ← readDigitRun isDecimal rest
      let value : Int := valueOf 10 digits
      return (some (if minus then -value else value), rest)
    else .ok (none, c :: rest)
  | [] => .ok (none, [])

/-- A decimal number: an integer, or a float if it has a fraction or an exponent. -/
def readDecimal : Reader Value := fun text => do
  let (minus, rest) := readSign text
  match rest with
  | 'i' :: 'n' :: 'f' :: rest => return (.float "inf", rest)
  | 'n' :: 'a' :: 'n' :: rest => return (.float "nan", rest)
  | _ => do
    let (digits, rest) ← readDigitRun isDecimal rest
    if digits.head? = some '0' ∧ 1 < digits.length then
      .error (.expected "no leading zero")
    else do
      let (fraction, rest) ← readFraction rest
      let (exponent, rest) ← readExponent rest
      match fraction, exponent with
      | [], none => do
        let value : Int := valueOf 10 digits
        return (← integerInRange (if minus then -value else value), rest)
      | _, _ =>
        let power := exponent.getD 0 - fraction.length
        if !minus && isInfinite (valueOf 10 (digits ++ fraction)) power then .error .outOfRange
        else return (.float (String.ofList (digits ++ '.' :: fraction)), rest)

def isHexDigit (c : Char) : Bool :=
  isDecimal c || ('a' ≤ c && c ≤ 'f') || ('A' ≤ c && c ≤ 'F')

/-- A number. One in another base than ten has no sign. -/
def readNumber : Reader Value
  | '0' :: 'x' :: rest => do
    let (digits, rest) ← readDigitRun isHexDigit rest
    return (← integerInRange (valueOf 16 digits), rest)
  | '0' :: 'o' :: rest => do
    let (digits, rest) ← readDigitRun (fun c => '0' ≤ c && c ≤ '7') rest
    return (← integerInRange (valueOf 8 digits), rest)
  | '0' :: 'b' :: rest => do
    let (digits, rest) ← readDigitRun (fun c => c = '0' || c = '1') rest
    return (← integerInRange (valueOf 2 digits), rest)
  | text => readDecimal text

/-! ## Moments -/

/-- The number that exactly `count` decimal digits give. -/
def fixed? : Nat → Nat → List Char → Option (Nat × List Char)
  | 0, value, text => some (value, text)
  | count + 1, value, c :: rest =>
    if isDecimal c then fixed? count (10 * value + (c.toNat - 48)) rest else none
  | _ + 1, _, [] => none

def mark? (mark : Char) : List Char → Option (List Char)
  | c :: rest => if c = mark then some rest else none
  | [] => none

def isLeap (year : Nat) : Bool := year % 4 = 0 && (year % 100 ≠ 0 || year % 400 = 0)

/-- How many days a month has; none for a number that is no month. -/
def daysIn (year month : Nat) : Nat :=
  match month with
  | 1 | 3 | 5 | 7 | 8 | 10 | 12 => 31
  | 4 | 6 | 9 | 11 => 30
  | 2 => if isLeap year then 29 else 28
  | _ => 0

/-- Year, month and day with dashes between them. -/
def date? (text : List Char) : Option (List Char) := do
  let (year, text) ← fixed? 4 0 text
  let text ← mark? '-' text
  let (month, text) ← fixed? 2 0 text
  let text ← mark? '-' text
  let (day, text) ← fixed? 2 0 text
  if 1 ≤ day ∧ day ≤ daysIn year month then some text else none

/-- Hour, minute and second with colons between them, and perhaps a fraction of the second. A
minute may have a sixty-first second. -/
def timeOfDay? (text : List Char) : Option (List Char) := do
  let (hour, text) ← fixed? 2 0 text
  let text ← mark? ':' text
  let (minute, text) ← fixed? 2 0 text
  let text ← mark? ':' text
  let (second, text) ← fixed? 2 0 text
  if hour ≤ 23 ∧ minute ≤ 59 ∧ second ≤ 60 then
    match text with
    | '.' :: fraction =>
      match fraction.takeWhile isDecimal with
      | [] => none
      | _ => some (fraction.dropWhile isDecimal)
    | _ => some text
  else none

/-- The distance from universal time, if it is given. -/
def offset? : List Char → Option (List Char)
  | 'Z' :: rest => some rest
  | 'z' :: rest => some rest
  | c :: rest =>
    if c = '+' || c = '-' then do
      let (hour, rest) ← fixed? 2 0 rest
      let rest ← mark? ':' rest
      let (minute, rest) ← fixed? 2 0 rest
      if hour ≤ 23 ∧ minute ≤ 59 then some rest else none
    else some (c :: rest)
  | [] => some []

/-- Whether a text starts like a date or a time of day, so that it can be nothing else. -/
def startsMoment (text : List Char) : Bool :=
  ((fixed? 4 0 text).bind fun r => mark? '-' r.2).isSome ||
    ((fixed? 2 0 text).bind fun r => mark? ':' r.2).isSome

/-- Whether a text starts like a time of day. -/
def startsTime (text : List Char) : Bool :=
  ((fixed? 2 0 text).bind fun r => mark? ':' r.2).isSome

/-- A moment. After a date a blank starts a time of day only if one follows. -/
def moment? (text : List Char) : Option (List Char) :=
  match date? text with
  | none => timeOfDay? text
  | some rest =>
    match rest with
    | c :: next =>
      if (c = 'T' || c = 't' || c = ' ') && startsTime next then
        (timeOfDay? next).bind offset?
      else some rest
    | [] => some rest

def readMoment : Reader Value := fun text =>
  match moment? text with
  | some rest => .ok (.moment (String.ofList (text.take (text.length - rest.length))), rest)
  | none => .error (.expected "a moment that exists")

end EventLoop.Toml
