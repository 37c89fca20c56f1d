import EventLoop.Toml.Value

/-!
Reading the small parts of a document: blanks, line ends, comments, keys and strings. A reader
takes its part off the front of the text and gives the rest, or says why it cannot.
-/
namespace EventLoop.Toml

/-- A reader takes its part off the front of a text. -/
abbrev Reader (α : Type) := List Char → Except Problem (α × List Char)

def isBlank (c : Char) : Bool := c = ' ' || c = '\t'

/-- Characters that may stand in comments and in strings of one line: all but control characters,
and a tab. -/
def isPlain (c : Char) : Bool := c = '\t' || (' ' ≤ c && c ≠ '\x7f')

def skipBlanks (text : List Char) : List Char := text.dropWhile isBlank

/-- The rest after a line end, if the text starts with one. -/
def newline? : List Char → Option (List Char)
  | '\n' :: rest => some rest
  | '\r' :: '\n' :: rest => some rest
  | _ => none

/-- Skips a comment up to its line end, which stays. -/
def skipComment : List Char → List Char
  | '#' :: rest => rest.dropWhile isPlain
  | text => text

/-- The rest of a line after its last part: blanks, perhaps a comment, and the line end or the end
of the text. -/
def endLine (text : List Char) : Except Problem (List Char) :=
  match skipComment (skipBlanks text) with
  | [] => .ok []
  | rest =>
    match newline? rest with
    | some rest => .ok rest
    | none => .error (.expected "the end of the line")

/-- Skips blanks, comments and line ends. `fuel` bounds the lines, of which there are no more than
characters. -/
def skipLines : Nat → List Char → List Char
  | 0, text => text
  | fuel + 1, text =>
    let rest := skipComment (skipBlanks text)
    match newline? rest with
    | some rest => skipLines fuel rest
    | none => rest

/-- Skips blanks, comments and line ends. -/
def skipSpace (text : List Char) : List Char := skipLines text.length text

/-! ## Strings -/

/-- The value of `count` hexadecimal digits. -/
def readHex : Nat → Nat → Reader Nat
  | 0, value, text => .ok (value, text)
  | count + 1, value, c :: rest =>
    if '0' ≤ c ∧ c ≤ '9' then readHex count (16 * value + (c.toNat - 48)) rest
    else if 'a' ≤ c ∧ c ≤ 'f' then readHex count (16 * value + (c.toNat - 87)) rest
    else if 'A' ≤ c ∧ c ≤ 'F' then readHex count (16 * value + (c.toNat - 55)) rest
    else .error (.expected "a hexadecimal digit")
  | _ + 1, _, [] => .error (.expected "a hexadecimal digit")

/-- The character with the number that `count` hexadecimal digits give. -/
def readCodePoint (count : Nat) : Reader Char := fun text => do
  let (value, rest) ← readHex count 0 text
  if h : Nat.isValidChar value then return (Char.ofNatAux value h, rest)
  else .error (.expected "a character number")

/-- What stands after a backslash. -/
def readEscape : Reader Char
  | 'b' :: rest => .ok ('\x08', rest)
  | 't' :: rest => .ok ('\t', rest)
  | 'n' :: rest => .ok ('\n', rest)
  | 'f' :: rest => .ok ('\x0c', rest)
  | 'r' :: rest => .ok ('\r', rest)
  | '"' :: rest => .ok ('"', rest)
  | '\\' :: rest => .ok ('\\', rest)
  | 'u' :: rest => readCodePoint 4 rest
  | 'U' :: rest => readCodePoint 8 rest
  | _ => .error (.expected "an escape")

/-- The rest of a basic string after its opening quote. -/
def readBasic : Nat → List Char → Reader String
  | 0, _, _ => .error (.expected "a closing quote")
  | fuel + 1, seen, text =>
    match text with
    | '"' :: rest => .ok (String.ofList seen.reverse, rest)
    | '\\' :: rest => do
      let (c, rest) ← readEscape rest
      readBasic fuel (c :: seen) rest
    | c :: rest =>
      if isPlain c then readBasic fuel (c :: seen) rest
      else .error (.expected "a character of a string")
    | [] => .error (.expected "a closing quote")

/-- The rest of a literal string after its opening quote. -/
def readLiteral (text : List Char) : Except Problem (String × List Char) :=
  let content := text.takeWhile fun c => isPlain c && c ≠ '\''
  match text.dropWhile (fun c => isPlain c && c ≠ '\'') with
  | '\'' :: rest => .ok (String.ofList content, rest)
  | _ => .error (.expected "a closing quote")

/-- Drops the line end right after the opening quotes of a string of several lines. -/
def dropFirstNewline (text : List Char) : List Char := (newline? text).getD text

/-- Skips blanks and line ends, as a backslash at the end of a line does. -/
def skipFold : Nat → List Char → List Char
  | 0, text => text
  | fuel + 1, text =>
    let rest := skipBlanks text
    match newline? rest with
    | some rest => skipFold fuel rest
    | none => rest

/-- The closing quotes of a string of several lines: three end it, and up to two more in front of
them belong to it. Gives how many belong to it. -/
def closing? (quote : Char) (text : List Char) : Option (Nat × List Char) :=
  let quotes := (text.takeWhile (· = quote)).length
  if quotes < 3 then none else some (min (quotes - 3) 2, text.drop (min quotes 5))

/-- The rest of a string of several lines after its opening quotes. Backslashes count only in a
basic string. -/
def readLong (quote : Char) (escapes : Bool) : Nat → List Char → Reader String
  | 0, _, _ => .error (.expected "closing quotes")
  | fuel + 1, seen, text =>
    match closing? quote text with
    | some (own, rest) =>
      .ok (String.ofList (List.replicate own quote ++ seen).reverse, rest)
    | none =>
      match newline? text with
      | some rest => readLong quote escapes fuel ('\n' :: seen) rest
      | none =>
        match text with
        | '\\' :: rest =>
          if escapes then
            match newline? (skipBlanks rest) with
            | some next => readLong quote escapes fuel seen (skipFold next.length next)
            | none => do
              let (c, rest) ← readEscape rest
              readLong quote escapes fuel (c :: seen) rest
          else readLong quote escapes fuel ('\\' :: seen) rest
        | c :: rest =>
          if isPlain c then readLong quote escapes fuel (c :: seen) rest
          else .error (.expected "a character of a string")
        | [] => .error (.expected "closing quotes")

/-- A string in quotes of any of the four kinds. -/
def readString : Reader String
  | '"' :: '"' :: '"' :: rest =>
    readLong '"' true (rest.length + 1) [] (dropFirstNewline rest)
  | '\'' :: '\'' :: '\'' :: rest =>
    readLong '\'' false (rest.length + 1) [] (dropFirstNewline rest)
  | '"' :: rest => readBasic (rest.length + 1) [] rest
  | '\'' :: rest => readLiteral rest
  | _ => .error (.expected "a string")

/-! ## Keys -/

/-- Keys may be written bare if they have only these characters. -/
def isBare (c : Char) : Bool := c.isAlphanum || c = '_' || c = '-'

/-- One key, bare or in quotes of one line. -/
def readKey : Reader String
  | '"' :: rest => readBasic (rest.length + 1) [] rest
  | '\'' :: rest => readLiteral rest
  | text =>
    match text.takeWhile isBare with
    | [] => .error (.expected "a key")
    | bare => .ok (String.ofList bare, text.dropWhile isBare)

/-- How deep keys may be dotted and values nested. -/
def depthLimit : Nat := 80

/-- Keys with points between them, and blanks around the points and the whole. -/
def readPath : Nat → Reader (List String)
  | 0, _ => .error .tooDeep
  | fuel + 1, text => do
    let (key, rest) ← readKey (skipBlanks text)
    match skipBlanks rest with
    | '.' :: rest => do
      let (path, rest) ← readPath fuel rest
      return (key :: path, rest)
    | rest => return ([key], rest)

end EventLoop.Toml
