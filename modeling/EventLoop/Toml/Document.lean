import EventLoop.Toml.Scalar

/-!
Whole documents. A document is a sequence of lines, each empty, a header or a key with its value;
values may nest up to a limit. `Document.ofText` gives the table that a text describes.
-/
namespace EventLoop.Toml

/-- Reads elements up to the closing mark. `element` reads one; after it stands a comma or the
mark. `skip` passes over what may stand around elements, and `trailing` says whether a comma may
stand before the mark. -/
def readElements {α : Type} (element : Reader α) (skip : List Char → List Char) (mark : Char)
    (trailing : Bool) : Nat → Reader (List α)
  | 0, _ => .error (.expected "a closing bracket")
  | fuel + 1, text => do
    let (item, rest) ← element (skip text)
    match skip rest with
    | ',' :: rest =>
      match skip rest with
      | c :: next =>
        if c = mark && trailing then return ([item], next)
        else do
          let (items, rest) ← readElements element skip mark trailing fuel (c :: next)
          return (item :: items, rest)
      | [] => .error (.expected "a closing bracket")
    | c :: rest =>
      if c = mark then return ([item], rest) else .error (.expected "a comma")
    | [] => .error (.expected "a closing bracket")

/-- Elements between brackets, perhaps none; the opening one has been read. -/
def readBracketed {α : Type} (element : Reader α) (skip : List Char → List Char) (mark : Char)
    (trailing : Bool) : Reader (List α) := fun text =>
  match skip text with
  | c :: rest =>
    if c = mark then .ok ([], rest)
    else readElements element skip mark trailing text.length (c :: rest)
  | [] => .error (.expected "a closing bracket")

/-- A dotted key, an equals sign and a value. -/
def readPair (value : Reader Value) : Reader (List String × Value) := fun text => do
  let (path, rest) ← readPath (depthLimit - 1) text
  match rest with
  | '=' :: rest => do
    let (item, rest) ← value (skipBlanks rest)
    return ((path, item), rest)
  | _ => .error (.expected "an equals sign")

/-- A value. Arrays and tables within it may nest to the given depth. -/
def readValue : Nat → Reader Value
  | depth, text =>
    match text with
    | '"' :: _ | '\'' :: _ => do
      let (content, rest) ← readString text
      return (.string content, rest)
    | '[' :: rest =>
      match depth with
      | 0 => .error .tooDeep
      | depth + 1 => do
        let (items, rest) ← readBracketed (readValue depth) skipSpace ']' true rest
        return (.array items, rest)
    | '\x7b' :: rest =>
      match depth with
      | 0 => .error .tooDeep
      | depth + 1 => do
        let (pairs, rest) ← readBracketed (readPair (readValue depth)) skipBlanks '\x7d' false rest
        let entries ← pairs.foldlM (fun entries pair => Entries.enter [] pair.1 pair.2 entries) []
        return (.table .inline entries, rest)
    | 't' :: 'r' :: 'u' :: 'e' :: rest => .ok (.boolean true, rest)
    | 'f' :: 'a' :: 'l' :: 's' :: 'e' :: rest => .ok (.boolean false, rest)
    | 'i' :: 'n' :: 'f' :: rest => .ok (.float "inf", rest)
    | 'n' :: 'a' :: 'n' :: rest => .ok (.float "nan", rest)
    | c :: _ =>
      if startsMoment text then readMoment text
      else if isDecimal c || c = '+' || c = '-' then readNumber text
      else .error (.expected "a value")
    | [] => .error (.expected "a value")

/-- A document under construction: its table, and the path of the header in force. -/
structure Draft where
  root : Entries := []
  header : List String := []

/-- One line that is not empty. -/
def readLine (draft : Draft) (text : List Char) : Except Problem (Draft × List Char) :=
  match text with
  | '[' :: '[' :: rest => do
    let (path, rest) ← readPath (depthLimit - 1) rest
    match rest with
    | ']' :: ']' :: rest => do
      let (front, key) := Entries.splitLast path
      let root ← Entries.followHeader (Entries.openElement key) front draft.root
      return (⟨root, path⟩, ← endLine rest)
    | _ => .error (.expected "closing brackets")
  | '[' :: rest => do
    let (path, rest) ← readPath (depthLimit - 1) rest
    match rest with
    | ']' :: rest => do
      let (front, key) := Entries.splitLast path
      let root ← Entries.followHeader (Entries.openTable key) front draft.root
      return (⟨root, path⟩, ← endLine rest)
    | _ => .error (.expected "a closing bracket")
  | _ => do
    let ((path, value), rest) ← readPair (readValue (depthLimit - 1)) text
    let root ← Entries.enter draft.header path value draft.root
    return ({ draft with root }, ← endLine rest)

/-- The lines of a document. `fuel` bounds them, and there are no more than characters. -/
def readLines : Nat → Draft → List Char → Except Problem Entries
  | 0, draft, [] => .ok draft.root
  | 0, _, _ => .error (.expected "the end of the text")
  | fuel + 1, draft, text =>
    match skipSpace text with
    | [] => .ok draft.root
    | rest => do
      let (draft, rest) ← readLine draft rest
      readLines fuel draft rest

/-- The table that a text describes, as `toml::from_str` reads it. A byte order mark at its start is
passed over. -/
def Document.ofText (text : String) : Except Problem Entries :=
  let body := match text.toList with
    | '\ufeff' :: rest => rest
    | body => body
  readLines body.length {} body

end EventLoop.Toml
