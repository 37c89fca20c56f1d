/-!
Documents of the TOML format, version 1.0, as values, and the rules by which keys and headers build
up tables: each table is defined once, a table that only came about on the way to another one may
still be defined by a header, and what dotted keys built no header may take over.
-/
namespace EventLoop.Toml

/-- Why a text is no document. -/
inductive Problem where
  | expected (what : String)
  | duplicateKey (key : String)
  | notATable (key : String)
  | outOfRange
  | tooDeep
deriving DecidableEq, Repr, Inhabited

def Problem.message : Problem → String
  | .expected what => "expected " ++ what
  | .duplicateKey key => "duplicate key " ++ key
  | .notATable key => "key " ++ key ++ " is no table"
  | .outOfRange => "number out of range"
  | .tooDeep => "nested too deeply"

/-- How a table came about. -/
inductive Origin where
  /-- By a header of its own; the document itself counts as such. -/
  | header
  /-- On the way to a deeper header. -/
  | implied
  /-- By dotted keys. -/
  | dotted
  /-- As a value, complete where it stands. -/
  | inline
deriving DecidableEq, Repr, Inhabited

/-- The values. Floats and moments are kept as the text that gave them. -/
inductive Value where
  | string (text : String)
  | integer (value : Int)
  | float (text : String)
  | boolean (value : Bool)
  | moment (text : String)
  | array (items : List Value)
  | table (origin : Origin) (entries : List (String × Value))
  /-- A list of tables given by double-bracket headers, the last one first. -/
  | tables (last : List (String × Value)) (earlier : List (List (String × Value)))
deriving Inhabited

/-- The entries of a table, in order of definition. -/
abbrev Entries := List (String × Value)

namespace Entries

/-- The value of a key. -/
def get? (entries : Entries) (key : String) : Option Value :=
  (entries.find? (fun entry => entry.1 = key)).map Prod.snd

/-- Writes a value in place of the one the key has, or at the end. -/
def put (entries : Entries) (key : String) (value : Value) : Entries :=
  if entries.any (fun entry => entry.1 = key) then
    entries.map fun entry => if entry.1 = key then (key, value) else entry
  else entries ++ [(key, value)]

/-- Follows a header's path and changes the table at its end. Missing tables are implied; of a list
of tables the last one is meant. -/
def followHeader (change : Entries → Except Problem Entries) :
    List String → Entries → Except Problem Entries
  | [], entries => change entries
  | key :: path, entries =>
    match get? entries key with
    | none => do
      return put entries key (.table .implied (← followHeader change path []))
    | some (.table .inline _) => .error (.notATable key)
    | some (.table origin inner) => do
      return put entries key (.table origin (← followHeader change path inner))
    | some (.tables last earlier) => do
      return put entries key (.tables (← followHeader change path last) earlier)
    | some _ => .error (.notATable key)

/-- Follows the front keys of a dotted key and changes the table at their end. Only tables that
dotted keys built can be entered, and missing ones are built. -/
def followDotted (change : Entries → Except Problem Entries) :
    List String → Entries → Except Problem Entries
  | [], entries => change entries
  | key :: path, entries =>
    match get? entries key with
    | none => do
      return put entries key (.table .dotted (← followDotted change path []))
    | some (.table .dotted inner) => do
      return put entries key (.table .dotted (← followDotted change path inner))
    | some (.table .implied inner) =>
      -- a table on the way to a header can be passed through, but not filled
      match path with
      | [] => .error (.duplicateKey key)
      | _ => do return put entries key (.table .implied (← followDotted change path inner))
    | some (.tables last earlier) =>
      match path with
      | [] => .error (.duplicateKey key)
      | _ => do return put entries key (.tables (← followDotted change path last) earlier)
    | some (.table _ _) => .error (.duplicateKey key)
    | some _ => .error (.notATable key)

/-- Adds a value under a key that has none. -/
def define (key : String) (value : Value) (entries : Entries) : Except Problem Entries :=
  match get? entries key with
  | none => .ok (entries ++ [(key, value)])
  | some _ => .error (.duplicateKey key)

/-- Defines the table `key` by a header: it must be new, or only implied so far. -/
def openTable (key : String) (entries : Entries) : Except Problem Entries :=
  match get? entries key with
  | none => .ok (entries ++ [(key, .table .header [])])
  | some (.table .implied inner) => .ok (put entries key (.table .header inner))
  | some _ => .error (.duplicateKey key)

/-- Adds a fresh table to the list of tables `key`, which must be new or such a list. -/
def openElement (key : String) (entries : Entries) : Except Problem Entries :=
  match get? entries key with
  | none => .ok (entries ++ [(key, .tables [] [])])
  | some (.tables last earlier) => .ok (put entries key (.tables [] (last :: earlier)))
  | some _ => .error (.duplicateKey key)

/-- Splits a path that is not empty into its front and its last key. -/
def splitLast (path : List String) : List String × String := (path.dropLast, path.getLast?.getD "")

/-- Enters `path = value` into the table that the header path `table` leads to. -/
def enter (table path : List String) (value : Value) (root : Entries) : Except Problem Entries :=
  let (front, key) := splitLast path
  followHeader (followDotted (define key value) front) table root

end Entries

end EventLoop.Toml
