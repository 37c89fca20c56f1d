import EventLoop.Fault
import EventLoop.Toml.Document

/-!
Settings are read from the top level of a document. A field that is missing keeps its default, a
field of the wrong kind or out of its range is a fault, and what is not a field is passed over.
-/
namespace EventLoop.Settings

/-- Why a field cannot be used. -/
inductive Unfit where
  | kind (expected : String)
  | range
deriving DecidableEq, Repr, Inhabited

def Unfit.message (field : String) : Unfit → String
  | .kind expected => field ++ ": expected " ++ expected
  | .range => field ++ ": number out of range"

/-- How the values of a field are read. -/
abbrev Shape (α : Type) := Toml.Value → Except Unfit α

/-- A number that is neither negative nor above `bound`. -/
def number (bound : Nat) : Shape Nat
  | .integer value => if 0 ≤ value ∧ value ≤ bound then .ok value.toNat else .error .range
  | _ => .error (.kind "a number")

/-- A number that fits sixty-four bits. -/
def word : Shape UInt64 := fun value => (number 18446744073709551615 value).map UInt64.ofNat

/-- A number that fits thirty-two bits. -/
def halfWord : Shape UInt32 := fun value => (number 4294967295 value).map UInt32.ofNat

def flag : Shape Bool
  | .boolean value => .ok value
  | _ => .error (.kind "true or false")

def string : Shape String
  | .string text => .ok text
  | _ => .error (.kind "a string")

def list {α : Type} (item : Shape α) : Shape (List α)
  | .array items => items.mapM item
  | .tables last earlier =>
    ((last :: earlier).reverse.map (Toml.Value.table .header)).mapM item
  | _ => .error (.kind "an array")

/-- One field as `from_toml_str` reads it: into the settings, if the document has it. -/
def field {α S : Type} (entries : Toml.Entries) (name : String) (shape : Shape α)
    (store : α → S → S) (settings : S) : Except Fault S :=
  match Toml.Entries.get? entries name with
  | none => .ok settings
  | some value =>
    match shape value with
    | .ok item => .ok (store item settings)
    | .error unfit => .error (.settings (unfit.message name))

/-- The top level of a text, with what keeps it from being a document as a fault. -/
def entriesOf (text : String) : Except Fault Toml.Entries :=
  match Toml.Document.ofText text with
  | .ok entries => .ok entries
  | .error problem => .error (.settings problem.message)

end EventLoop.Settings
