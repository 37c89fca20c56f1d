/-!
Hexadecimal text. Digits are read in either case and written in lower case; bytes take two digits
each, and a digit that is left over stands for nothing.
-/
namespace EventLoop.Hex

/-- The value of a digit in bases up to sixteen. -/
def digitValue (c : Char) : Option Nat :=
  if '0' ≤ c ∧ c ≤ '9' then some (c.toNat - '0'.toNat)
  else if 'a' ≤ c ∧ c ≤ 'f' then some (c.toNat - 'a'.toNat + 10)
  else if 'A' ≤ c ∧ c ≤ 'F' then some (c.toNat - 'A'.toNat + 10)
  else none

/-- The bytes that a text gives. A character that is no digit counts as zero. -/
def bytes : List Char → List UInt8
  | a :: b :: rest =>
    UInt8.ofNat (16 * (digitValue a).getD 0 + (digitValue b).getD 0) :: bytes rest
  | _ => []

/-- The text of bytes. -/
def text (bytes : List UInt8) : String :=
  String.ofList (bytes.flatMap fun byte =>
    [Nat.digitChar (byte.toNat / 16), Nat.digitChar (byte.toNat % 16)])

end EventLoop.Hex
