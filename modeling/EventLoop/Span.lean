/-!
Spans of time, counted in whole milliseconds, and their text: the largest of the units second and
millisecond that leaves a whole part, with the digits after the point that are needed and no
trailing zero. The empty span is written in nanoseconds.
-/
namespace EventLoop.Span

/-- Three digits with leading zeros, for `n` below a thousand. -/
def threeDigits (n : Nat) : List Char :=
  [Nat.digitChar (n / 100), Nat.digitChar (n / 10 % 10), Nat.digitChar (n % 10)]

/-- The digits without the zeros at their end. -/
def trimZeros (digits : List Char) : List Char :=
  (digits.reverse.dropWhile (· = '0')).reverse

/-- `Duration::fmt`: the text of a span of `ms` milliseconds. -/
def text (ms : Nat) : String :=
  if ms = 0 then "0ns"
  else if ms < 1000 then toString ms ++ "ms"
  else
    let whole := toString (ms / 1000)
    match trimZeros (threeDigits (ms % 1000)) with
    | [] => whole ++ "s"
    | digits => whole ++ "." ++ String.ofList digits ++ "s"

example : text 0 = "0ns" := by decide
example : text 5 = "5ms" := by decide +kernel
example : text 1000 = "1s" := by decide +kernel
example : text 1010 = "1.01s" := by decide +kernel
example : text 3600000 = "3600s" := by decide +kernel

end EventLoop.Span
