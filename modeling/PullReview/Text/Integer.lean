import PullReview.Text.Blank
import PullReview.Text.Digit

/-!
# Integers in text

An integer is written with white space around it, a sign, and single underscores between its digits,
which may be of any script.

| here | there |
| --- | --- |
| `readInteger` | `int(text)` (github_service:111-112) |
-/

namespace PullReview.Text

inductive IntegerError where
  | malformed
  | tooLong
  deriving DecidableEq, Repr

/-- The values of digits with single underscores between them. -/
def digits? : List Char → Option (List Nat)
  | [] => none
  | [c] => (digitValue? c).map ([·])
  | c :: '_' :: cs => do return (← digitValue? c) :: (← digits? cs)
  | c :: cs => do return (← digitValue? c) :: (← digits? cs)

/-- The sign and the text after it. -/
def sign : List Char → Bool × List Char
  | '-' :: cs => (true, cs)
  | '+' :: cs => (false, cs)
  | cs => (false, cs)

/-- The integer that a sign and a number make. -/
def signed (negative : Bool) (n : Nat) : Int := if negative then -n else n

/-- Reads an integer. -/
def readInteger (s : List Char) : Except IntegerError Int :=
  let (negative, cs) := sign (strip isWhiteSpace s)
  match digits? cs with
  | none => .error .malformed
  | some values =>
    match readNumeral values with
    | .error _ => .error .tooLong
    | .ok n => .ok (signed negative n)

end PullReview.Text
