import PullReview.Text.Integer

/-!
# Integers in fields

Integers in form fields, queries and settings are made of ASCII digits. A plain numeral has at most a
minus sign, no zero in front and nothing around it; it is read as it is, and is too long if its sign
and digits are more than `numeralLimit`, whatever comes after them. Any other text is tidied into a
plain numeral first: the white space around it, its sign, its leading zeros, a fraction of zeros and
single underscores are taken away. Underscores between leading zeros count as zeros, and a minus sign
may come after them as well. What is no plain numeral then is malformed.

| here | there |
| --- | --- |
| `readFieldInteger` | an integer field validated from a text |
-/

namespace PullReview.Text

def isAsciiDigit (c : Char) : Bool := (asciiDigit? c).isSome

/-- Reads a plain numeral. -/
def readPlain (s : List Char) : Except IntegerError Int :=
  let negative := s.head? == some '-'
  let body := if negative then s.drop 1 else s
  let run := body.takeWhile isAsciiDigit
  match run with
  | [] => .error .malformed
  | '0' :: _ => if body = ['0'] then .ok 0 else .error .malformed
  | _ =>
    if numeralLimit < s.length - (body.length - run.length) then .error .tooLong
    else if run.length < body.length then .error .malformed
    else .ok (signed negative (ofDigits (run.filterMap asciiDigit?)))

/-- The text after leading zeros, where `last` is the one before it. The last of them stays before a
point and at the end. -/
def afterZero (last : Char) : List Char → Option (List Char)
  | [] => some [last]
  | c :: cs =>
    if c = '0' ∨ c = '_' then afterZero c cs
    else if c = '.' then some (last :: c :: cs)
    else if c = '-' ∨ isAsciiDigit c then some (c :: cs)
    else none

/-- A text without leading zeros; it must begin with a digit. -/
def dropZeros : List Char → Option (List Char)
  | [] => none
  | c :: cs => if c = '0' then afterZero c cs else if isAsciiDigit c then some (c :: cs) else none

/-- A text without a fraction of one or more zeros. -/
def dropFraction (cs : List Char) : List Char :=
  let fraction := cs.dropWhile (· ≠ '.')
  if 2 ≤ fraction.length && fraction.tail.all (· == '0') then cs.takeWhile (· ≠ '.') else cs

/-- Whether two underscores stand side by side. -/
def doubleUnderscore : List Char → Bool
  | '_' :: '_' :: _ => true
  | _ :: cs => doubleUnderscore cs
  | [] => false

/-- A text without its underscores, if each has something on both sides that is none. -/
def dropUnderscores (cs : List Char) : List Char :=
  if cs.head? = some '_' ∨ cs.getLast? = some '_' ∨ doubleUnderscore cs then cs
  else cs.filter (· ≠ '_')

/-- A text tidied into a plain numeral. -/
def tidied (s : List Char) : Option (List Char) :=
  let (negative, body) := sign (strip isWhiteSpace s)
  (dropZeros body).map fun cs =>
    let cs := dropUnderscores (dropFraction cs)
    if negative then '-' :: cs else cs

/-- Reads an integer of a field. -/
def readFieldInteger (s : List Char) : Except IntegerError Int :=
  match readPlain s with
  | .error .malformed =>
    match tidied s with
    | none => .error .malformed
    | some cs => (readPlain cs).mapError fun _ => .malformed
  | result => result

end PullReview.Text
