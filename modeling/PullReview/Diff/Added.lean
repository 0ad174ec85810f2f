import PullReview.Text.Lines
import PullReview.Text.Digit

/-!
# Added lines of a patch

A patch in unified-diff form is read line by line. A line that starts with `@@` opens a hunk: the
first plus sign directly before a digit gives the number of the hunk's first line in the new file.
A header without such a start leaves the count where it was. Inside a hunk, added lines and context
lines count; removed lines and markers do not. Nothing counts before the first hunk.

The one failure is a start of more digits than a numeral may have.

| here | there |
| --- | --- |
| `NumberedLine` | `AddedLine` (diff_parser:7) |
| `startDigits?` | `HUNK_NEW_START.search` (diff_parser:4) |
| `afterHeader` | the branch of a header (diff_parser:26-31), with `int` of the digits found |
| `addedFrom`, `added` | `DiffParser.parse` (diff_parser:20-43) |
-/

namespace PullReview

/-- A line that a patch adds, with its number in the new file. -/
structure NumberedLine where
  number : Int
  content : List Char
  deriving DecidableEq, Repr

namespace Diff

/-- The values of the decimal digits at the front. -/
def leadingDigits (cs : List Char) : List Nat := (cs.takeWhile Text.isDigit).filterMap Text.digitValue?

/-- The digits of the start in a hunk header, if it has one. -/
def startDigits? : List Char → Option (List Nat)
  | [] => none
  | c :: cs =>
    if c = '+' ∧ (leadingDigits cs).isEmpty = false then some (leadingDigits cs) else startDigits? cs

/-- Whether a line opens a hunk. -/
def isHeader : List Char → Bool
  | '@' :: '@' :: _ => true
  | _ => false

/-- The number of the last line counted after a hunk header, `current` before it (diff_parser:26-31). -/
def afterHeader (current : Int) (header : List Char) : Except Text.LongNumeral Int :=
  match startDigits? header with
  | none => .ok current
  | some values => (Text.readNumeral values).map fun start => (start : Int) - 1

/-- The added lines from inside a hunk on, `current` being the number of the last line counted (diff_parser:25-41). -/
def addedFrom (current : Int) : List (List Char) → Except Text.LongNumeral (List NumberedLine)
  | [] => .ok []
  | line :: rest =>
    if isHeader line then (afterHeader current line).bind fun current => addedFrom current rest
    else
      match line with
      | '+' :: content => (addedFrom (current + 1) rest).map (⟨current + 1, content⟩ :: ·)
      | ' ' :: _ => addedFrom (current + 1) rest
      | [] => addedFrom (current + 1) rest
      | _ => addedFrom current rest

/-- The lines a patch adds. -/
def added (patch : List Char) : Except Text.LongNumeral (List NumberedLine) :=
  addedFrom 0 ((Text.lines patch).dropWhile fun line => !isHeader line)

end Diff

end PullReview
