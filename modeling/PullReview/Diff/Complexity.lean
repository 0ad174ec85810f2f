import PullReview.Text.Lines

/-!
# Complexity of a change

A score from 0 to 10: a point for every ten added lines, and the greatest nesting depth reached.
The depth rises with each opener and falls with each closer. Openers are found from left to right,
each consumed before the next is looked for; keywords count inside longer words too.

| here | there |
| --- | --- |
| `openers`, `closers` | `OPENERS`, `CLOSERS` (complexity:3-4) |
| `countOpeners` | `len(OPENERS.findall(line))` |
| `maxDepth` | `ComplexityScorer.nesting_depth` (complexity:21-27) |
| `score` | `ComplexityScorer.score` (complexity:17-19) |
-/

namespace PullReview.Diff

/-- What raises the nesting depth. -/
def openers : List (List Char) :=
  [['\x7b'], ['('], ['['], ['i', 'f'], ['f', 'o', 'r'], ['w', 'h', 'i', 'l', 'e'],
    ['f', 'u', 'n', 'c', 't', 'i', 'o', 'n'], ['c', 'l', 'a', 's', 's']]

/-- What lowers the nesting depth. -/
def closers : List Char := ['\x7d', ')', ']']

/-- The number of openers found from left to right, after `skip` characters of the last one (complexity:25). -/
def countOpeners (skip : Nat) : List Char → Nat
  | [] => 0
  | c :: cs =>
    match skip with
    | skip + 1 => countOpeners skip cs
    | 0 =>
      match openers.find? (·.isPrefixOf (c :: cs)) with
      | some opener => 1 + countOpeners (opener.length - 1) cs
      | none => countOpeners 0 cs

/-- How far a line raises the depth. -/
def rise (line : List Char) : Int := (countOpeners 0 line : Int) - (line.countP (closers.contains ·) : Nat)

/-- The greatest depth at the end of a line, from `depth` on, and no less than `most`. -/
def deepest (depth most : Int) : List (List Char) → Int
  | [] => most
  | line :: lines => deepest (depth + rise line) (max most (depth + rise line)) lines

/-- The greatest nesting depth that the lines reach, from zero. -/
def maxDepth (lines : List (List Char)) : Int := deepest 0 0 lines

/-- The contents of the lines that start with a plus sign. -/
def plusLines (patch : List Char) : List (List Char) :=
  (Text.lines patch).filterMap fun line => match line with
    | '+' :: content => some content
    | _ => none

/-- The greatest score. -/
def maxScore : Int := 10

/-- How many added lines give a point. -/
def linesPerPoint : Nat := 10

/-- The score of a patch (complexity:17-19). -/
def score (patch : List Char) : Int :=
  let added := plusLines patch
  min maxScore ((added.length / linesPerPoint : Nat) + maxDepth added)

end PullReview.Diff
