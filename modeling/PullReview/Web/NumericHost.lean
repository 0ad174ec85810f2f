import PullReview.Text.Percent
import PullReview.Text.FieldInteger

/-!
# Numeric hosts

A host may be given by number: four numbers below 256 with points between them, or eight groups of
hexadecimal digits with colons between them. In the long form one run of groups that are zero may be
left out, the last two groups may be written as four numbers, and a zone may follow a percent sign.
-/

namespace PullReview.Web

/-- Whether a text is a number below 256 without zeros in front. -/
def isOctet (cs : List Char) : Bool :=
  !cs.isEmpty && cs.length ≤ 3 && cs.all Text.isAsciiDigit && (cs.length == 1 || cs.head? != some '0') &&
    Text.ofDigits (cs.filterMap Text.asciiDigit?) < 256

/-- Whether a text is four numbers with points between them. -/
def isShortHost (cs : List Char) : Bool :=
  let parts := Text.splitOn '.' cs
  parts.length == 4 && parts.all isOctet

/-- Whether a host looks like four numbers, of whatever size, with points between them. -/
def looksShort (cs : List Char) : Bool :=
  let parts := Text.splitOn '.' cs
  parts.length == 4 && parts.all fun part => !part.isEmpty && part.all Text.isAsciiDigit

/-- Whether a text is a group of one to four hexadecimal digits. -/
def isGroup (cs : List Char) : Bool :=
  !cs.isEmpty && cs.length ≤ 4 && cs.all fun c => (Bytes.hexValue? c).isSome

/-- The groups of the long form, where the last two may be written as four numbers. -/
def groupsOf (address : List Char) : Option (List (List Char)) :=
  let groups := Text.splitOn ':' address
  if groups.length < 3 then none
  else
    let last := groups.getLastD []
    if !last.contains '.' then some groups
    else if isShortHost last then some (groups.dropLast ++ [['0'], ['0']])
    else none

/-- Whether groups make an address. An empty group between others stands for those left out; on that
side of it which has no other, one more is empty. -/
def areGroups (groups : List (List Char)) : Bool :=
  let inner := (groups.drop 1).dropLast
  let before := groups.take (inner.idxOf [] + 1)
  let after := groups.drop (inner.idxOf [] + 2)
  let given (side : List (List Char)) : List (List Char) := if side = [[]] then [] else side
  match inner.count [] with
  | 0 => groups.length == 8 && groups.all isGroup
  | 1 =>
    (given before).all isGroup && (given after).all isGroup &&
      (given before).length + (given after).length ≤ 7
  | _ => false

/-- Whether a text is an address in the long form. -/
def isLongHost (cs : List Char) : Bool :=
  let zone := cs.dropWhile (· ≠ '%')
  (zone.isEmpty || zone.length ≠ 1 && !zone.tail.contains '%') &&
    (groupsOf (cs.takeWhile (· ≠ '%'))).any areGroups

end PullReview.Web
