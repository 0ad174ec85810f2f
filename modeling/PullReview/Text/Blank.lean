/-!
# Blank characters

Which characters count as blank, and the two ways they are dropped: from the front of a text and
from both of its ends. The class is wider than ASCII: it also holds the information separators
U+001C to U+001F, the next-line control and every space of Unicode, but no zero-width character.

| here | there |
| --- | --- |
| `strip` | `str.strip`; a blank is what `str.isspace` accepts |
-/

namespace PullReview.Text

/-- A class of characters given by the first and last code point of each of its ranges. -/
abbrev Ranges := List (Nat × Nat)

/-- Whether the code point of `c` lies in one of the ranges. -/
def Ranges.holds (ranges : Ranges) (c : Char) : Bool :=
  ranges.any fun range => range.1 ≤ c.toNat && c.toNat ≤ range.2

/-- The blank characters: bidirectional class WS, B or S, or a space separator. -/
def blanks : Ranges :=
  [(0x09, 0x0D), (0x1C, 0x20), (0x85, 0x85), (0xA0, 0xA0), (0x1680, 0x1680), (0x2000, 0x200A),
    (0x2028, 0x2029), (0x202F, 0x202F), (0x205F, 0x205F), (0x3000, 0x3000)]

def isBlank (c : Char) : Bool := blanks.holds c

/-- The information separators, blank but not white space as the Unicode property defines it. -/
def separators : Ranges := [(0x1C, 0x1F)]

/-- The characters with the Unicode property `White_Space`. -/
def isWhiteSpace (c : Char) : Bool := isBlank c && !separators.holds c

/-- `cs` without the characters of the class at its end. -/
def dropEnd (drop : Char → Bool) (cs : List Char) : List Char :=
  (cs.reverse.dropWhile drop).reverse

/-- `cs` without the characters of the class at either end. -/
def strip (drop : Char → Bool) (cs : List Char) : List Char :=
  dropEnd drop (cs.dropWhile drop)

/-- `cs` without blanks at either end. -/
def trim (cs : List Char) : List Char := strip isBlank cs

/-- `String` form of `trim`. -/
def trimmed (s : String) : String := String.ofList (trim s.toList)

end PullReview.Text
