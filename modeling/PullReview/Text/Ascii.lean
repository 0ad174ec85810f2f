import PullReview.Text.Basic

/-!
# ASCII

The characters below U+0080, the only ones that may stand in a header.

| here | there |
| --- | --- |
| `isAscii` | `str.isascii`, as `compare_digest` requires (security:24) |
-/

namespace PullReview.Text

def isAscii (c : Char) : Bool := c.toNat < 0x80

/-- Whether a text has nothing but characters of ASCII. -/
def isAsciiOnly (t : Text) : Bool := t.isPlain && t.start.toList.all isAscii

/-- Whether a character is a control character of ASCII. -/
def isControl (c : Char) : Bool := c.toNat < 0x20 || c.toNat == 0x7F

end PullReview.Text
