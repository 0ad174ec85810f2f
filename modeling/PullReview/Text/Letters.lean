/-!
# Letters without case

Comparing with a lower-case ASCII letter while ignoring case: besides the letter and its capital,
the long s matches `s`, the Kelvin sign matches `k`, and the dotless and the dotted capital i match
`i`. These are the only characters beyond ASCII whose simple case mapping reaches an ASCII letter.

| here | there |
| --- | --- |
| `sameLetter` | a letter under `re.IGNORECASE` |
| `lowered` | `str.lower` (file_analyzer:112), where ASCII comes of it |
-/

namespace PullReview.Text

/-- Whether `c` is the lower-case ASCII letter `letter`, ignoring case. -/
def sameLetter (letter c : Char) : Bool :=
  c == letter || c == letter.toUpper ||
    match letter with
    | 's' => c == '\u017F'
    | 'k' => c == '\u212A'
    | 'i' => c == '\u0130' || c == '\u0131'
    | _ => false

/-- A character in lower case, as far as an ASCII letter can come out: the ASCII capitals and the
Kelvin sign. No other character has a lower case made of ASCII alone. -/
def lowered (c : Char) : Char := if c = '\u212A' then 'k' else c.toLower

end PullReview.Text
