import PullReview.Json.Basic
import PullReview.Number.Shortest
import PullReview.Text.Printable
import PullReview.Bytes.Hex

/-!
# Values as plain text

How a value reads when it is put into a line of text: a text stands for itself, and inside a list or
an object it is quoted; the constants are written as words. Values that are empty, zero, false or
null count as absent.

| here | there |
| --- | --- |
| `isPresent` | the truth of a value |
| `display` | `str(value)`, as in an f-string |
-/

namespace PullReview.Json

/-- Whether a value is neither null, false, zero nor empty. -/
def isPresent : Json → Bool
  | .null => false
  | .bool b => b
  | .int i => i != 0
  | .float x => !x.isZero
  | .str t => t != ""
  | .arr items => !items.isEmpty
  | .obj members => !members.isEmpty

/-- The quote around a text: double if it holds single quotes only. -/
def quoteFor (ps : List CodePoint) : Char :=
  if ps.contains (.char '\x27') && !ps.contains (.char '"') then '"' else '\x27'

/-- The last `places` hexadecimal digits of a number. -/
def lastHexDigits : Nat → Nat → List Char
  | 0, _ => []
  | places + 1, n => lastHexDigits places (n / 16) ++ [Bytes.hexDigit (n % 16)]

/-- The number of a character: two hexadecimal digits where they are enough, else four, else eight. -/
def displayCode (c : Char) : List Char :=
  if c.toNat < 0x100 then '\\' :: 'x' :: lastHexDigits 2 c.toNat
  else if c.toNat < 0x10000 then '\\' :: 'u' :: lastHexDigits 4 c.toNat
  else '\\' :: 'U' :: lastHexDigits 8 c.toNat

/-- A character inside quotes; one that is not printable is written by its number. -/
def displayChar (quote c : Char) : List Char :=
  if c = quote ∨ c = '\\' then ['\\', c]
  else if c = '\n' then ['\\', 'n']
  else if c = '\r' then ['\\', 'r']
  else if c = '\t' then ['\\', 't']
  else if Text.isPrintable c then [c]
  else displayCode c

/-- A code point inside quotes. -/
def displayPoint (quote : Char) : CodePoint → List Char
  | .char c => displayChar quote c
  | .lone s => '\\' :: 'u' :: lastHexDigits 4 s.code

def displayText (t : Text) : List Char :=
  let quote := quoteFor t.points
  quote :: t.points.flatMap (displayPoint quote) ++ [quote]

/-- A double; the values that are no numbers are written in lower case and short. -/
def displayFloat : Binary64 → List Char
  | .nan => ['n', 'a', 'n']
  | .infinite negative => (if negative then ['-'] else []) ++ ['i', 'n', 'f']
  | x => x.text.toList

mutual

/-- A value inside a list or an object. -/
def displayInner : Json → List Char
  | .null => ['N', 'o', 'n', 'e']
  | .bool true => ['T', 'r', 'u', 'e']
  | .bool false => ['F', 'a', 'l', 's', 'e']
  | .int i => (toString i).toList
  | .float x => displayFloat x
  | .str s => displayText s
  | .arr [] => ['[', ']']
  | .arr (item :: items) => '[' :: displayInner item ++ displayItems items
  | .obj [] => ['\x7b', '\x7d']
  | .obj (member :: members) =>
    '\x7b' :: displayText member.1 ++ [':', ' '] ++ displayInner member.2 ++ displayMembers members

/-- The further items of a list and its end. -/
def displayItems : List Json → List Char
  | [] => [']']
  | item :: items => [',', ' '] ++ displayInner item ++ displayItems items

/-- The further members of an object and its end. -/
def displayMembers : Members → List Char
  | [] => ['\x7d']
  | (key, value) :: members =>
    [',', ' '] ++ displayText key ++ [':', ' '] ++ displayInner value ++ displayMembers members

end

/-- A value as plain text. -/
def display : Json → Text
  | .str t => t
  | value => String.ofList (displayInner value)

end PullReview.Json
