import PullReview.Json.Basic
import PullReview.Number.Shortest
import PullReview.Bytes.Hex

/-!
# Printing JSON

One line, no spaces, the members in their order. Everything beyond printable ASCII is escaped, a
character above U+FFFF as a surrogate pair, a surrogate by itself.

| here | there |
| --- | --- |
| `print` | `json.dumps` |
-/

namespace PullReview.Json

/-- An escape of one code unit. -/
def escapeUnit (unit : Nat) : List Char :=
  '\\' :: 'u' :: [unit / 4096 % 16, unit / 256 % 16, unit / 16 % 16, unit % 16].map Bytes.hexDigit

/-- A character inside a string. -/
def escapeChar (c : Char) : List Char :=
  if c = '"' then ['\\', '"']
  else if c = '\\' then ['\\', '\\']
  else if 0x20 ≤ c.toNat ∧ c.toNat < 0x7F then [c]
  else if c.toNat < 0x10000 then escapeUnit c.toNat
  else
    let offset := c.toNat - 0x10000
    escapeUnit (0xD800 + offset / 0x400) ++ escapeUnit (0xDC00 + offset % 0x400)

/-- A code point inside a string. -/
def escapePoint : CodePoint → List Char
  | .char c => escapeChar c
  | .lone s => escapeUnit s.code

def quoted (t : Text) : List Char := '"' :: t.points.flatMap escapePoint ++ ['"']

mutual

/-- The text of a value. -/
def print : Json → List Char
  | .null => ['n', 'u', 'l', 'l']
  | .bool true => ['t', 'r', 'u', 'e']
  | .bool false => ['f', 'a', 'l', 's', 'e']
  | .int i => (toString i).toList
  | .float x => x.text.toList
  | .str s => quoted s
  | .arr [] => ['[', ']']
  | .arr (item :: items) => '[' :: print item ++ printItems items
  | .obj [] => ['\x7b', '\x7d']
  | .obj (member :: members) =>
    '\x7b' :: quoted member.1 ++ ':' :: print member.2 ++ printMembers members

/-- The further items of an array and its end. -/
def printItems : List Json → List Char
  | [] => [']']
  | item :: items => ',' :: print item ++ printItems items

/-- The further members of an object and its end. -/
def printMembers : Members → List Char
  | [] => ['\x7d']
  | (key, value) :: members => ',' :: quoted key ++ ':' :: print value ++ printMembers members

end

end PullReview.Json
