import PullReview.Json.Basic

/-!
# Texts inside values

Whether a value can be encoded, which it can if none of its texts has surrogates; and what becomes of a value that is
kept as escaped JSON: surrogates that make a pair and come together are read back as their character. Keys that are
kept are the program's own.

| here | there |
| --- | --- |
| `Json.isPlain` | `encode("utf-8")` succeeds on the text that the response renders |
| `Json.joined` | `loads(dumps(value))`, as the `JSON` column type stores and loads a value |
-/

namespace PullReview.Json

mutual

/-- Whether no text in the value has surrogates. -/
def isPlain : Json → Bool
  | .str t => t.isPlain
  | .arr items => arePlain items
  | .obj members => membersArePlain members
  | .null | .bool _ | .int _ | .float _ => true

def arePlain : List Json → Bool
  | [] => true
  | item :: items => item.isPlain && arePlain items

def membersArePlain : Members → Bool
  | [] => true
  | (key, value) :: members => key.isPlain && value.isPlain && membersArePlain members

end

mutual

/-- The value as it is read back from escaped JSON. -/
def joined : Json → Json
  | .str t => .str t.joined
  | .arr items => .arr (joinedItems items)
  | .obj members => .obj (joinedMembers members)
  | value => value

def joinedItems : List Json → List Json
  | [] => []
  | item :: items => item.joined :: joinedItems items

/-- Members as they are read back. -/
def joinedMembers : Members → Members
  | [] => []
  | (key, value) :: members => (key, value.joined) :: joinedMembers members

end

end PullReview.Json
