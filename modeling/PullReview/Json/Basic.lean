import PullReview.Number.Binary64
import PullReview.Text.Basic

/-!
# JSON values

A JSON value with integers of any size apart from doubles, and objects whose members keep the order
in which their keys first came. A key is never held twice: setting it again replaces its value in
place.

| here | there |
| --- | --- |
| `Json` | what `json.loads` gives |
| `Members.merge` | `{**old, **new}` |
| `Members.withoutNulls` | `model_dump(exclude_none=True)` |
-/

namespace PullReview

inductive Json where
  | null
  | bool (value : Bool)
  | int (value : Int)
  | float (value : Binary64)
  | str (value : Text)
  | arr (items : List Json)
  | obj (members : List (Text × Json))
  deriving Repr, Inhabited

/-- The members of an object, in order. -/
abbrev Members := List (Text × Json)

namespace Members

/-- The value under a key. -/
def get? (members : Members) (key : Text) : Option Json :=
  (members.find? (·.1 == key)).map (·.2)

/-- Puts a value under a key: in place of the old one, or at the end. -/
def set : Members → Text → Json → Members
  | [], key, value => [(key, value)]
  | (k, v) :: members, key, value =>
    if k = key then (key, value) :: members else (k, v) :: set members key value

theorem get?_set (m : Members) (key k : Text) (value : Json) :
    (m.set key value).get? k = if key = k then some value else m.get? k := by
  induction m with
  | nil => by_cases h : key = k <;> simp [set, get?, h]
  | cons member m ih =>
    obtain ⟨l, v⟩ := member
    simp only [get?] at ih
    by_cases hl : l = key <;> by_cases hk : l = k <;> by_cases h : key = k <;> simp_all [set, get?]

/-- Sets every member of `later` in turn. -/
def merge (members later : Members) : Members :=
  later.foldl (fun acc member => acc.set member.1 member.2) members

/-- Without the members whose value is null. -/
def withoutNulls (members : Members) : Members :=
  members.filter fun member => match member.2 with | .null => false | _ => true

end Members

namespace Json

/-- The members of an object. -/
def members? : Json → Option Members
  | .obj members => some members
  | _ => none

/-- An optional value, null when absent. -/
def ofOption (encode : α → Json) : Option α → Json
  | none => .null
  | some a => encode a

def text? : Option Text → Json := ofOption .str

end Json

end PullReview
