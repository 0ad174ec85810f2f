import PullReview.Text.Basic

/-!
# Named values

An enumeration whose values are written as names, as in stored rows and in payloads. A name is read
by looking it up among all values, exactly: case and blanks count.

| here | there |
| --- | --- |
| `Named` | a `Literal` type or a `str` column with its values |
-/

namespace PullReview

/-- A type with finitely many values, each written as a name of its own. -/
class Named (α : Type) where
  all : List α
  name : α → String

/-- The value with the given name. -/
def Named.ofName? [Named α] (s : Text) : Option α :=
  (Named.all : List α).find? fun a => (Named.name a : Text) == s

end PullReview
