import PullReview.Intake.Checked
import PullReview.Json.Basic
import PullReview.Text.FieldInteger
import PullReview.Text.Named

/-!
# Checking JSON values

How a JSON value is taken for a text, an integer, a boolean, a name, a list or a record. Integers
and booleans are taken leniently: a whole double is an integer, and so is its text; `yes` is true.
Members that a record does not declare are ignored. A text may have surrogates, but
none that stands for an integer, a boolean or a name does.

| here | there |
| --- | --- |
| `asText`, `asInteger`, `asBoolean` | a field of type `str`, `int`, `bool`, validated leniently |
| `asNamed` | a field of a `Literal` type |
| `asOptional`, `asList`, `asRecord` | a field of an `Optional` or `List` type, or of a model |
| `required`, `optional` | a field without and with a default |
-/

namespace PullReview.Json

/-- Takes a text. -/
def asText : Json → Checked Text
  | .str t => .ok t
  | _ => .fault .notText

/-- Goes on with the characters of a text that has no surrogates. -/
def ofPlain (t : Text) (take : String → Checked α) : Checked α :=
  if t.isPlain then take t.start else .fault .unreadableText

@[simp] theorem ofPlain_ofString (s : String) (take : String → Checked α) : ofPlain s take = take s := rfl

/-- Takes a text without surrogates. -/
def asString : Json → Checked String
  | .str t => ofPlain t .ok
  | _ => .fault .notText

/-- Takes an integer from text. -/
def integerOfText (s : String) : Checked Int :=
  match Text.readFieldInteger s.toList with
  | .ok i => .ok i
  | .error .malformed => .fault .unreadableInteger
  | .error .tooLong => .fault .longInteger

/-- One more than the greatest 64-bit integer. -/
def wordLimit : Nat := 9223372036854775808

/-- Takes an integer from a double: it must be whole, and below 2^63 in size. -/
def integerOfFloat (x : Binary64) : Checked Int :=
  match x.truncate? with
  | none => .fault .notFinite
  | some i =>
    if !x.isWhole then .fault .fractionalInteger
    else if i.natAbs < wordLimit then .ok i
    else .fault .longInteger

/-- Takes an integer. -/
def asInteger : Json → Checked Int
  | .int i => .ok i
  | .bool b => .ok (if b then 1 else 0)
  | .float x => integerOfFloat x
  | .str t => ofPlain t integerOfText
  | _ => .fault .notInteger

/-- The words for true and for false. -/
def trueWords : List String := ["1", "true", "t", "yes", "y", "on"]

def falseWords : List String := ["0", "false", "f", "no", "n", "off"]

/-- The boolean that an integer stands for. -/
def booleanOfInteger (i : Int) : Checked Bool :=
  if i = 0 then .ok false else if i = 1 then .ok true else .fault .unreadableBoolean

/-- The boolean that a number stands for: it must be a 64-bit integer. -/
def asBooleanNumber : Json → Checked Bool
  | .int i => if -wordLimit ≤ i ∧ i < wordLimit then booleanOfInteger i else .fault .notBoolean
  | .float x =>
    match integerOfFloat x with
    | .ok i => booleanOfInteger i
    | .refused _ => .fault .notBoolean
  | _ => .fault .notBoolean

/-- Takes a boolean from text. -/
def booleanOfText (s : String) : Checked Bool :=
  if trueWords.contains s.toLower then .ok true
  else if falseWords.contains s.toLower then .ok false
  else .fault .unreadableBoolean

/-- Takes a boolean. -/
def asBoolean : Json → Checked Bool
  | .bool b => .ok b
  | .str t => ofPlain t booleanOfText
  | value => asBooleanNumber value

/-- Takes one of the values of an enumeration by its exact name. -/
def asNamed [Named α] : Json → Checked α
  | .str t => ofPlain t fun s =>
    match Named.ofName? s with
    | some a => .ok a
    | none => .fault .notListed
  | _ => .fault .notListed

/-- Takes null or what `take` takes. -/
def asOptional (take : Json → Checked α) : Json → Checked (Option α)
  | .null => .ok none
  | value => some <$> take value

/-- Takes a list, each item by `take`. -/
def asList (take : Json → Checked α) : Json → Checked (List α)
  | .arr items => Checked.items 0 (items.map take)
  | _ => .fault .notList

/-- Takes an object, its members by `take`. -/
def asRecord (take : Members → Checked α) : Json → Checked α
  | .obj members => take members
  | _ => .fault .notRecord

end PullReview.Json

namespace PullReview.Members

/-- A member that must be there. -/
def required (members : Members) (key : String) (take : Json → Checked α) : Checked α :=
  match members.get? key with
  | none => .refused [⟨[.member key], .missing⟩]
  | some value => (take value).under (.member key)

/-- A member with a default for its absence; null is not absence. -/
def optional (members : Members) (key : String) (default : α) (take : Json → Checked α) : Checked α :=
  match members.get? key with
  | none => .ok default
  | some value => (take value).under (.member key)

end PullReview.Members
