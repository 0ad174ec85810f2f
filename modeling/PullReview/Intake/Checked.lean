/-!
# Checked values

The outcome of checking a value from outside: the typed value, or all the refusals with the place
of each. Checking the members of a record goes on after a refusal, so the refusals come in the
order of the record's members, those of a nested record in the place of their member.

| here | there |
| --- | --- |
| `Refusal` | one of the `errors()` of a `ValidationError`: its `loc` and `type` |
| `Checked` | a validated value, or the `ValidationError` |
-/

namespace PullReview

/-- One step from a value to a part of it. -/
inductive Place where
  | member (key : String)
  | item (index : Nat)
  deriving DecidableEq, Repr

/-- Why a value was refused. -/
inductive Fault where
  | missing
  | notText
  /-- The text has surrogates. -/
  | unreadableText
  | notInteger
  | unreadableInteger
  | longInteger
  | fractionalInteger
  | notFinite
  | notBoolean
  | unreadableBoolean
  | notListed
  | notList
  | notRecord
  | notTagged
  | noTag
  | unknownTag
  | tooSmall
  | tooLarge
  deriving DecidableEq, Repr

/-- The code under which a fault is reported. -/
def Fault.code : Fault → String
  | missing => "missing"
  | notText => "string_type"
  | unreadableText => "string_unicode"
  | notInteger => "int_type"
  | unreadableInteger => "int_parsing"
  | longInteger => "int_parsing_size"
  | fractionalInteger => "int_from_float"
  | notFinite => "finite_number"
  | notBoolean => "bool_type"
  | unreadableBoolean => "bool_parsing"
  | notListed => "literal_error"
  | notList => "list_type"
  | notRecord => "model_type"
  | notTagged => "model_attributes_type"
  | noTag => "union_tag_not_found"
  | unknownTag => "union_tag_invalid"
  | tooSmall => "greater_than_equal"
  | tooLarge => "less_than_equal"

/-- A fault and the way to the part that has it. -/
structure Refusal where
  path : List Place
  fault : Fault
  deriving DecidableEq, Repr

/-- A checked value, or why it was refused. -/
inductive Checked (α : Type) where
  | ok (value : α)
  | refused (refusals : List Refusal)
  deriving DecidableEq, Repr

namespace Checked

/-- A refusal of the value itself. -/
def fault (f : Fault) : Checked α := refused [⟨[], f⟩]

/-- The same outcome for a part of a larger value. -/
def under (place : Place) : Checked α → Checked α
  | ok a => ok a
  | refused rs => refused (rs.map fun r => { r with path := place :: r.path })

def map (f : α → β) : Checked α → Checked β
  | ok a => ok (f a)
  | refused rs => refused rs

/-- Both outcomes together; refusals of the first come first. -/
def seq (f : Checked (α → β)) (a : Unit → Checked α) : Checked β :=
  match f, a () with
  | ok f, ok a => ok (f a)
  | ok _, refused rs => refused rs
  | refused rs, ok _ => refused rs
  | refused rs, refused rs' => refused (rs ++ rs')

instance : Functor Checked := ⟨map, fun a => map fun _ => a⟩

instance : Applicative Checked := { pure := ok, seq := seq }

theorem map_eq_ok {f : α → β} {c : Checked α} {b : β} : f <$> c = .ok b ↔ ∃ a, c = .ok a ∧ f a = b := by
  cases c <;> simp [Functor.map, Checked.map]

theorem seq_eq_ok {cf : Checked (α → β)} {c : Checked α} {b : β} :
    cf <*> c = .ok b ↔ ∃ f, cf = .ok f ∧ ∃ a, c = .ok a ∧ f a = b := by
  cases cf <;> cases c <;> simp [Seq.seq, Checked.seq]

theorem under_eq_ok {place : Place} {c : Checked α} {a : α} : c.under place = .ok a ↔ c = .ok a := by
  cases c <;> simp [under]

/-- The outcomes of the items of a list, placed by index from `index` on. -/
def items (index : Nat) : List (Checked α) → Checked (List α)
  | [] => ok []
  | c :: cs => (· :: ·) <$> c.under (.item index) <*> items (index + 1) cs

/-- Goes on with an accepted value only. -/
def andThen (c : Checked α) (next : α → Checked β) : Checked β :=
  match c with
  | ok a => next a
  | refused rs => refused rs

theorem andThen_eq_ok {c : Checked α} {next : α → Checked β} {b : β} :
    c.andThen next = .ok b ↔ ∃ a, c = .ok a ∧ next a = .ok b := by
  cases c <;> simp [andThen]

end Checked

end PullReview
