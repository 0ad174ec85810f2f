/-!
# Texts

A text is a list of code points. Beside characters these are the surrogates, the halves of a pair, each of which
may stand by itself: an escape in JSON brings one in, and it goes through everything that only reads or compares the
text. Encoding the text fails at it.

A text is held as its characters up to the first surrogate, and each surrogate with the characters after it. A string
is a text without surrogates.

| here | there |
| --- | --- |
| `Text` | `str` |
| `Text.joined` | a text that went through the JSON column `Review.review_data`: `dumps`, then `loads` |
| `Text.unencodable?` | `UnicodeEncodeError` of `encode("utf-8")`, as a text is bound or a response rendered |
-/

namespace PullReview

/-- A code point from U+D800 to U+DFFF, by its distance from the first. -/
structure Surrogate where
  offset : Fin 0x800
  deriving DecidableEq, Repr, Inhabited

namespace Surrogate

/-- The surrogate of a number. -/
def ofCode? (code : Nat) : Option Surrogate :=
  if h : 0xD800 ≤ code ∧ code < 0xE000 then some ⟨code - 0xD800, by omega⟩ else none

def code (s : Surrogate) : Nat := 0xD800 + s.offset

/-- Whether the surrogate is the first of a pair. -/
def isHigh (s : Surrogate) : Bool := s.offset.val < 0x400

/-- The character of a pair. -/
def paired (high low : Surrogate) : Char := Char.ofNat (0x10000 + high.offset * 0x400 + (low.offset - 0x400))

end Surrogate

/-- A code point of a text. -/
inductive CodePoint where
  | char (c : Char)
  | lone (s : Surrogate)
  deriving DecidableEq, Repr, Inhabited

/-- The code point of a number. -/
def CodePoint.ofNat? (n : Nat) : Option CodePoint :=
  match Surrogate.ofCode? n with
  | some s => some (.lone s)
  | none => if n < 0x110000 then some (.char (Char.ofNat n)) else none

structure Text where
  /-- The characters before the first surrogate. -/
  start : String
  /-- The surrogates, each with the characters between it and the next. -/
  broken : List (Surrogate × String) := []
  deriving DecidableEq, Repr, Inhabited

namespace Text

/-- A text without surrogates. -/
@[coe] def ofString (s : String) : Text := { start := s }

instance : Coe String Text := ⟨ofString⟩

@[simp] theorem ofString_inj {a b : String} : (a : Text) = b ↔ a = b := by simp [ofString]

/-- Whether there are no surrogates. -/
def isPlain (t : Text) : Bool := t.broken.isEmpty

@[simp] theorem isPlain_ofString (s : String) : isPlain s = true := rfl

/-- The string that a text without surrogates is. -/
def string? (t : Text) : Option String := if t.isPlain then some t.start else none

@[simp] theorem string?_ofString (s : String) : string? s = some s := rfl

theorem string?_eq_some_iff {t : Text} {s : String} : t.string? = some s ↔ t = s := by
  obtain ⟨start, broken⟩ := t
  cases broken <;> simp [string?, isPlain, ofString]

/-! ## Code points -/

/-- The code points in order. -/
def points (t : Text) : List CodePoint :=
  t.start.toList.map .char ++ t.broken.flatMap fun b => .lone b.1 :: b.2.toList.map .char

/-- The characters before the first surrogate, and each surrogate with the characters after it, with one more code
point in front. -/
def prefixed (p : CodePoint) (parts : List Char × List (Surrogate × String)) :
    List Char × List (Surrogate × String) :=
  match p with
  | .char c => (c :: parts.1, parts.2)
  | .lone s => ([], (s, String.ofList parts.1) :: parts.2)

/-- The text of some code points. -/
def ofPoints (ps : List CodePoint) : Text :=
  let (cs, broken) := ps.foldr prefixed ([], [])
  { start := String.ofList cs, broken }

theorem foldr_prefixed_char (cs : List Char) (parts : List Char × List (Surrogate × String)) :
    (cs.map CodePoint.char).foldr prefixed parts = (cs ++ parts.1, parts.2) := by
  induction cs with
  | nil => rfl
  | cons c cs ih => rw [List.map_cons, List.foldr_cons, ih]; rfl

theorem ofPoints_points (t : Text) : ofPoints t.points = t := by
  have hbroken (broken : List (Surrogate × String)) :
      (broken.flatMap fun b => CodePoint.lone b.1 :: b.2.toList.map .char).foldr prefixed ([], []) = ([], broken) := by
    induction broken with
    | nil => rfl
    | cons b broken ih =>
      rw [List.flatMap_cons, List.cons_append, List.foldr_cons, List.foldr_append, ih, foldr_prefixed_char]
      simp [prefixed]
  simp only [ofPoints, points, List.foldr_append, hbroken, foldr_prefixed_char, List.append_nil, String.ofList_toList]

theorem points_ofPoints (ps : List CodePoint) : (ofPoints ps).points = ps := by
  induction ps with
  | nil => rfl
  | cons p ps ih =>
    simp only [ofPoints, points, List.foldr_cons] at ih ⊢
    cases p with
    | char c =>
      simp only [prefixed, String.toList_ofList, List.map_cons, List.cons_append] at ih ⊢
      rw [ih]
    | lone s =>
      simp only [prefixed, String.toList_ofList, List.flatMap_cons, List.map_nil, List.nil_append,
        List.cons_append] at ih ⊢
      rw [ih]

/-- The text of a single surrogate, U+D800. -/
def unpaired : Text := ofPoints [.lone ⟨0⟩]

instance : Append Text := ⟨fun a b => ofPoints (a.points ++ b.points)⟩

/-- The characters of the text, with U+FFFD for each surrogate. No rule on texts tells the two apart: like U+FFFD, a
surrogate is neither a letter, a digit nor a blank, and has no other case. -/
def visible (t : Text) : List Char :=
  t.start.toList ++ t.broken.flatMap fun b => '\uFFFD' :: b.2.toList

@[simp] theorem visible_ofString (s : String) : visible s = s.toList := by simp [visible, ofString]

/-! ## Pairs that come together -/

/-- The code points with each pair of surrogates made into its character. -/
def joinPairs : List CodePoint → List CodePoint
  | .lone high :: .lone low :: ps =>
    if high.isHigh && !low.isHigh then .char (high.paired low) :: joinPairs ps
    else .lone high :: joinPairs (.lone low :: ps)
  | p :: ps => p :: joinPairs ps
  | [] => []

/-- The text with each pair of surrogates made into its character. -/
def joined (t : Text) : Text := if t.isPlain then t else ofPoints (joinPairs t.points)

@[simp] theorem joined_ofString (s : String) : joined s = s := rfl

end Text

/-! ## Encoding -/

/-- Why a text cannot be encoded: its first surrogate, how many characters stand before it, and how many surrogates
there are in a row. -/
structure Unencodable where
  first : Surrogate
  position : Nat
  count : Nat
  deriving DecidableEq, Repr

namespace Text

/-- How many surrogates stand in a row at the front, a first one followed by some characters being passed. -/
def rowAfter : String → List (Surrogate × String) → Nat
  | "", b :: broken => rowAfter b.2 broken + 1
  | _, _ => 1

/-- What makes a text unencodable, if anything does. -/
def unencodable? (t : Text) : Option Unencodable :=
  match t.broken with
  | [] => none
  | b :: broken => some { first := b.1, position := t.start.length, count := rowAfter b.2 broken }

theorem unencodable?_eq_none_iff {t : Text} : t.unencodable? = none ↔ t.isPlain = true := by
  obtain ⟨start, broken⟩ := t
  cases broken <;> simp [unencodable?, isPlain]

end Text

end PullReview
