import PullReview.Text.Word
import PullReview.Text.Letters

/-!
# Patterns

A pattern is a sequence of pieces, each a class of characters with a number of repeats, and may ask
to start where a word starts. It is looked for anywhere in a text; what counts is whether some
stretch of the text can be cut into parts that the pieces accept in order, so the search tries every
way to divide a stretch among its pieces. `occursIn_iff` says that it finds all of them.

| here | there |
| --- | --- |
| `Pattern.occursIn` | `re.search` |
| `Pattern.leftmost` | `re.search` of an alternation, with the group that matched |
-/

namespace PullReview.Text

/-- How often a piece's class of characters is repeated. -/
inductive Repeat where
  | once | atMostOnce | anyNumber | atLeastOnce
  deriving DecidableEq, Repr

/-- A class of characters, repeated. -/
structure Piece where
  accepts : Char → Bool
  count : Repeat := .once

/-- Pieces in a row; `wordStart` asks that no word character stands right before the first. -/
structure Pattern where
  wordStart : Bool := false
  pieces : List Piece

namespace Piece

/-- Exactly the character `c`. -/
def char (c : Char) : Piece := { accepts := (· == c) }

/-- One of the characters of `cs`. -/
def oneOf (cs : List Char) : Piece := { accepts := cs.contains }

/-- A character that is none of `cs`. -/
def noneOf (cs : List Char) : Piece := { accepts := fun c => !cs.contains c }

def optional (p : Piece) : Piece := { p with count := .atMostOnce }

def many (p : Piece) : Piece := { p with count := .anyNumber }

def some (p : Piece) : Piece := { p with count := .atLeastOnce }

/-- Any number of blanks. -/
def blanks : Piece := { accepts := isBlank, count := .anyNumber }

/-- The characters of `s`, one piece each. -/
def word (s : String) : List Piece := s.toList.map char

/-- The lower-case ASCII letters of `s`, one piece each, ignoring case. -/
def anyCase (s : String) : List Piece := s.toList.map fun c => { accepts := sameLetter c }

/-- The stretches a piece accepts. -/
def Accepts (p : Piece) (s : List Char) : Prop :=
  (∀ c ∈ s, p.accepts c) ∧
    match p.count with
    | .once => s.length = 1
    | .atMostOnce => s.length ≤ 1
    | .anyNumber => True
    | .atLeastOnce => 1 ≤ s.length

end Piece

namespace Pattern

/-- The stretches that the pieces accept in order. -/
def Spells : List Piece → List Char → Prop
  | [], s => s = []
  | p :: ps, s => ∃ a b, s = a ++ b ∧ p.Accepts a ∧ Spells ps b

/-- One character of the class, then what `next` accepts. -/
def once (accepts : Char → Bool) (next : List Char → Bool) : List Char → Bool
  | [] => false
  | c :: cs => accepts c && next cs

/-- Any number of characters of the class, then what `next` accepts. -/
def anyNumber (accepts : Char → Bool) (next : List Char → Bool) : List Char → Bool
  | [] => next []
  | c :: cs => next (c :: cs) || accepts c && anyNumber accepts next cs

/-- What the piece accepts, then what `next` accepts. -/
def followed (p : Piece) (next : List Char → Bool) : List Char → Bool :=
  match p.count with
  | .once => once p.accepts next
  | .atMostOnce => fun cs => next cs || once p.accepts next cs
  | .anyNumber => anyNumber p.accepts next
  | .atLeastOnce => once p.accepts (anyNumber p.accepts next)

/-- Whether some stretch at the front of the text can be cut into what the pieces accept. -/
def startsHere (pieces : List Piece) : List Char → Bool := pieces.foldr followed fun _ => true

/-- Whether a pattern may start after the character `before`. -/
def mayStart (p : Pattern) (before : Option Char) : Bool :=
  !p.wordStart || !before.any isWord

/-- The first of the named patterns that stands at the front of the text after `before`. -/
def standing (named : List (α × Pattern)) (before : Option Char) (cs : List Char) : Option α :=
  (named.find? fun entry => entry.2.mayStart before && startsHere entry.2.pieces cs).map (·.1)

/-- The pattern, among named ones, that stands leftmost in the text after `before`. -/
def leftmost (named : List (α × Pattern)) : Option Char → List Char → Option α
  | before, [] => standing named before []
  | before, c :: cs =>
    match standing named before (c :: cs) with
    | some a => some a
    | none => leftmost named (some c) cs

/-- Whether the pattern stands anywhere in the text. -/
def occursIn (p : Pattern) (cs : List Char) : Bool := (leftmost [((), p)] none cs).isSome

/-! ## What the search finds -/

theorem once_iff {accepts : Char → Bool} {next : List Char → Bool} {cs : List Char} :
    once accepts next cs = true ↔ ∃ c rest, cs = c :: rest ∧ accepts c = true ∧ next rest = true := by
  cases cs with
  | nil => simp [once]
  | cons c cs =>
    simp only [once, Bool.and_eq_true]
    refine ⟨fun h => ⟨c, cs, rfl, h⟩, ?_⟩
    rintro ⟨_, _, h, hd⟩
    obtain ⟨rfl, rfl⟩ := List.cons.inj h
    exact hd

theorem anyNumber_iff {accepts : Char → Bool} {next : List Char → Bool} {cs : List Char} :
    anyNumber accepts next cs = true ↔
      ∃ a b, cs = a ++ b ∧ (∀ c ∈ a, accepts c = true) ∧ next b = true := by
  induction cs with
  | nil =>
    simp only [anyNumber, List.nil_eq_append_iff]
    exact ⟨fun h => ⟨[], [], ⟨rfl, rfl⟩, by simp, h⟩, fun ⟨_, _, ⟨rfl, rfl⟩, _, h⟩ => h⟩
  | cons c cs ih =>
    simp only [anyNumber, Bool.or_eq_true, Bool.and_eq_true, ih]
    constructor
    · rintro (h | ⟨hc, a, b, rfl, ha, hb⟩)
      · exact ⟨[], c :: cs, rfl, by simp, h⟩
      · exact ⟨c :: a, b, rfl, by simpa using ⟨hc, ha⟩, hb⟩
    · rintro ⟨a, b, h, ha, hb⟩
      cases a with
      | nil => exact .inl (by simpa [h] using hb)
      | cons d a =>
        obtain ⟨rfl, rfl⟩ := List.cons.inj h
        exact .inr ⟨ha _ (by simp), a, b, rfl, fun c hc => ha c (by simp [hc]), hb⟩

/-- A piece in front of `next` divides the text into what the piece accepts and what `next` accepts. -/
theorem followed_iff {p : Piece} {next : List Char → Bool} {cs : List Char} :
    followed p next cs = true ↔ ∃ a b, cs = a ++ b ∧ p.Accepts a ∧ next b = true := by
  obtain ⟨accepts, count⟩ := p
  cases count with
  | once =>
    simp only [followed, once_iff, Piece.Accepts]
    constructor
    · rintro ⟨c, rest, rfl, hc, h⟩
      exact ⟨[c], rest, rfl, ⟨by simpa using hc, rfl⟩, h⟩
    · rintro ⟨a, b, rfl, ⟨ha, hl⟩, h⟩
      obtain ⟨c, rfl⟩ := List.length_eq_one_iff.1 hl
      exact ⟨c, b, rfl, ha c (by simp), h⟩
  | atMostOnce =>
    simp only [followed, Bool.or_eq_true, once_iff, Piece.Accepts]
    constructor
    · rintro (h | ⟨c, rest, rfl, hc, h⟩)
      · exact ⟨[], cs, rfl, ⟨by simp, by simp⟩, h⟩
      · exact ⟨[c], rest, rfl, ⟨by simpa using hc, by simp⟩, h⟩
    · rintro ⟨a, b, rfl, ⟨ha, hl⟩, h⟩
      match a, hl with
      | [], _ => exact .inl h
      | [c], _ => exact .inr ⟨c, b, rfl, ha c (by simp), h⟩
  | anyNumber => simp [followed, anyNumber_iff, Piece.Accepts]
  | atLeastOnce =>
    simp only [followed, once_iff, anyNumber_iff, Piece.Accepts]
    constructor
    · rintro ⟨c, rest, rfl, hc, a, b, rfl, ha, h⟩
      exact ⟨c :: a, b, rfl, ⟨by simpa using ⟨hc, ha⟩, by simp⟩, h⟩
    · rintro ⟨a, b, rfl, ⟨ha, hl⟩, h⟩
      match a, hl with
      | c :: a, _ => exact ⟨c, a ++ b, rfl, ha c (by simp), a, b, rfl, fun d hd => ha d (by simp [hd]), h⟩

/-- The search at the front of a text finds exactly the stretches that the pieces spell. -/
theorem startsHere_iff {pieces : List Piece} {cs : List Char} :
    startsHere pieces cs = true ↔ ∃ a b, cs = a ++ b ∧ Spells pieces a := by
  induction pieces generalizing cs with
  | nil => simp [startsHere, Spells]
  | cons p ps ih =>
    have step : startsHere (p :: ps) cs = followed p (startsHere ps) cs := rfl
    rw [step, followed_iff]
    constructor
    · rintro ⟨a, b, rfl, ha, hb⟩
      obtain ⟨c, d, rfl, hc⟩ := ih.1 hb
      exact ⟨a ++ c, d, by simp, a, c, rfl, ha, hc⟩
    · rintro ⟨_, d, rfl, a, c, rfl, ha, hc⟩
      exact ⟨a, c ++ d, by simp, ha, ih.2 ⟨c, d, rfl, hc⟩⟩

theorem standing_isSome_iff {named : List (α × Pattern)} {before : Option Char} {cs : List Char} :
    (standing named before cs).isSome = true ↔
      ∃ entry ∈ named, entry.2.mayStart before = true ∧ ∃ a b, cs = a ++ b ∧ Spells entry.2.pieces a := by
  simp only [standing, Option.isSome_map, List.find?_isSome, Bool.and_eq_true, startsHere_iff]

/-- The last character passed over, or the one before the place. -/
theorem getLast?_cons_or (c : Char) (cs : List Char) (before : Option Char) :
    (c :: cs).getLast?.or before = cs.getLast?.or (some c) := by
  rw [List.getLast?_cons]
  cases cs.getLast? <;> rfl

/-- The search from a place on finds a pattern exactly when one stands somewhere from there on. The
character before that is the last one passed over, or the one before the place. -/
theorem leftmost_isSome_iff {named : List (α × Pattern)} {before : Option Char} {cs : List Char} :
    (leftmost named before cs).isSome = true ↔
      ∃ a b, cs = a ++ b ∧ (standing named (a.getLast?.or before) b).isSome = true := by
  induction cs generalizing before with
  | nil =>
    constructor
    · exact fun h => ⟨[], [], rfl, h⟩
    · rintro ⟨a, b, h, hs⟩
      obtain ⟨rfl, rfl⟩ := List.nil_eq_append_iff.1 h
      exact hs
  | cons c cs ih =>
    rw [leftmost]
    constructor
    · intro h
      cases hs : standing named before (c :: cs) with
      | some e => exact ⟨[], c :: cs, rfl, by simp [hs]⟩
      | none =>
        rw [hs] at h
        obtain ⟨a, b, rfl, hb⟩ := ih.1 h
        exact ⟨c :: a, b, rfl, (getLast?_cons_or c a before).symm ▸ hb⟩
    · rintro ⟨a, b, h, hb⟩
      cases hs : standing named before (c :: cs) with
      | some e => rfl
      | none =>
        cases a with
        | nil =>
          obtain rfl : c :: cs = b := h
          simp [hs] at hb
        | cons d a =>
          obtain ⟨rfl, rfl⟩ := List.cons.inj h
          exact ih.2 ⟨a, b, rfl, getLast?_cons_or c a before ▸ hb⟩

/-- A pattern stands in a text exactly when some stretch of the text is spelt by its pieces and may
start after what is before it. -/
theorem occursIn_iff {p : Pattern} {cs : List Char} :
    p.occursIn cs = true ↔
      ∃ a b c, cs = a ++ (b ++ c) ∧ p.mayStart a.getLast? = true ∧ Spells p.pieces b := by
  simp only [occursIn, leftmost_isSome_iff, standing_isSome_iff, List.mem_singleton]
  constructor
  · rintro ⟨a, _, rfl, _, rfl, hm, b, c, rfl, hb⟩
    exact ⟨a, b, c, rfl, by simpa using hm, hb⟩
  · rintro ⟨a, b, c, rfl, hm, hb⟩
    exact ⟨a, b ++ c, rfl, _, rfl, by simpa using hm, b, c, rfl, hb⟩

end Pattern

end PullReview.Text
