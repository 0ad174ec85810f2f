import Mathlib.Data.List.Forall2
import PullReview.Text.Pattern

/-!
# What pieces spell

The texts that pieces in a row accept, piece by piece: a word is itself, blanks are any number of blanks, and
a row of pieces that is cut in two spells a text that is cut in two. Where several patterns are looked for, the
one found is at the leftmost place where any of them stands (`leftmost_eq_some`).
-/

namespace PullReview.Text

/-- The text holds a stretch of the form. -/
def Holds (form : List Char → Prop) (text : List Char) : Prop :=
  ∃ before stretch after, text = before ++ (stretch ++ after) ∧ form stretch

/-- The text holds a stretch of the form with no word character right before it. -/
def HoldsAtWordStart (form : List Char → Prop) (text : List Char) : Prop :=
  ∃ before stretch after, text = before ++ (stretch ++ after) ∧ (∀ c ∈ before.getLast?, isWord c = false) ∧
    form stretch

def IsBlanks (cs : List Char) : Prop := ∀ c ∈ cs, isBlank c = true

/-- The letters of the word, each in either case. -/
def IsAlike (word : String) (cs : List Char) : Prop := List.Forall₂ (fun l c => sameLetter l c = true) word.toList cs

namespace Pattern

variable {accepts : Char → Bool} {pieces qs : List Piece} {s : List Char}

/-! ## Rows of pieces -/

theorem spells_append : Spells (pieces ++ qs) s ↔ ∃ a b, s = a ++ b ∧ Spells pieces a ∧ Spells qs b := by
  induction pieces generalizing s with
  | nil => simp [Spells]
  | cons p ps ih =>
    constructor
    · rintro ⟨a, _, rfl, ha, hrest⟩
      obtain ⟨b, c, rfl, hb, hc⟩ := ih.1 hrest
      exact ⟨a ++ b, c, by simp, ⟨a, b, rfl, ha, hb⟩, hc⟩
    · rintro ⟨_, c, rfl, ⟨a, b, rfl, ha, hb⟩, hc⟩
      exact ⟨a, b ++ c, by simp, ha, ih.2 ⟨b, c, rfl, hb, hc⟩⟩

theorem spells_nil : Spells [] s ↔ s = [] := Iff.rfl

theorem spells_once : Spells ({ accepts } :: pieces) s ↔
    ∃ c rest, s = c :: rest ∧ accepts c = true ∧ Spells pieces rest := by
  constructor
  · rintro ⟨a, rest, rfl, ⟨ha, hlength⟩, hrest⟩
    obtain ⟨c, rfl⟩ := List.length_eq_one_iff.1 hlength
    exact ⟨c, rest, rfl, ha c (by simp), hrest⟩
  · rintro ⟨c, rest, rfl, hc, hrest⟩
    exact ⟨[c], rest, rfl, ⟨by simpa using hc, rfl⟩, hrest⟩

theorem spells_optional {p : Piece} : Spells (p.optional :: pieces) s ↔
    Spells pieces s ∨ ∃ c rest, s = c :: rest ∧ p.accepts c = true ∧ Spells pieces rest := by
  constructor
  · rintro ⟨a, rest, rfl, ⟨ha, hlength⟩, hrest⟩
    match a, hlength with
    | [], _ => exact .inl hrest
    | [c], _ => exact .inr ⟨c, rest, rfl, ha c (by simp), hrest⟩
  · rintro (hs | ⟨c, rest, rfl, hc, hrest⟩)
    · exact ⟨[], s, rfl, ⟨by simp, Nat.zero_le 1⟩, hs⟩
    · exact ⟨[c], rest, rfl, ⟨fun d hd => List.mem_singleton.1 hd ▸ hc, Nat.le_refl 1⟩, hrest⟩

theorem spells_some {p : Piece} : Spells (p.some :: pieces) s ↔
    ∃ a rest, s = a ++ rest ∧ a ≠ [] ∧ (∀ c ∈ a, p.accepts c = true) ∧ Spells pieces rest := by
  constructor
  · rintro ⟨a, rest, rfl, ⟨ha, hlength⟩, hrest⟩
    exact ⟨a, rest, rfl, List.length_pos_iff.1 hlength, ha, hrest⟩
  · rintro ⟨a, rest, rfl, hne, ha, hrest⟩
    exact ⟨a, rest, rfl, ⟨ha, List.length_pos_iff.2 hne⟩, hrest⟩

theorem spells_blanks : Spells (.blanks :: pieces) s ↔ ∃ a rest, s = a ++ rest ∧ IsBlanks a ∧ Spells pieces rest := by
  constructor
  · rintro ⟨a, rest, rfl, ⟨ha, -⟩, hrest⟩
    exact ⟨a, rest, rfl, ha, hrest⟩
  · rintro ⟨a, rest, rfl, ha, hrest⟩
    exact ⟨a, rest, rfl, ⟨ha, trivial⟩, hrest⟩

theorem spells_word {word : String} : Spells (Piece.word word) s ↔ s = word.toList := by
  unfold Piece.word
  induction word.toList generalizing s with
  | nil => rfl
  | cons c cs ih =>
    rw [List.map_cons, Piece.char, spells_once]
    constructor
    · rintro ⟨d, rest, rfl, hd, hrest⟩
      rw [eq_of_beq hd, ih.1 hrest]
    · rintro rfl
      exact ⟨c, cs, rfl, beq_self_eq_true c, ih.2 rfl⟩

theorem spells_anyCase {word : String} : Spells (Piece.anyCase word) s ↔ IsAlike word s := by
  unfold Piece.anyCase IsAlike
  induction word.toList generalizing s with
  | nil => exact List.forall₂_nil_left_iff.symm
  | cons c cs ih =>
    rw [List.map_cons, spells_once, List.forall₂_cons_left_iff]
    constructor
    · rintro ⟨d, rest, rfl, hd, hrest⟩
      exact ⟨d, rest, hd, ih.1 hrest, rfl⟩
    · rintro ⟨d, rest, hd, hrest, rfl⟩
      exact ⟨d, rest, rfl, hd, ih.2 hrest⟩

/-! ## Where a pattern stands -/

variable {p : Pattern} {form : List Char → Prop} {text : List Char}

theorem occursIn_iff_holds (hstart : p.wordStart = false) (hform : ∀ s, Spells p.pieces s ↔ form s) :
    p.occursIn text = true ↔ Holds form text := by
  rw [occursIn_iff]
  simp only [mayStart, hstart, Bool.not_false, Bool.true_or, true_and, hform]
  rfl

theorem occursIn_iff_holdsAtWordStart (hstart : p.wordStart = true) (hform : ∀ s, Spells p.pieces s ↔ form s) :
    p.occursIn text = true ↔ HoldsAtWordStart form text := by
  have hmay (before : Option Char) : p.mayStart before = true ↔ ∀ c ∈ before, isWord c = false := by
    cases before <;> simp [mayStart, hstart]
  rw [occursIn_iff]
  simp only [hmay, hform]
  rfl

theorem standing_eq_some {α : Type} {named : List (α × Pattern)} {before : Option Char} {cs : List Char} {a : α}
    (h : standing named before cs = some a) :
    ∃ p, (a, p) ∈ named ∧ p.mayStart before = true ∧
      ∃ stretch after, cs = stretch ++ after ∧ Spells p.pieces stretch := by
  obtain ⟨⟨b, p⟩, hfind, rfl⟩ := Option.map_eq_some_iff.1 h
  have hp := List.find?_some hfind
  rw [Bool.and_eq_true, startsHere_iff] at hp
  exact ⟨p, List.mem_of_find?_eq_some hfind, hp⟩

/-- What is found stands at the leftmost place where anything stands. -/
theorem leftmost_eq_some {α : Type} {named : List (α × Pattern)} {previous : Option Char} {cs : List Char} {a : α}
    (h : leftmost named previous cs = some a) :
    ∃ before rest, cs = before ++ rest ∧ standing named (before.getLast?.or previous) rest = some a ∧
      ∀ earlier rest', cs = earlier ++ rest' → earlier.length < before.length →
        standing named (earlier.getLast?.or previous) rest' = none := by
  induction cs generalizing previous with
  | nil => exact ⟨[], [], rfl, h, fun _ _ _ hlt => absurd hlt (Nat.not_lt_zero _)⟩
  | cons c cs ih =>
    rw [leftmost] at h
    cases hs : standing named previous (c :: cs) with
    | some b =>
      rw [hs] at h
      cases h
      exact ⟨[], c :: cs, rfl, hs, fun _ _ _ hlt => absurd hlt (Nat.not_lt_zero _)⟩
    | none =>
      rw [hs] at h
      obtain ⟨before, rest, rfl, hstands, hearlier⟩ := ih h
      refine ⟨c :: before, rest, rfl, by rwa [getLast?_cons_or], fun earlier rest' heq hlt => ?_⟩
      cases earlier with
      | nil =>
        obtain rfl : c :: (before ++ rest) = rest' := heq
        exact hs
      | cons d earlier =>
        obtain ⟨rfl, hrest⟩ := List.cons.inj heq
        rw [getLast?_cons_or]
        exact hearlier earlier rest' hrest (Nat.lt_of_succ_lt_succ hlt)

end Pattern

end PullReview.Text
