import Mathlib.Data.List.Find
import Mathlib.Data.List.TakeWhile
import PullReview.Proofs.Text.Spelling

/-!
# Padding

Blanks around a text. Trimming takes them off again (`trim_padded`). A pattern does not see them if it is tight, that
is, if its first and its last piece take at least one character and no blank: what such a pattern spells lies within
the text, and a blank before the text parts words as well as its beginning does (`leftmost_padded`). The blanks are
few, so whether a pattern is tight is decided by going over them.
-/

namespace PullReview.Text

/-! ## The blanks one by one -/

def blankChars : List Char :=
  blanks.flatMap fun range => (List.range' range.1 (range.2 + 1 - range.1)).map Char.ofNat

theorem mem_blankChars {c : Char} (h : isBlank c = true) : c ∈ blankChars := by
  rw [isBlank, Ranges.holds, List.any_eq_true] at h
  obtain ⟨range, hrange, hbounds⟩ := h
  simp only [Bool.and_eq_true, decide_eq_true_eq] at hbounds
  rw [blankChars, List.mem_flatMap]
  refine ⟨range, hrange, List.mem_map.2 ⟨c.toNat, ?_, Char.ofNat_toNat c⟩⟩
  rw [List.mem_range'_1]
  omega

theorem isWord_of_isBlank {c : Char} (h : isBlank c = true) : isWord c = false := by
  have hall : blankChars.all (!isWord ·) = true := by decide +kernel
  simpa using List.all_eq_true.1 hall c (mem_blankChars h)

/-! ## Trimming -/

variable {before after : List Char}

theorem strip_padded {drop : Char → Bool} (hbefore : ∀ c ∈ before, drop c = true) (hafter : ∀ c ∈ after, drop c = true)
    (text : List Char) : strip drop (before ++ text ++ after) = strip drop text := by
  have hreverse : ∀ c ∈ after.reverse, drop c = true := by
    intro c hc
    exact hafter c (List.mem_reverse.1 hc)
  rw [strip, strip, List.append_assoc, List.dropWhile_append_of_pos hbefore, List.dropWhile_append]
  split
  · rename_i hempty
    rw [List.dropWhile_eq_nil_iff.2 hafter, List.isEmpty_iff.1 hempty]
  · rw [dropEnd, dropEnd, List.reverse_append, List.dropWhile_append_of_pos hreverse]

theorem trim_padded (hbefore : IsBlanks before) (hafter : IsBlanks after) (text : List Char) :
    trim (before ++ text ++ after) = trim text := strip_padded hbefore hafter text

/-! ## Tight patterns -/

/-- A piece that takes at least one character, and no blank. -/
def Piece.Solid (p : Piece) : Prop :=
  (p.count = .once ∨ p.count = .atLeastOnce) ∧ ∀ c ∈ blankChars, p.accepts c = false

-- the instance is named since it has to go over the list, and not over all characters
instance : DecidablePred Piece.Solid := fun p =>
  @instDecidableAnd _ _ inferInstance (List.decidableBAll (p.accepts · = false) blankChars)

theorem Piece.Solid.of_accepts {p : Piece} (hp : p.Solid) {s : List Char} (h : p.Accepts s) :
    s ≠ [] ∧ ∀ c ∈ s, isBlank c = false := by
  obtain ⟨hcount, hblank⟩ := hp
  obtain ⟨haccepts, hlength⟩ := h
  constructor
  · rintro rfl
    rcases hcount with hcount | hcount <;> simp [hcount] at hlength
  · intro c hc
    by_contra hisBlank
    have hrefused := hblank c (mem_blankChars (by simpa using hisBlank))
    rw [haccepts c hc] at hrefused
    cases hrefused

namespace Pattern

/-- A pattern whose first and last piece are solid. -/
def Tight (p : Pattern) : Prop := (∃ q ∈ p.pieces.head?, q.Solid) ∧ ∃ q ∈ p.pieces.getLast?, q.Solid

instance : DecidablePred Tight := fun p =>
  inferInstanceAs (Decidable ((∃ q ∈ p.pieces.head?, q.Solid) ∧ ∃ q ∈ p.pieces.getLast?, q.Solid))

variable {p : Pattern} {s : List Char}

theorem Tight.exists_head (hp : p.Tight) (h : Spells p.pieces s) : ∃ c ∈ s.head?, isBlank c = false := by
  obtain ⟨⟨first, hfirst, hsolid⟩, -⟩ := hp
  obtain ⟨pieces, hpieces⟩ := List.head?_eq_some_iff.1 hfirst
  rw [hpieces] at h
  obtain ⟨a, b, rfl, ha, -⟩ := h
  obtain ⟨hne, hblank⟩ := hsolid.of_accepts ha
  obtain ⟨c, a, rfl⟩ := List.exists_cons_of_ne_nil hne
  exact ⟨c, rfl, hblank c List.mem_cons_self⟩

theorem Tight.exists_getLast (hp : p.Tight) (h : Spells p.pieces s) : ∃ c ∈ s.getLast?, isBlank c = false := by
  obtain ⟨-, last, hlast, hsolid⟩ := hp
  obtain ⟨pieces, hpieces⟩ := List.getLast?_eq_some_iff.1 hlast
  rw [hpieces, spells_append] at h
  obtain ⟨a, _, rfl, -, b, _, rfl, hb, rfl⟩ := h
  obtain ⟨hne, hblank⟩ := hsolid.of_accepts hb
  refine ⟨b.getLast hne, ?_, hblank _ (List.getLast_mem hne)⟩
  rw [List.append_nil, List.getLast?_append_of_ne_nil _ hne]
  exact List.getLast?_eq_some_getLast hne

/-! ## The search -/

variable {α : Type} {named : List (α × Pattern)} {previous : Option Char} {cs : List Char}

/-- No stretch goes on into the blanks after the text. -/
theorem startsHere_append (hp : p.Tight) (hafter : IsBlanks after) :
    startsHere p.pieces (cs ++ after) = startsHere p.pieces cs := by
  rw [Bool.eq_iff_iff, startsHere_iff, startsHere_iff]
  constructor
  · rintro ⟨a, b, heq, ha⟩
    rcases List.append_eq_append_iff.1 heq with ⟨rest, rfl, rfl⟩ | ⟨rest, rfl, rfl⟩
    · rcases List.eq_nil_or_concat rest with rfl | ⟨rest, c, rfl⟩
      · exact ⟨cs, [], by simp, by simpa using ha⟩
      · have hblank : isBlank c = true := hafter c (by simp)
        obtain ⟨d, hd, hlast⟩ := hp.exists_getLast ha
        obtain rfl : c = d := by simpa using hd
        rw [hblank] at hlast
        cases hlast
    · exact ⟨a, rest, rfl, ha⟩
  · rintro ⟨a, b, rfl, ha⟩
    exact ⟨a, b ++ after, by simp, ha⟩

theorem standing_append (hnamed : ∀ entry ∈ named, entry.2.Tight) (hafter : IsBlanks after) :
    standing named previous (cs ++ after) = standing named previous cs := by
  unfold standing
  congr 1
  apply List.find?_congr
  intro entry hentry
  rw [startsHere_append (hnamed entry hentry) hafter]

theorem standing_nil (hnamed : ∀ entry ∈ named, entry.2.Tight) : standing named previous [] = none := by
  rw [← Option.not_isSome_iff_eq_none, standing_isSome_iff]
  rintro ⟨entry, hentry, -, a, b, heq, ha⟩
  obtain ⟨c, hc, -⟩ := (hnamed entry hentry).exists_head ha
  rw [(List.nil_eq_append_iff.1 heq).1] at hc
  cases hc

/-- No stretch begins with a blank. -/
theorem standing_blank (hnamed : ∀ entry ∈ named, entry.2.Tight) {c : Char} (hc : isBlank c = true) :
    standing named previous (c :: cs) = none := by
  rw [← Option.not_isSome_iff_eq_none, standing_isSome_iff]
  rintro ⟨entry, hentry, -, a, b, heq, ha⟩
  obtain ⟨d, hd, hhead⟩ := (hnamed entry hentry).exists_head ha
  obtain ⟨a, rfl⟩ := List.head?_eq_some_iff.1 hd
  obtain ⟨rfl, -⟩ := List.cons.inj heq
  rw [hc] at hhead
  cases hhead

theorem leftmost_blanks (hnamed : ∀ entry ∈ named, entry.2.Tight) (hafter : IsBlanks after) :
    leftmost named previous after = none := by
  induction after generalizing previous with
  | nil => exact standing_nil hnamed
  | cons c after ih =>
    rw [leftmost, standing_blank hnamed (hafter c (by simp))]
    exact ih fun d hd => hafter d (by simp [hd])

theorem leftmost_append (hnamed : ∀ entry ∈ named, entry.2.Tight) (hafter : IsBlanks after) :
    leftmost named previous (cs ++ after) = leftmost named previous cs := by
  induction cs generalizing previous with
  | nil => rw [List.nil_append, leftmost_blanks hnamed hafter, leftmost, standing_nil hnamed]
  | cons c cs ih =>
    rw [List.cons_append, leftmost, leftmost, ← List.cons_append, standing_append hnamed hafter, ih]

/-- A pattern may start behind a character that is in no word as well as at the beginning. -/
theorem leftmost_of_not_isWord {c : Char} (hc : isWord c = false) :
    leftmost named (some c) cs = leftmost named none cs := by
  have hstanding (cs : List Char) : standing named (some c) cs = standing named none cs := by
    simp [standing, mayStart, hc]
  cases cs with
  | nil => exact hstanding []
  | cons d cs => rw [leftmost, leftmost, hstanding]

theorem leftmost_prepend (hnamed : ∀ entry ∈ named, entry.2.Tight) (hbefore : IsBlanks before) :
    leftmost named none (before ++ cs) = leftmost named none cs := by
  induction before with
  | nil => rfl
  | cons c before ih =>
    have hc : isBlank c = true := hbefore c (by simp)
    rw [List.cons_append, leftmost, standing_blank hnamed hc]
    dsimp only
    rw [leftmost_of_not_isWord (isWord_of_isBlank hc)]
    exact ih fun d hd => hbefore d (by simp [hd])

theorem leftmost_padded (hnamed : ∀ entry ∈ named, entry.2.Tight) (hbefore : IsBlanks before) (hafter : IsBlanks after)
    (text : List Char) : leftmost named none (before ++ text ++ after) = leftmost named none text := by
  rw [leftmost_append hnamed hafter, leftmost_prepend hnamed hbefore]

theorem occursIn_padded (hp : p.Tight) (hbefore : IsBlanks before) (hafter : IsBlanks after) (text : List Char) :
    p.occursIn (before ++ text ++ after) = p.occursIn text := by
  rw [occursIn, occursIn, leftmost_padded (by simpa using hp) hbefore hafter]

end Pattern

end PullReview.Text
