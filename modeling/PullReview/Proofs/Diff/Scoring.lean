import Mathlib.Logic.Relation
import PullReview.Proofs.Diff.Reading
import PullReview.Diff.Complexity

/-!
# Scored lines

A patch is gone through twice, and in two ways. Reading it follows the hunks and takes added lines only from inside
them; scoring it takes every line with a plus sign, wherever it stands. The two differ by the lines with a plus sign
in front of the first header, and by nothing else (`plusLines_eq_append`). Where there are none, a patch is scored by
the lines that reading it gives, and whatever else its hunks hold does not matter (`score_of_added_lines`).
-/

namespace PullReview.Diff

/-! ## Lines with a plus sign -/

/-- What follows the plus sign that a line starts with. -/
def plusContent? : List Char → Option (List Char)
  | '+' :: content => some content
  | _ => none

theorem plusContent?_eq_none_iff {line : List Char} : plusContent? line = none ↔ line.head? ≠ some '+' := by
  unfold plusContent?
  split
  · simp
  · rename_i hplus
    simp only [true_iff]
    intro hhead
    obtain ⟨content, rfl⟩ := List.head?_eq_some_iff.1 hhead
    exact hplus content rfl

theorem map_content_addition (number : Int) (line : List Char) :
    (addition number line).map (·.content) = (plusContent? line).toList := by
  by_cases hplus : line.head? = some '+'
  · obtain ⟨content, rfl⟩ := List.head?_eq_some_iff.1 hplus
    rfl
  · rw [addition_of_head hplus, plusContent?_eq_none_iff.2 hplus]
    rfl

/-- The contents of the lines with a plus sign. -/
def plusContents (lines : List (List Char)) : List (List Char) := lines.filterMap plusContent?

theorem plusLines_eq (patch : List Char) : plusLines patch = plusContents (Text.lines patch) := rfl

theorem plusContents_cons (line : List Char) (lines : List (List Char)) :
    plusContents (line :: lines) = (plusContent? line).toList ++ plusContents lines := by
  cases hline : plusContent? line <;> simp [plusContents, hline]

theorem plusContents_append (lines more : List (List Char)) :
    plusContents (lines ++ more) = plusContents lines ++ plusContents more := by
  simp [plusContents]

theorem plusContents_eq_nil_iff {lines : List (List Char)} :
    plusContents lines = [] ↔ ∀ line ∈ lines, line.head? ≠ some '+' := by
  simp only [plusContents, List.filterMap_eq_nil_iff, plusContent?_eq_none_iff]

/-! ## What reading and scoring have in common -/

/-- The lines before the first header; all of them where no line opens a hunk. -/
def preamble (lines : List (List Char)) : List (List Char) := lines.takeWhile fun line => !isHeader line

/-- From inside a hunk on, every line with a plus sign is added, in the order of the lines. -/
theorem plusContents_of_addedFrom {current : Int} {lines : List (List Char)} {out : List NumberedLine}
    (h : addedFrom current lines = .ok out) : plusContents lines = out.map (·.content) := by
  induction lines generalizing current out with
  | nil =>
    cases h
    rfl
  | cons line lines ih =>
    rw [plusContents_cons]
    cases hheader : isHeader line with
    | true =>
      have hline : plusContent? line = none := plusContent?_eq_none_iff.2 (by simp [isHeader_head hheader])
      rw [addedFrom_header hheader] at h
      cases hnext : afterHeader current line with
      | error e =>
        rw [hnext] at h
        cases h
      | ok next =>
        rw [hnext] at h
        rw [hline]
        exact ih h
    | false =>
      rw [addedFrom_body hheader] at h
      cases hrest : addedFrom (current + counted [line]) lines with
      | error e =>
        rw [hrest] at h
        cases h
      | ok rest =>
        rw [hrest] at h
        cases h
        rw [List.map_append, map_content_addition, ih hrest]

/-- Scoring takes the lines that are added, and in front of them those before the first header. -/
theorem plusLines_eq_append {patch : List Char} {out : List NumberedLine} (h : added patch = .ok out) :
    plusLines patch = plusContents (preamble (Text.lines patch)) ++ out.map (·.content) := by
  rw [← plusContents_of_addedFrom h, ← plusContents_append, preamble, List.takeWhile_append_dropWhile, plusLines_eq]

/-- The lines scored are those added if and only if no line before the first header has a plus sign. -/
theorem plusLines_eq_iff {patch : List Char} {out : List NumberedLine} (h : added patch = .ok out) :
    plusLines patch = out.map (·.content) ↔ ∀ line ∈ preamble (Text.lines patch), line.head? ≠ some '+' := by
  rw [plusLines_eq_append h, List.append_left_eq_self, plusContents_eq_nil_iff]

/-! ## Lines that do not matter -/

/-- A line without a plus sign is put in behind a header: one of the context, a removed one, a marker, or another
header. -/
inductive PutsIn : List (List Char) → List (List Char) → Prop
  | line {before after : List (List Char)} {line : List Char} (hheader : ∃ header ∈ before, isHeader header = true)
    (hplus : line.head? ≠ some '+') : PutsIn (before ++ after) (before ++ line :: after)

/-- Lines that come from others by putting in and taking out lines without a plus sign, behind the first header. -/
def Redrawn : List (List Char) → List (List Char) → Prop := Relation.EqvGen PutsIn

variable {lines redrawn : List (List Char)}

theorem PutsIn.plusContents_eq (h : PutsIn lines redrawn) : plusContents lines = plusContents redrawn := by
  cases h with
  | line hheader hplus =>
    rw [plusContents_append, plusContents_append, plusContents_cons, plusContent?_eq_none_iff.2 hplus]
    rfl

theorem preamble_append {before : List (List Char)} (hheader : ∃ header ∈ before, isHeader header = true)
    (after : List (List Char)) : preamble (before ++ after) = preamble before := by
  obtain ⟨header, hmem, hheader⟩ := hheader
  have hshort : (before.takeWhile fun line => !isHeader line).length ≠ before.length := by
    intro hlength
    have hall := (List.takeWhile_prefix _).eq_of_length hlength
    have hno := List.takeWhile_eq_self_iff.1 hall header hmem
    simp [hheader] at hno
  rw [preamble, List.takeWhile_append, if_neg hshort, preamble]

theorem PutsIn.preamble_eq (h : PutsIn lines redrawn) : preamble lines = preamble redrawn := by
  cases h with
  | line hheader hplus => rw [preamble_append hheader, preamble_append hheader]

/-- What one line that is put in leaves as it is, is the same after any number of them. -/
theorem Redrawn.congr {α : Type} {f : List (List Char) → α}
    (hline : ∀ lines redrawn, PutsIn lines redrawn → f lines = f redrawn) (h : Redrawn lines redrawn) :
    f lines = f redrawn := by
  induction h with
  | rel lines redrawn h => exact hline lines redrawn h
  | refl _ => rfl
  | symm _ _ _ ih => exact ih.symm
  | trans _ _ _ _ _ ih ih' => exact ih.trans ih'

/-- **Scored lines.** Where no line before the first header has a plus sign, the lines scored are those that reading
the patch gives, in the same order. Lines without a plus sign that are put in or taken out behind the first header
change neither the score nor, where the patch can still be read, what is added. -/
theorem score_of_added_lines {patch : List Char} (hread : Readable patch)
    (hfront : ∀ line ∈ preamble (Text.lines patch), line.head? ≠ some '+') :
    ∃ out, added patch = .ok out ∧ plusLines patch = out.map (·.content) ∧
      score patch = min 10 ((out.length / 10 : Nat) + maxDepth (out.map (·.content))) ∧
      ∀ second, Redrawn (Text.lines patch) (Text.lines second) →
        score second = score patch ∧
          (Readable second → ∃ out', added second = .ok out' ∧ out'.map (·.content) = out.map (·.content)) := by
  obtain ⟨out, hout⟩ := added_isOk_iff.2 hread
  have hscored := (plusLines_eq_iff hout).2 hfront
  refine ⟨out, hout, hscored, ?_, ?_⟩
  · rw [score, hscored, List.length_map]
    rfl
  · intro second hredrawn
    have hsame : plusLines second = plusLines patch := by
      rw [plusLines_eq, plusLines_eq, hredrawn.congr fun _ _ => PutsIn.plusContents_eq]
    refine ⟨by rw [score, score, hsame], ?_⟩
    intro hsecond
    obtain ⟨out', hout'⟩ := added_isOk_iff.2 hsecond
    rw [hredrawn.congr fun _ _ => PutsIn.preamble_eq] at hfront
    exact ⟨out', hout', by rw [← hscored, ← hsame, (plusLines_eq_iff hout').2 hfront]⟩

/-! A line that is added and looks like a header, and the same patch with a context line taken out, and a removed
line and a header put in. -/

def headerAddition : List Char :=
  Text.unlines ["--- a".toList, "@@ -1 +7 @@".toList, "+@@ -1 +1 @@ if (".toList, " kept".toList, "+)".toList]

def otherContext : List Char :=
  Text.unlines ["--- a".toList, "@@ -1 +7 @@".toList, "-old".toList, "+@@ -1 +1 @@ if (".toList, "@@ odd".toList,
    "+)".toList]

theorem redrawn_otherContext : Redrawn (Text.lines headerAddition) (Text.lines otherContext) := by
  have hheader : isHeader "@@ -1 +7 @@".toList = true := by decide
  have hremoved : PutsIn (["--- a".toList, "@@ -1 +7 @@".toList] ++ ["+@@ -1 +1 @@ if (".toList, "+)".toList])
      (["--- a".toList, "@@ -1 +7 @@".toList] ++ "-old".toList :: ["+@@ -1 +1 @@ if (".toList, "+)".toList]) :=
    .line ⟨_, by simp, hheader⟩ (by decide)
  have hodd : PutsIn
      (["--- a".toList, "@@ -1 +7 @@".toList, "-old".toList, "+@@ -1 +1 @@ if (".toList] ++ ["+)".toList])
      (["--- a".toList, "@@ -1 +7 @@".toList, "-old".toList, "+@@ -1 +1 @@ if (".toList] ++
        "@@ odd".toList :: ["+)".toList]) :=
    .line ⟨_, by simp, hheader⟩ (by decide)
  have hkept : PutsIn (["--- a".toList, "@@ -1 +7 @@".toList, "+@@ -1 +1 @@ if (".toList] ++ ["+)".toList])
      (["--- a".toList, "@@ -1 +7 @@".toList, "+@@ -1 +1 @@ if (".toList] ++ " kept".toList :: ["+)".toList]) :=
    .line ⟨_, by simp, hheader⟩ (by decide)
  exact ((Relation.EqvGen.rel _ _ hkept).symm.trans _ _ _ (.rel _ _ hremoved)).trans _ _ _ (.rel _ _ hodd)

theorem score_of_added_lines_redrawn :
    Readable headerAddition ∧ (∀ line ∈ preamble (Text.lines headerAddition), line.head? ≠ some '+') ∧
      plusLines headerAddition = ["@@ -1 +1 @@ if (".toList, [')']] ∧ score headerAddition = 2 ∧
      score otherContext = 2 ∧
      ∃ out, added otherContext = .ok out ∧ out.map (·.content) = ["@@ -1 +1 @@ if (".toList, [')']] := by
  have hread : Readable headerAddition := by decide
  have hfront : ∀ line ∈ preamble (Text.lines headerAddition), line.head? ≠ some '+' := by decide
  obtain ⟨out, hout, hlines, hscore, hother⟩ := score_of_added_lines hread hfront
  have hadded : added headerAddition = .ok [⟨7, "@@ -1 +1 @@ if (".toList⟩, ⟨9, [')']⟩] := by decide
  rw [hadded] at hout
  cases hout
  have htwo : score headerAddition = 2 := hscore.trans (by decide)
  obtain ⟨hsame, hcontents⟩ := hother otherContext redrawn_otherContext
  exact ⟨hread, hfront, hlines, htwo, hsame.trans htwo, hcontents (by decide)⟩

end PullReview.Diff
