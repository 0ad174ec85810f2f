import Mathlib.Order.Bounds.Basic
import PullReview.Text.Lines
import PullReview.Diff.Complexity

/-!
# Nesting depth

The scorer finds the greatest nesting depth in one pass over the lines. Said without a pass, a depth is what the
lines read so far come to, their openers less their closers (`balance`), and the greatest depth is the greatest
balance of a front of the lines (`isGreatest_maxDepth`). Lines that come later add fronts and take none away, so a
patch that goes on never scores less (`score_never_falls`).
-/

namespace PullReview.Diff

/-! ## Balance -/

/-- The number of openers on the lines. -/
def openings : List (List Char) → Nat
  | [] => 0
  | line :: lines => countOpeners 0 line + openings lines

/-- The number of closers on the lines. -/
def closings : List (List Char) → Nat
  | [] => 0
  | line :: lines => line.countP (closers.contains ·) + closings lines

/-- How much deeper the lines end than they begin. -/
def balance (lines : List (List Char)) : Int := (openings lines : Int) - closings lines

@[simp] theorem balance_nil : balance [] = 0 := rfl

@[simp] theorem balance_cons (line : List Char) (lines : List (List Char)) :
    balance (line :: lines) = rise line + balance lines := by
  simp only [balance, openings, closings, rise]
  omega

/-! ## The greatest depth -/

variable {depth most : Int} {front lines : List (List Char)}

theorem le_deepest (depth most : Int) (lines : List (List Char)) : most ≤ deepest depth most lines := by
  induction lines generalizing depth most with
  | nil => exact Int.le_refl _
  | cons line lines ih => exact Int.le_trans (Int.le_max_left ..) (ih ..)

/-- No front of the lines ends deeper, if the pass does not begin deeper than its mark. -/
theorem add_balance_le_deepest (hmost : depth ≤ most) (h : front <+: lines) :
    depth + balance front ≤ deepest depth most lines := by
  induction lines generalizing depth most front with
  | nil =>
    have hfront : front = [] := by simpa using h
    subst hfront
    simpa [deepest] using hmost
  | cons line lines ih =>
    cases front with
    | nil =>
      have hmark := le_deepest depth most (line :: lines)
      simp only [balance_nil]
      omega
    | cons first front =>
      obtain ⟨rfl, hfront⟩ := List.cons_prefix_cons.1 h
      have hrest := ih (Int.le_max_right most (depth + rise first)) hfront
      rw [balance_cons, deepest]
      omega

/-- The mark stays, or it is set where a front ends. -/
theorem deepest_eq_or (depth most : Int) (lines : List (List Char)) :
    deepest depth most lines = most ∨ ∃ front, front <+: lines ∧ deepest depth most lines = depth + balance front := by
  induction lines generalizing depth most with
  | nil => exact .inl rfl
  | cons line lines ih =>
    rw [deepest]
    rcases ih (depth + rise line) (max most (depth + rise line)) with h | ⟨front, hfront, h⟩
    · by_cases hle : depth + rise line ≤ most
      · left
        omega
      · right
        refine ⟨[line], by simp, ?_⟩
        simp only [balance_cons, balance_nil]
        omega
    · right
      refine ⟨line :: front, by simpa using hfront, ?_⟩
      rw [h, balance_cons]
      omega

theorem isGreatest_maxDepth (lines : List (List Char)) :
    IsGreatest {depth | ∃ front, front <+: lines ∧ depth = balance front} (maxDepth lines) := by
  constructor
  · rcases deepest_eq_or 0 0 lines with h | ⟨front, hfront, h⟩
    · exact ⟨[], List.nil_prefix, h⟩
    · exact ⟨front, hfront, by simpa [maxDepth] using h⟩
  · rintro depth ⟨front, hfront, rfl⟩
    simpa [maxDepth] using add_balance_le_deepest (Int.le_refl 0) hfront

theorem maxDepth_le_of_prefix (h : front <+: lines) : maxDepth front ≤ maxDepth lines := by
  obtain ⟨shorter, hshorter, hdepth⟩ := (isGreatest_maxDepth front).1
  exact (isGreatest_maxDepth lines).2 ⟨shorter, hshorter.trans h, hdepth⟩

/-! ## The score -/

theorem plusLines_append (patch more : List Char) :
    plusLines (patch ++ '\n' :: more) = plusLines patch ++ plusLines more := by
  simp [plusLines, Text.lines_append]

theorem score_bounds (patch : List Char) : 0 ≤ score patch ∧ score patch ≤ maxScore := by
  have hdepth : 0 ≤ maxDepth (plusLines patch) := le_deepest 0 0 _
  have hadded : 0 ≤ (((plusLines patch).length / linesPerPoint : Nat) : Int) := Int.natCast_nonneg _
  unfold score maxScore
  dsimp only
  omega

theorem score_le_append (patch more : List Char) : score patch ≤ score (patch ++ '\n' :: more) := by
  have hdepth : maxDepth (plusLines patch) ≤ maxDepth (plusLines (patch ++ '\n' :: more)) := by
    rw [plusLines_append]
    exact maxDepth_le_of_prefix (List.prefix_append _ _)
  have hcount : (plusLines patch).length / linesPerPoint ≤
      (plusLines (patch ++ '\n' :: more)).length / linesPerPoint := by
    rw [plusLines_append, List.length_append]
    exact Nat.div_le_div_right (Nat.le_add_right _ _)
  unfold score
  dsimp only
  omega

/-- **More never scores less.** A patch that goes on after a line feed scores no less than before, and ten at
most. The greatest depth of lines is the greatest of openers less closers over all fronts of them, the empty one
included. -/
theorem score_never_falls (patch more : List Char) (lines : List (List Char)) :
    (score patch ≤ score (patch ++ '\n' :: more) ∧ score (patch ++ '\n' :: more) ≤ 10) ∧
      IsGreatest {depth : Int | ∃ front, front <+: lines ∧ depth = (openings front : Int) - closings front}
        (maxDepth lines) :=
  ⟨⟨score_le_append patch more, (score_bounds _).2⟩, isGreatest_maxDepth lines⟩

/-! Openers that only make up for closers before them reach no depth. -/

example : maxDepth ["\x7d)".toList, "if (".toList] = 0 := by decide

end PullReview.Diff
