import Mathlib.Data.List.Infix
import Mathlib.Order.Bounds.Basic
import PullReview.Diff.Complexity

/-!
# Counting openers

Openers are counted in one pass from left to right, each consumed before the next is looked for. No opener is a part
of another, so of two that stand in a line the one that starts first also ends first. The pass therefore takes the
opener that ends first, and of any openers that do not overlap at most one has a character in common with it:
the count is the greatest number of openers in the line of which no two overlap (`isGreatest_countOpeners`).
-/

namespace PullReview.Diff

/-! ## Openers in a line -/

theorem ne_nil_of_mem_openers {opener : List Char} (h : opener ∈ openers) : opener ≠ [] := by
  revert opener
  decide

/-- No opener is a part of another. -/
theorem eq_of_infix_of_mem_openers {opener other : List Char} (h : opener ∈ openers) (ho : other ∈ openers)
    (hpart : other <:+: opener) : other = opener := by
  have hall : ∀ opener ∈ openers, ∀ other ∈ openers, other <:+: opener → other = opener := by decide
  exact hall opener h other ho hpart

/-- An opener at a place. -/
structure Occurrence where
  start : Nat
  opener : List Char
  deriving DecidableEq, Repr

namespace Occurrence

/-- The place after the opener. -/
def stop (o : Occurrence) : Nat := o.start + o.opener.length

/-- Whether it is one of the openers, and a line has it at that place. -/
structure IsIn (o : Occurrence) (line : List Char) : Prop where
  mem : o.opener ∈ openers
  spelled : o.opener <+: line.drop o.start

/-- Whether two openers have no character in common. -/
def Apart (o p : Occurrence) : Prop := o.stop ≤ p.start ∨ p.stop ≤ o.start

/-- The opener in the line with one more character in front. -/
def later (o : Occurrence) : Occurrence := { o with start := o.start + 1 }

/-- The opener in the line without its first character. -/
def earlier (o : Occurrence) : Occurrence := { o with start := o.start - 1 }

variable {o p : Occurrence} {c : Char} {line : List Char}

theorem IsIn.start_lt_stop (h : o.IsIn line) : o.start < o.stop := by
  have hlength := List.length_pos_iff.2 (ne_nil_of_mem_openers h.mem)
  simp only [stop]
  omega

theorem IsIn.stop_le_length (h : o.IsIn line) : o.stop ≤ line.length := by
  have hlt := h.start_lt_stop
  have hle := h.spelled.length_le
  rw [List.length_drop] at hle
  simp only [stop] at hlt ⊢
  omega

/-- Of two openers in a line the one that starts first ends first. -/
theorem IsIn.stop_le_stop (ho : o.IsIn line) (hp : p.IsIn line) (h : o.start ≤ p.start) : o.stop ≤ p.stop := by
  by_contra hlt
  simp only [stop, not_le] at hlt
  have hrest : o.opener.drop (p.start - o.start) <+: line.drop p.start := by
    have hdropped := ho.spelled.drop (p.start - o.start)
    rwa [List.drop_drop, Nat.add_sub_cancel' h] at hdropped
  have hwithin : p.opener <+: o.opener.drop (p.start - o.start) := by
    refine List.prefix_of_prefix_length_le hp.spelled hrest ?_
    rw [List.length_drop]
    omega
  have heq := eq_of_infix_of_mem_openers ho.mem hp.mem (hwithin.isInfix.trans (List.drop_suffix _ _).isInfix)
  rw [heq] at hlt
  omega

theorem IsIn.later (h : o.IsIn line) : o.later.IsIn (c :: line) := ⟨h.mem, h.spelled⟩

theorem IsIn.earlier (h : o.IsIn (c :: line)) (hstart : 1 ≤ o.start) : o.earlier.IsIn line := by
  refine ⟨h.mem, ?_⟩
  have hspelled := h.spelled
  rwa [← Nat.sub_add_cancel hstart, List.drop_succ_cons] at hspelled

theorem Apart.later (h : o.Apart p) : o.later.Apart p.later := by
  simp only [Apart, stop, Occurrence.later] at h ⊢
  omega

theorem Apart.earlier (h : o.Apart p) (ho : 1 ≤ o.start) (hp : 1 ≤ p.start) : o.earlier.Apart p.earlier := by
  simp only [Apart, stop, Occurrence.earlier] at h ⊢
  omega

/-- The opener that is found at the beginning of a line. -/
theorem isIn_of_find? {opener : List Char} (h : openers.find? (·.isPrefixOf line) = some opener) :
    IsIn ⟨0, opener⟩ line := by
  have hfound := List.find?_some h
  exact ⟨List.mem_of_find?_eq_some h, List.isPrefixOf_iff_prefix.1 hfound⟩

theorem one_le_start_of_find? (h : openers.find? (·.isPrefixOf line) = none) (ho : o.IsIn line) : 1 ≤ o.start := by
  by_contra hstart
  have hzero : o.start = 0 := by omega
  have hspelled := ho.spelled
  rw [hzero, List.drop_zero] at hspelled
  exact List.find?_eq_none.1 h o.opener ho.mem (List.isPrefixOf_iff_prefix.2 hspelled)

end Occurrence

/-! ## Openers that do not overlap -/

open Occurrence

/-- Whether all of these openers are in a line and no two of them overlap. -/
structure AreApart (line : List Char) (picked : List Occurrence) : Prop where
  isIn : ∀ o ∈ picked, o.IsIn line
  apart : picked.Pairwise Apart

namespace AreApart

variable {c : Char} {line : List Char} {picked : List Occurrence} {first : Occurrence}

theorem sublist {fewer : List Occurrence} (h : AreApart line picked) (hsub : fewer.Sublist picked) :
    AreApart line fewer :=
  ⟨fun o ho => h.isIn o (hsub.mem ho), h.apart.sublist hsub⟩

theorem later (h : AreApart line picked) : AreApart (c :: line) (picked.map Occurrence.later) where
  isIn := by
    rw [List.forall_mem_map]
    exact fun o ho => (h.isIn o ho).later
  apart := h.apart.map _ fun _ _ hapart => hapart.later

theorem earlier (h : AreApart (c :: line) picked) (hstart : ∀ o ∈ picked, 1 ≤ o.start) :
    AreApart line (picked.map Occurrence.earlier) where
  isIn := by
    rw [List.forall_mem_map]
    exact fun o ho => (h.isIn o ho).earlier (hstart o ho)
  apart := by
    rw [List.pairwise_map]
    exact h.apart.imp_of_mem fun ho hp hapart => hapart.earlier (hstart _ ho) (hstart _ hp)

/-- No two openers that start within the first one of a line are apart: both have its last character. -/
theorem length_le_one (h : AreApart line picked) (hfirst : first.IsIn line) (hstart : first.start = 0)
    (hwithin : ∀ o ∈ picked, o.start < first.stop) : picked.length ≤ 1 := by
  match picked, h, hwithin with
  | [], _, _ | [_], _, _ => simp
  | o :: p :: others, h, hwithin =>
    have ho : o ∈ o :: p :: others := List.mem_cons_self
    have hp : p ∈ o :: p :: others := List.mem_cons_of_mem o List.mem_cons_self
    have hstopo := hfirst.stop_le_stop (h.isIn o ho) (by omega)
    have hstopp := hfirst.stop_le_stop (h.isIn p hp) (by omega)
    have hapart : o.Apart p := List.rel_of_pairwise_cons h.apart List.mem_cons_self
    have hlto := hwithin o ho
    have hltp := hwithin p hp
    simp only [Apart] at hapart
    omega

end AreApart

/-! ## The count -/

theorem length_le_countOpeners {line : List Char} {skip : Nat} {picked : List Occurrence}
    (h : AreApart line picked) (hskip : ∀ o ∈ picked, skip ≤ o.start) : picked.length ≤ countOpeners skip line := by
  induction line generalizing skip picked with
  | nil =>
    cases picked with
    | nil => exact Nat.zero_le _
    | cons o picked =>
      have ho := h.isIn o List.mem_cons_self
      have hlt := ho.start_lt_stop
      have hle := ho.stop_le_length
      rw [List.length_nil] at hle
      omega
  | cons c line ih =>
    have hlater {skip : Nat} {picked : List Occurrence} (h : AreApart (c :: line) picked)
        (hskip : ∀ o ∈ picked, skip + 1 ≤ o.start) : picked.length ≤ countOpeners skip line := by
      have hearlier : ∀ o ∈ picked.map Occurrence.earlier, skip ≤ o.start := by
        rw [List.forall_mem_map]
        exact fun o ho => Nat.le_sub_of_add_le (hskip o ho)
      have hle := ih (h.earlier fun o ho => Nat.le_trans (Nat.le_add_left 1 skip) (hskip o ho)) hearlier
      rwa [List.length_map] at hle
    cases skip with
    | succ skip => exact hlater h hskip
    | zero =>
      rw [countOpeners]
      cases hfind : openers.find? (·.isPrefixOf (c :: line)) with
      | none => exact hlater h fun o ho => one_le_start_of_find? hfind (h.isIn o ho)
      | some opener =>
        have hfirst := isIn_of_find? hfind
        have hpos : 0 < opener.length := List.length_pos_iff.2 (ne_nil_of_mem_openers hfirst.mem)
        -- At most one starts within the first opener; all others come after it.
        have hwithin : (picked.filter (·.start < opener.length)).length ≤ 1 := by
          refine (h.sublist List.filter_sublist).length_le_one hfirst rfl fun o ho => ?_
          simpa [stop] using (List.mem_filter.1 ho).2
        have hafter : (picked.filter fun o => !decide (o.start < opener.length)).length ≤
            countOpeners (opener.length - 1) line := by
          refine hlater (h.sublist List.filter_sublist) fun o ho => ?_
          have hstart := (List.mem_filter.1 ho).2
          simp only [Bool.not_eq_true', decide_eq_false_iff_not, not_lt] at hstart
          omega
        have hparts := List.length_eq_length_filter_add (l := picked) (·.start < opener.length)
        dsimp only
        omega

/-- The openers that the pass takes. -/
theorem exists_areApart (skip : Nat) (line : List Char) :
    ∃ picked, AreApart line picked ∧ (∀ o ∈ picked, skip ≤ o.start) ∧ picked.length = countOpeners skip line := by
  induction line generalizing skip with
  | nil => exact ⟨[], ⟨List.forall_mem_nil _, .nil⟩, List.forall_mem_nil _, rfl⟩
  | cons c line ih =>
    have hlater (skip : Nat) : ∃ picked, AreApart (c :: line) picked ∧ (∀ o ∈ picked, skip + 1 ≤ o.start) ∧
        picked.length = countOpeners skip line := by
      obtain ⟨picked, h, hskip, hlength⟩ := ih skip
      refine ⟨picked.map Occurrence.later, h.later, ?_, by rw [List.length_map, hlength]⟩
      rw [List.forall_mem_map]
      exact fun o ho => Nat.succ_le_succ (hskip o ho)
    cases skip with
    | succ skip => exact hlater skip
    | zero =>
      rw [countOpeners]
      cases hfind : openers.find? (·.isPrefixOf (c :: line)) with
      | none =>
        obtain ⟨picked, h, -, hlength⟩ := hlater 0
        exact ⟨picked, h, fun _ _ => Nat.zero_le _, hlength⟩
      | some opener =>
        have hfirst := isIn_of_find? hfind
        obtain ⟨picked, h, hskip, hlength⟩ := hlater (opener.length - 1)
        refine ⟨⟨0, opener⟩ :: picked, ⟨?_, ?_⟩, fun _ _ => Nat.zero_le _, ?_⟩
        · exact List.forall_mem_cons.2 ⟨hfirst, h.isIn⟩
        · refine List.pairwise_cons.2 ⟨fun o ho => .inl ?_, h.apart⟩
          have hstart := hskip o ho
          simp only [stop]
          omega
        · rw [List.length_cons, hlength, Nat.add_comm]

/-- **Counting from left to right finds the most openers.** The count of a line is the greatest number of openers that
stand in the line and of which no two overlap, however they are picked. -/
theorem isGreatest_countOpeners (line : List Char) :
    IsGreatest {n | ∃ picked, AreApart line picked ∧ picked.length = n} (countOpeners 0 line) := by
  constructor
  · obtain ⟨picked, h, -, hlength⟩ := exists_areApart 0 line
    exact ⟨picked, h, hlength⟩
  · rintro n ⟨picked, h, rfl⟩
    exact length_le_countOpeners h fun _ _ => Nat.zero_le _

/-- In `ifor` two openers share a letter; in `iffunction` they do not. -/
example : countOpeners 0 "ifor".toList = 1 ∧ countOpeners 0 "iffunction".toList = 2 := by decide

end PullReview.Diff
