import Mathlib.Data.List.Nodup
import PullReview.Proofs.Web.Pages
import PullReview.Report.Overview

/-!
# Counts and latest reviews

What the overview and the report of a repository are made of, said of the reviews alone: the statuses that occur are
counted, every review once (`totalOf_countByStatus`), and the latest reviews are some of which none is older than one
that is left out (`exists_omitted`). Where no two reviews were made at one moment, the latest are the first ones in
the order of the listing (`latest_filter_eq`).
-/

namespace PullReview.Report

variable {reviews order : List Review}

/-! ## Counts -/

theorem mem_countByStatus {c : ReviewStatus × Nat} :
    c ∈ countByStatus reviews ↔ c.2 = reviews.countP (·.status == c.1) ∧ c.2 ≠ 0 := by
  obtain ⟨s, n⟩ := c
  have hall : s ∈ (Named.all : List ReviewStatus) := by cases s <;> decide
  simp only [countByStatus, List.mem_filter, List.mem_map, Prod.mk.injEq, bne_iff_ne]
  constructor
  · rintro ⟨⟨_, -, rfl, hn⟩, hne⟩
    exact ⟨hn.symm, hne⟩
  · rintro ⟨hn, hne⟩
    exact ⟨⟨s, hall, rfl, hn.symm⟩, hne⟩

theorem mem_statuses {s : ReviewStatus} :
    s ∈ (countByStatus reviews).map (·.1) ↔ ∃ r ∈ reviews, r.status = s := by
  have hcount : reviews.countP (·.status == s) ≠ 0 ↔ ∃ r ∈ reviews, r.status = s := by
    simp [List.countP_eq_zero]
  rw [← hcount, List.mem_map]
  constructor
  · rintro ⟨c, hc, rfl⟩
    obtain ⟨hn, hne⟩ := mem_countByStatus.1 hc
    rwa [← hn]
  · exact fun hne => ⟨(s, _), mem_countByStatus.2 ⟨rfl, hne⟩, rfl⟩

theorem nodup_statuses (reviews : List Review) : ((countByStatus reviews).map (·.1)).Nodup := by
  have hsub : ((countByStatus reviews).map (·.1)).Sublist (Named.all : List ReviewStatus) := by
    have hcounted : ((Named.all : List ReviewStatus).map fun s => (s, reviews.countP (·.status == s))).map (·.1) =
        Named.all := by
      rw [List.map_map]
      exact List.map_id _
    rw [← hcounted]
    exact List.filter_sublist.map Prod.fst
  have hall : (Named.all : List ReviewStatus).Nodup := by decide
  exact hall.sublist hsub

/-- The sum of the counts. -/
def totalOf (counts : List (ReviewStatus × Nat)) : Nat := counts.foldr (fun c sum => c.2 + sum) 0

/-- Every review is counted once. -/
theorem totalOf_countByStatus (reviews : List Review) : totalOf (countByStatus reviews) = reviews.length := by
  have hdropped : ∀ counts : List (ReviewStatus × Nat), totalOf (counts.filter (·.2 != 0)) = totalOf counts := by
    intro counts
    induction counts with
    | nil => rfl
    | cons c counts ih =>
      simp only [totalOf] at ih
      by_cases h : c.2 = 0 <;> simp [totalOf, h, ih]
  rw [countByStatus, hdropped]
  induction reviews with
  | nil => rfl
  | cons r reviews ih =>
    simp only [totalOf, Named.all, List.map_cons, List.map_nil, List.foldr_cons, List.foldr_nil, List.countP_cons,
      List.length_cons] at ih ⊢
    cases r.status <;> simp <;> omega

/-! ## Latest reviews -/

/-- Whether no review stands before a newer one. -/
def NewestFirst (reviews : List Review) : Prop := reviews.Pairwise fun a b => b.createdAt ≤ a.createdAt

theorem newestFirst_listing (reviews : List Review) : NewestFirst (reviews.mergeSort comesBefore) := by
  refine (List.pairwise_mergeSort comesBefore_trans comesBefore_total reviews).imp fun hab => ?_
  rcases comesBefore_iff.1 hab with h | ⟨h, -⟩
  · exact Int.le_of_lt h
  · exact Int.le_of_eq h.symm

theorem newestFirst_sorted (reviews : List Review) :
    NewestFirst (reviews.mergeSort fun a b => b.createdAt ≤ a.createdAt) := by
  have htrans (a b c : Review) (hab : decide (b.createdAt ≤ a.createdAt) = true)
      (hbc : decide (c.createdAt ≤ b.createdAt) = true) : decide (c.createdAt ≤ a.createdAt) = true := by
    rw [decide_eq_true_eq] at hab hbc ⊢
    exact Int.le_trans hbc hab
  have htotal (a b : Review) :
      (decide (b.createdAt ≤ a.createdAt) || decide (a.createdAt ≤ b.createdAt)) = true := by
    rw [Bool.or_eq_true, decide_eq_true_eq, decide_eq_true_eq]
    exact Int.le_total b.createdAt a.createdAt
  exact (List.pairwise_mergeSort htrans htotal reviews).imp of_decide_eq_true

theorem length_latest (count : Nat) (reviews : List Review) :
    (latest count reviews).length = min count reviews.length := by
  rw [latest, List.length_take, List.length_mergeSort]

/-- The latest reviews, and those that are left out. -/
theorem exists_omitted (count : Nat) (reviews : List Review) :
    NewestFirst (latest count reviews) ∧ ∃ omitted, (latest count reviews ++ omitted).Perm reviews ∧
      ∀ r ∈ latest count reviews, ∀ o ∈ omitted, o.createdAt ≤ r.createdAt := by
  have hsorted := newestFirst_sorted reviews
  have hperm := List.mergeSort_perm reviews fun a b => b.createdAt ≤ a.createdAt
  unfold latest
  generalize reviews.mergeSort (fun a b => b.createdAt ≤ a.createdAt) = sorted at hsorted hperm
  rw [← List.take_append_drop count sorted] at hsorted hperm
  obtain ⟨hshown, -, hbetween⟩ := List.pairwise_append.1 hsorted
  exact ⟨hshown, sorted.drop count, hperm, hbetween⟩

/-- Reviews made at different moments stand newest first in one way only. -/
theorem latest_filter_eq (hperm : order.Perm reviews) (horder : NewestFirst order)
    (hmoments : (reviews.map (·.createdAt)).Nodup) (count : Nat) (p : Review → Bool) :
    latest count (reviews.filter p) = (order.filter p).take count := by
  rw [latest]
  congr 1
  refine List.Perm.eq_of_pairwise ?_ (newestFirst_sorted _) (horder.sublist List.filter_sublist)
    ((List.mergeSort_perm _ _).trans (hperm.symm.filter p))
  intro a b ha hb hba hab
  have ha : a ∈ reviews := (List.mem_filter.1 (List.mem_mergeSort.1 ha)).1
  have hb : b ∈ reviews := hperm.mem_iff.1 (List.mem_filter.1 hb).1
  exact List.inj_on_of_nodup_map hmoments ha hb (Int.le_antisymm hab hba)

end PullReview.Report
