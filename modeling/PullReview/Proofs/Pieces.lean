/-!
# Pieces of a list

A list is cut into pieces of one size, the last of which may be shorter. Put together again, the pieces are the list
(`flatten_pieces`), and so are the first of them the front of the list (`flatten_take_pieces`).
-/

namespace PullReview.Report

variable {α : Type} {size : Nat}

/-- The pieces of a list that are all of one size, but for the last. -/
def pieces (size : Nat) (l : List α) : List (List α) :=
  (List.range ((l.length + size - 1) / size)).map fun k => (l.drop (k * size)).take size

/-- There is a piece for every start that is in the list. -/
theorem lt_pieceCount_iff (h : 0 < size) (n k : Nat) : k < (n + size - 1) / size ↔ k * size < n := by
  rw [← Nat.succ_le_iff, Nat.le_div_iff_mul_le h, Nat.succ_mul]
  omega

theorem length_pieces (size : Nat) (l : List α) : (pieces size l).length = (l.length + size - 1) / size := by
  rw [pieces, List.length_map, List.length_range]

theorem length_pieces_eq_zero_iff (h : 0 < size) (l : List α) : (pieces size l).length = 0 ↔ l.length = 0 := by
  have hfirst := lt_pieceCount_iff h l.length 0
  rw [Nat.zero_mul, ← length_pieces] at hfirst
  omega

/-- What starts beyond the list is empty, like a piece that is not there. -/
theorem getD_pieces (h : 0 < size) (l : List α) (k : Nat) :
    (pieces size l).getD k [] = (l.drop (k * size)).take size := by
  by_cases hk : k < (l.length + size - 1) / size
  · simp [pieces, hk]
  · have hle : l.length ≤ k * size := Nat.le_of_not_lt fun hlt => hk ((lt_pieceCount_iff h _ _).2 hlt)
    have hnone : (pieces size l)[k]? = none := by
      rw [List.getElem?_eq_none_iff, length_pieces]
      omega
    rw [List.getD_eq_getElem?_getD, hnone, List.drop_eq_nil_of_le hle, List.take_nil]
    rfl

theorem flatten_take_pieces (size n : Nat) (l : List α) :
    ((List.range n).map fun k => (l.drop (k * size)).take size).flatten = l.take (n * size) := by
  induction n with
  | zero => simp
  | succ n ih => rw [List.range_succ, List.map_append, List.flatten_append, ih, Nat.succ_mul, List.take_add]; simp

/-- Put together again, the pieces are the list. -/
theorem flatten_pieces (h : 0 < size) (l : List α) : (pieces size l).flatten = l := by
  have hle : l.length ≤ (l.length + size - 1) / size * size :=
    Nat.le_of_not_lt fun hlt => Nat.lt_irrefl _ ((lt_pieceCount_iff h _ _).2 hlt)
  rw [pieces, flatten_take_pieces, List.take_of_length_le hle]

/-- All pieces but the last are full, and the last is not empty. -/
theorem length_of_pieces (h : 0 < size) (l : List α) :
    (∀ piece ∈ (pieces size l).dropLast, piece.length = size) ∧
      ∀ piece ∈ (pieces size l).getLast?, 1 ≤ piece.length ∧ piece.length ≤ size := by
  unfold pieces
  cases hcount : (l.length + size - 1) / size with
  | zero => simp
  | succ n =>
    have hlast : n * size < l.length := (lt_pieceCount_iff h _ _).1 (by omega)
    rw [List.range_succ, List.map_append, List.map_singleton, List.dropLast_concat, List.getLast?_concat]
    constructor
    · intro piece hpiece
      obtain ⟨k, hk, rfl⟩ := List.mem_map.1 hpiece
      have hle : (k + 1) * size ≤ n * size := Nat.mul_le_mul_right size (List.mem_range.1 hk)
      rw [Nat.succ_mul] at hle
      rw [List.length_take, List.length_drop]
      omega
    · intro piece hpiece
      obtain rfl := Option.mem_some_iff.1 hpiece
      rw [List.length_take, List.length_drop]
      omega

end PullReview.Report
