/-!
# Lines

A text is cut at line feeds and only there: a text with `n` line feeds has `n + 1` lines, so the
empty text has one empty line, and joining the lines again gives the text back.

| here | there |
| --- | --- |
| `lines` | `split("\n")` |
-/

namespace PullReview.Text

/-- The lines before, after and between the line feeds. -/
def lines (cs : List Char) : List (List Char) :=
  cs.foldr (fun c ls => if c = '\n' then [] :: ls else (c :: ls.headD []) :: ls.tail) [[]]

/-- The text whose lines are the given ones. -/
def unlines : List (List Char) → List Char
  | [] => []
  | [l] => l
  | l :: ls => l ++ '\n' :: unlines ls

theorem lines_cons (c : Char) (cs : List Char) :
    lines (c :: cs) = if c = '\n' then [] :: lines cs else (c :: (lines cs).headD []) :: (lines cs).tail := rfl

theorem lines_ne_nil (cs : List Char) : lines cs ≠ [] := by
  cases cs with
  | nil => simp [lines]
  | cons c cs => rw [lines_cons]; split <;> simp

theorem unlines_lines (cs : List Char) : unlines (lines cs) = cs := by
  induction cs with
  | nil => rfl
  | cons c cs ih =>
    rw [lines_cons]
    match hl : lines cs, lines_ne_nil cs with
    | l :: ls, _ =>
      rw [hl] at ih
      split
      · subst_vars; simp [unlines]
      · cases ls <;> simp_all [unlines]

/-- No line holds a line feed. -/
theorem noFeed_of_mem_lines {cs l : List Char} (h : l ∈ lines cs) : '\n' ∉ l := by
  induction cs generalizing l with
  | nil =>
    obtain rfl := List.mem_singleton.1 h
    exact List.not_mem_nil
  | cons c cs ih =>
    match hl : lines cs, lines_ne_nil cs with
    | m :: ms, _ =>
      rw [lines_cons, hl] at h
      rw [hl] at ih
      split at h
      · rcases List.mem_cons.1 h with rfl | h
        · exact List.not_mem_nil
        · exact ih h
      · rename_i hc
        rcases List.mem_cons.1 h with rfl | h
        · exact List.not_mem_cons_of_ne_of_not_mem (Ne.symm hc) (ih List.mem_cons_self)
        · exact ih (List.mem_cons_of_mem m h)

theorem lines_of_noFeed {l : List Char} (h : '\n' ∉ l) : lines l = [l] := by
  induction l with
  | nil => rfl
  | cons c l ih =>
    rw [List.mem_cons, not_or] at h
    rw [lines_cons, if_neg (Ne.symm h.1), ih h.2]
    rfl

theorem lines_append_feed {l : List Char} (h : '\n' ∉ l) (cs : List Char) :
    lines (l ++ '\n' :: cs) = l :: lines cs := by
  induction l with
  | nil => rfl
  | cons c l ih =>
    rw [List.mem_cons, not_or] at h
    rw [List.cons_append, lines_cons, if_neg (Ne.symm h.1), ih h.2]
    rfl

/-- Two texts joined by a line feed have the lines of both. -/
theorem lines_append (cs ds : List Char) : lines (cs ++ '\n' :: ds) = lines cs ++ lines ds := by
  induction cs with
  | nil => rfl
  | cons c cs ih =>
    rw [List.cons_append, lines_cons, lines_cons, ih]
    split
    · rfl
    · cases hl : lines cs with
      | nil => exact absurd hl (lines_ne_nil cs)
      | cons l ls => rfl

/-- Joined lines are cut where they were joined. -/
theorem lines_unlines {ls : List (List Char)} (hne : ls ≠ []) (h : ∀ l ∈ ls, '\n' ∉ l) :
    lines (unlines ls) = ls := by
  induction ls with
  | nil => exact absurd rfl hne
  | cons l ls ih =>
    have hl : '\n' ∉ l := h l List.mem_cons_self
    cases ls with
    | nil => exact lines_of_noFeed hl
    | cons m ls =>
      rw [unlines, lines_append_feed hl, ih (List.cons_ne_nil m ls) fun k hk => h k (List.mem_cons_of_mem l hk)]
      nofun

end PullReview.Text
