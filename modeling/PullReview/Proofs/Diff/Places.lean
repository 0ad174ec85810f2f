import Mathlib.Data.List.Forall2
import PullReview.Proofs.Diff.Reading

/-!
# Numbers in any text

Any text can be read as a patch, also one that no hunks come from. What is added and under which number is
said here by the places of the lines, without a running count: a line is added if it starts with a plus sign
and a header stands somewhere before it (`AddsAt`), and its number is counted from the last header before it
that has a start (`Reaches`). Reading a text gives exactly these lines, and two texts can be read apart where
the second begins with a start (`added_places`).
-/

namespace PullReview.Diff

/-! ## Places -/

/-- The line with index `i` is added: it starts with a plus sign, and a line before it opens a hunk. -/
def AddsAt (lines : List (List Char)) (i : Nat) : Prop :=
  (∃ line ∈ lines[i]?, line.head? = some '+') ∧ ∃ header ∈ lines.take i, "@@".toList <+: header

instance (lines : List (List Char)) : DecidablePred (AddsAt lines) := fun i =>
  inferInstanceAs (Decidable ((∃ line ∈ lines[i]?, line.head? = some '+') ∧
    ∃ header ∈ lines.take i, "@@".toList <+: header))

/-- The number that lines reach: of those after the last header with a start each counted one takes a number,
from the start on. Where no header has a start, the lines after the first header are counted from one. -/
inductive Reaches : List (List Char) → Int → Prop
  | start (before : List (List Char)) (h : StartedHeader) (between : List (List Char))
    (hlast : ∀ later : StartedHeader, later.text ∉ between) :
    Reaches (before ++ h.text :: between) ((h.start : Int) - 1 + counted between)
  | zero {before : List (List Char)} {header : List Char} (between : List (List Char))
    (hfirst : ∀ line ∈ before, ¬ "@@".toList <+: line)
    (hheader : "@@".toList <+: header) (hnone : ∀ h : StartedHeader, h.text ∉ header :: between) :
    Reaches (before ++ header :: between) (counted between)

/-- The entry for the line with index `i`: what follows its plus sign, and the number that the lines up to it
reach. -/
def IsEntry (lines : List (List Char)) (i : Nat) (entry : NumberedLine) : Prop :=
  lines[i]? = some ('+' :: entry.content) ∧ Reaches (lines.take (i + 1)) entry.number

namespace Reaches

variable {lines : List (List Char)} {current : Int}

theorem started (lines : List (List Char)) (h : StartedHeader) : Reaches (lines ++ [h.text]) ((h.start : Int) - 1) := by
  have hr := Reaches.start lines h [] (by simp)
  rwa [counted, List.countP_nil, Int.natCast_zero, Int.add_zero] at hr

/-- A line that is no header with a start counts for what it is. -/
theorem concat (hr : Reaches lines current) {line : List Char} (hno : ∀ h : StartedHeader, h.text ≠ line) :
    Reaches (lines ++ [line]) (current + counted [line]) := by
  cases hr with
  | start before h between hlast =>
    have hr := Reaches.start before h (between ++ [line]) fun later hl => by
      rcases List.mem_append.1 hl with hl | hl
      · exact hlast later hl
      · exact hno later (List.mem_singleton.1 hl)
    rw [List.append_assoc, List.cons_append, Int.add_assoc, ← Int.natCast_add, ← counted_append]
    exact hr
  | @zero before header between hfirst hheader hnone =>
    have hr := Reaches.zero (between ++ [line]) hfirst hheader fun h hl => by
      rcases List.mem_append.1 (List.cons_append ▸ hl : h.text ∈ (header :: between) ++ [line]) with hl | hl
      · exact hnone h hl
      · exact hno h (List.mem_singleton.1 hl)
    rw [List.append_assoc, List.cons_append, ← Int.natCast_add, ← counted_append]
    exact hr

/-- One line: the count goes on to what the lines with it reach, and the line is added under that number. -/
theorem step (hr : Reaches lines current) (line : List Char)
    (hshort : ∀ h : StartedHeader, h.text = line → h.digits.length ≤ Text.numeralLimit) :
    ∃ next, Reaches (lines ++ [line]) next ∧
      ∀ rest, addedFrom current (line :: rest) = (addedFrom next rest).map (addition next line ++ ·) := by
  by_cases hstarted : ∃ h : StartedHeader, h.text = line
  · obtain ⟨h, rfl⟩ := hstarted
    refine ⟨_, started lines h, fun rest => ?_⟩
    rw [h.addedFrom_text (hshort h rfl), addition_header h.isHeader_text, map_nil_append]
  · have hno := not_exists.1 hstarted
    refine ⟨_, hr.concat hno, fun rest => ?_⟩
    cases hheader : isHeader line with
    | true =>
      rw [addedFrom_of_no_start hheader hno, addition_header hheader, map_nil_append, counted_header hheader,
        Int.natCast_zero, Int.add_zero]
    | false => exact addedFrom_body hheader current rest

/-- The first header. -/
theorem first (hfirst : ∀ line ∈ lines, ¬ "@@".toList <+: line) {header : List Char} (hheader : isHeader header = true)
    (hshort : ∀ h : StartedHeader, h.text = header → h.digits.length ≤ Text.numeralLimit) :
    ∃ next, Reaches (lines ++ [header]) next ∧ ∀ rest, addedFrom 0 (header :: rest) = addedFrom next rest := by
  by_cases hstarted : ∃ h : StartedHeader, h.text = header
  · obtain ⟨h, rfl⟩ := hstarted
    exact ⟨_, started lines h, h.addedFrom_text (hshort h rfl) 0⟩
  · have hno := not_exists.1 hstarted
    refine ⟨_, zero [] hfirst (isHeader_iff.1 hheader) fun h hl => ?_, addedFrom_of_no_start hheader hno 0⟩
    exact hno h (List.mem_singleton.1 hl)

end Reaches

/-! ## Reading by places -/

/-- From inside a hunk on, the entries are those of the lines left that start with a plus sign. -/
theorem addedFrom_places {passed : List (List Char)} {current : Int} (hr : Reaches passed current)
    (rest : List (List Char)) (hshort : ∀ h : StartedHeader, h.text ∈ rest → h.digits.length ≤ Text.numeralLimit) :
    ∃ out, addedFrom current rest = .ok out ∧
      List.Forall₂ (IsEntry (passed ++ rest)) ((List.range' passed.length rest.length).filter fun i =>
        ∃ line ∈ (passed ++ rest)[i]?, line.head? = some '+') out := by
  induction rest generalizing passed current with
  | nil => exact ⟨[], rfl, .nil⟩
  | cons line rest ih =>
    obtain ⟨next, hnext, hstep⟩ := hr.step line fun h hl => hshort h (by simp [hl])
    obtain ⟨out, hout, hentries⟩ := ih hnext fun h hl => hshort h (List.mem_cons_of_mem _ hl)
    have hget : (passed ++ line :: rest)[passed.length]? = some line := by simp
    have htake : (passed ++ line :: rest).take (passed.length + 1) = passed ++ [line] := by
      simp [List.take_append, List.take_of_length_le]
    rw [List.append_assoc, List.singleton_append, List.length_append, List.length_singleton] at hentries
    refine ⟨addition next line ++ out, by rw [hstep, hout]; rfl, ?_⟩
    rw [List.length_cons, List.range'_succ]
    by_cases hplus : line.head? = some '+'
    · obtain ⟨content, rfl⟩ : ∃ content, line = '+' :: content := by
        obtain ⟨c, content, rfl⟩ := List.exists_cons_of_ne_nil (l := line) (by rintro rfl; cases hplus)
        cases hplus
        exact ⟨content, rfl⟩
      rw [List.filter_cons_of_pos (by simp)]
      exact .cons ⟨hget, htake ▸ hnext⟩ hentries
    · rw [List.filter_cons_of_neg (by simp [hplus]), addition_of_head hplus]
      exact hentries

/-- What stands before the first header and from it on. -/
theorem first_header (lines : List (List Char)) :
    ∃ front, (∀ line ∈ front, ¬ "@@".toList <+: line) ∧
      (lines = front ∧ lines.dropWhile (fun line => !isHeader line) = [] ∨
        ∃ header tail, isHeader header = true ∧ lines = front ++ header :: tail ∧
          lines.dropWhile (fun line => !isHeader line) = header :: tail) := by
  have hsplit := List.takeWhile_append_dropWhile (p := fun line => !isHeader line) (l := lines)
  refine ⟨lines.takeWhile fun line => !isHeader line, fun line hline hopens => ?_, ?_⟩
  · have := List.mem_takeWhile_imp hline
    rw [isHeader_iff.2 hopens] at this
    cases this
  · cases hrest : lines.dropWhile (fun line => !isHeader line) with
    | nil =>
      rw [hrest, List.append_nil] at hsplit
      exact .inl ⟨hsplit.symm, rfl⟩
    | cons header tail =>
      rw [hrest] at hsplit
      have hhead := List.head?_dropWhile_not (fun line => !isHeader line) lines
      rw [hrest] at hhead
      exact .inr ⟨header, tail, by simpa using hhead, hsplit.symm, rfl⟩

theorem filter_addsAt_of_no_header {lines : List (List Char)} (hno : ∀ line ∈ lines, ¬ "@@".toList <+: line) :
    (List.range lines.length).filter (AddsAt lines) = [] := by
  refine List.filter_eq_nil_iff.2 fun i _ => ?_
  rw [decide_eq_true_eq]
  rintro ⟨-, header, hheader, hopens⟩
  exact hno header (List.mem_of_mem_take hheader) hopens

/-- Nothing is added up to the first header, and every line with a plus sign after it. -/
theorem filter_addsAt {front tail : List (List Char)} {header : List Char} (hheader : "@@".toList <+: header)
    (hfront : ∀ line ∈ front, ¬ "@@".toList <+: line) :
    (List.range (front ++ header :: tail).length).filter (AddsAt (front ++ header :: tail)) =
      (List.range' (front ++ [header]).length tail.length).filter fun i =>
        ∃ line ∈ (front ++ header :: tail)[i]?, line.head? = some '+' := by
  have hlength : (front ++ header :: tail).length = (front ++ [header]).length + tail.length := by
    simp
    omega
  rw [hlength, List.range_eq_range', ← List.range'_append_1, List.filter_append, Nat.zero_add]
  have hnone : (List.range' 0 (front ++ [header]).length).filter (AddsAt (front ++ header :: tail)) = [] := by
    refine List.filter_eq_nil_iff.2 fun i hi => ?_
    have hi : i ≤ front.length := by
      have := (List.mem_range'_1.1 hi).2
      simp at this
      omega
    simp only [decide_eq_true_eq]
    rintro ⟨-, early, hearly, hopens⟩
    rw [List.take_append_of_le_length hi] at hearly
    exact hfront early (List.mem_of_mem_take hearly) hopens
  rw [hnone, List.nil_append]
  refine List.filter_congr fun i hi => ?_
  have hi : front.length < i := by
    have := (List.mem_range'_1.1 hi).1
    simp at this
    omega
  refine decide_eq_decide.2 ⟨And.left, fun hplus => ⟨hplus, header, ?_, hheader⟩⟩
  obtain ⟨k, rfl⟩ := Nat.exists_eq_add_of_lt hi
  simp [List.take_append, Nat.add_assoc]

/-! ## Texts one after the other -/

/-- Where a header with a start stands, what was counted before does not matter. -/
theorem addedFrom_append_started (h : StartedHeader) (current : Int) (lines rest : List (List Char)) :
    addedFrom current (lines ++ h.text :: rest) =
      (addedFrom current lines).bind fun out => (addedFrom 0 (h.text :: rest)).map (out ++ ·) := by
  induction lines generalizing current with
  | nil =>
    have hafter : afterHeader current h.text = afterHeader 0 h.text := by
      rw [afterHeader, afterHeader, h.startDigits?_text]
    rw [List.nil_append, addedFrom_header h.isHeader_text, hafter, ← addedFrom_header h.isHeader_text]
    exact (map_nil_append _).symm
  | cons line lines ih =>
    cases hheader : isHeader line with
    | true =>
      rw [List.cons_append, addedFrom_header hheader, addedFrom_header hheader]
      cases afterHeader current line with
      | error e => rfl
      | ok next => exact ih next
    | false =>
      rw [List.cons_append, addedFrom_body hheader, addedFrom_body hheader, ih]
      cases addedFrom (current + counted [line]) lines with
      | error e => rfl
      | ok out => cases addedFrom 0 (h.text :: rest) <;> simp [Except.map, Except.bind]

theorem added_append_started {second : List Char} {h : StartedHeader}
    (hsecond : (Text.lines second).head? = some h.text) (first : List Char) :
    added (first ++ '\n' :: second) = (added first).bind fun out => (added second).map (out ++ ·) := by
  obtain ⟨rest, hrest⟩ := List.head?_eq_some_iff.1 hsecond
  have hdrop : (h.text :: rest).dropWhile (fun line => !isHeader line) = h.text :: rest :=
    List.dropWhile_cons_of_neg (by simp [h.isHeader_text])
  have hboth : (Text.lines first ++ h.text :: rest).dropWhile (fun line => !isHeader line) =
      (Text.lines first).dropWhile (fun line => !isHeader line) ++ h.text :: rest := by
    rw [List.dropWhile_append, hdrop]
    split
    · rename_i hempty
      rw [List.isEmpty_iff.1 hempty, List.nil_append]
    · rfl
  rw [added, added, added, Text.lines_append, hrest, hboth, hdrop]
  exact addedFrom_append_started h 0 _ rest

/-- **Numbers in any text.** Reading gives one entry for each added line, in the order of the lines. A text
that begins with a start is read after another as it is read alone. -/
theorem added_places {patch : List Char} (hread : Readable patch) :
    (∃ out, added patch = .ok out ∧ List.Forall₂ (IsEntry (Text.lines patch))
      ((List.range (Text.lines patch).length).filter (AddsAt (Text.lines patch))) out) ∧
    ∀ next, Readable next → (∃ h : StartedHeader, (Text.lines next).head? = some h.text) →
      ∃ xs ys, added patch = .ok xs ∧ added next = .ok ys ∧ added (patch ++ '\n' :: next) = .ok (xs ++ ys) := by
  constructor
  · have hshort := readable_iff.1 hread
    rw [added]
    generalize Text.lines patch = lines at *
    obtain ⟨front, hfront, ⟨rfl, hrest⟩ | ⟨header, tail, hheader, rfl, hrest⟩⟩ := first_header lines
    · rw [hrest, filter_addsAt_of_no_header hfront]
      exact ⟨[], rfl, .nil⟩
    · obtain ⟨current, hreaches, hfrom⟩ := Reaches.first hfront hheader fun h hl => hshort h (by simp [hl])
      obtain ⟨out, hout, hentries⟩ := addedFrom_places hreaches tail fun h hl => hshort h (by simp [hl])
      refine ⟨out, by rw [hrest, hfrom, hout], ?_⟩
      rw [List.append_assoc, List.singleton_append, ← filter_addsAt (isHeader_iff.1 hheader) hfront] at hentries
      exact hentries
  · rintro next hnext ⟨h, hfirst⟩
    obtain ⟨xs, hxs⟩ := added_isOk_iff.2 hread
    obtain ⟨ys, hys⟩ := added_isOk_iff.2 hnext
    exact ⟨xs, ys, hxs, hys, by rw [added_append_started hfirst, hxs, hys]; rfl⟩

/-! A line with a plus sign before the first header, headers with and without a start, an empty line and a
marker, and a text that begins with a start of its own. -/

def mixedPatch : List Char :=
  Text.unlines ["+x".toList, "@@ odd @@".toList, "+a".toList, [], "@@ -1 +7,2 +9 @@".toList, "-r".toList,
    "+b".toList, "\\ x".toList, "@@ + 5 @@".toList, " c".toList, "+d".toList]

def laterPatch : List Char := "@@ -0,0 +3 @@ f\n+e".toList

def laterHeader : StartedHeader where
  before := "@@ -0,0 ".toList
  digits := ['3']
  after := " @@ f".toList
  opens := by decide
  first := first_of_no_plus (by decide)
  ne_nil := by decide
  isDigit := List.forall_mem_singleton.2 (by decide)
  whole := by rintro _ ⟨⟩; decide

theorem added_places_mixed :
    Readable mixedPatch ∧ Readable laterPatch ∧ (Text.lines laterPatch).head? = some laterHeader.text ∧
      List.Forall₂ (IsEntry (Text.lines mixedPatch)) [2, 6, 10] [⟨1, ['a']⟩, ⟨7, ['b']⟩, ⟨9, ['d']⟩] ∧
      added (mixedPatch ++ '\n' :: laterPatch) = .ok [⟨1, ['a']⟩, ⟨7, ['b']⟩, ⟨9, ['d']⟩, ⟨3, ['e']⟩] := by
  have hread : Readable mixedPatch := by decide
  have hlater : Readable laterPatch := by decide
  have hfirst : (Text.lines laterPatch).head? = some laterHeader.text := by decide
  obtain ⟨⟨out, hout, hentries⟩, hboth⟩ := added_places hread
  obtain ⟨xs, ys, hxs, hys, happend⟩ := hboth laterPatch hlater ⟨laterHeader, hfirst⟩
  have hmixed : added mixedPatch = .ok [⟨1, ['a']⟩, ⟨7, ['b']⟩, ⟨9, ['d']⟩] := by decide
  have hadds : (List.range (Text.lines mixedPatch).length).filter (AddsAt (Text.lines mixedPatch)) = [2, 6, 10] := by
    decide
  have hlast : added laterPatch = .ok [⟨3, ['e']⟩] := by decide
  rw [hmixed] at hout hxs
  rw [hlast] at hys
  cases hout
  cases hxs
  cases hys
  exact ⟨hread, hlater, hfirst, hadds ▸ hentries, happend⟩

end PullReview.Diff
