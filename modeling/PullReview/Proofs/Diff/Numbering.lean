import PullReview.Diff.Added

/-!
# Numbers of added lines

A patch comes from hunks: each stands somewhere in the old file and keeps, removes and inserts lines
there. What hunks make of a file (`applied?`) and how they are written (`IsPatch`) is said here without a
running count. Reading any written form of hunks that apply gives the inserted lines with their places
in the new file (`added_eq_insertions`), whatever the lines look like.
-/

namespace PullReview.Diff

/-! ## Hunks -/

/-- A line of a file: a text without line feeds. -/
structure Line where
  text : List Char
  noFeed : '\n' ∉ text
  deriving DecidableEq

/-- A line of a new file, and whether it has been inserted. -/
structure NewLine where
  line : Line
  isInserted : Bool
  deriving DecidableEq

/-- What a hunk does with a line. -/
inductive Edit where
  | keep (line : Line)
  | remove (line : Line)
  | insert (line : Line)

namespace Edit

/-- The line of the old file. -/
def old? : Edit → Option Line
  | keep l | remove l => some l
  | insert _ => none

/-- The line of the new file. -/
def new? : Edit → Option NewLine
  | keep l => some ⟨l, false⟩
  | remove _ => none
  | insert l => some ⟨l, true⟩

end Edit

/-- Edits one after the other, with `before` lines of the old file before them. -/
structure Hunk where
  before : Nat
  edits : List Edit

namespace Hunk

def old (h : Hunk) : List Line := h.edits.filterMap Edit.old?

def new (h : Hunk) : List NewLine := h.edits.filterMap Edit.new?

end Hunk

/-- Lines of the old file in the new one. -/
def unchanged (lines : List Line) : List NewLine := lines.map (⟨·, false⟩)

/-- The new file that hunks make of the lines left of an old one after the first `passed`. The hunks apply
if each stands after the end of the one before, and what it takes from the old file is there. -/
def applied? (passed : Nat) (left : List Line) : List Hunk → Option (List NewLine)
  | [] => some (unchanged left)
  | h :: hs =>
    let between := h.before - passed
    if passed ≤ h.before ∧ between ≤ left.length ∧ h.old <+: left.drop between then
      (applied? (h.before + h.old.length) (left.drop (between + h.old.length)) hs).map fun after =>
        unchanged (left.take between) ++ h.new ++ after
    else none

/-- The inserted lines of a new file with their numbers; the first line is number one. -/
def insertions (new : List NewLine) : List NumberedLine :=
  (new.zipIdx 1).filterMap fun (l, n) => if l.isInserted then some ⟨n, l.line.text⟩ else none

/-! ## Written patches -/

/-- A number in decimal digits, possibly with zeros before it. -/
def IsNumeral (n : Nat) (cs : List Char) : Prop :=
  (∃ zeros, cs = List.replicate zeros '0' ++ Nat.toDigits 10 n) ∧ cs.length ≤ Text.numeralLimit

/-- The start and the count of a range of lines; the count one may be left out. -/
inductive IsRange (start count : Nat) : List Char → Prop
  | full {s c : List Char} (hs : IsNumeral start s) (hc : IsNumeral count c) : IsRange start count (s ++ ',' :: c)
  | single {s : List Char} (hs : IsNumeral start s) (hc : count = 1) : IsRange start count s

/-- The start of a range of `count` lines with `before` lines before it: its first line, or the line before
it if it is empty. -/
def rangeStart (before count : Nat) : Nat := if count = 0 then before else before + 1

/-- The header of a hunk, with `made` lines of the new file before it. -/
def Hunk.IsHeader (h : Hunk) (made : Nat) (cs : List Char) : Prop :=
  ∃ old new heading,
    IsRange (rangeStart h.before h.old.length) h.old.length old ∧
    IsRange (rangeStart made h.new.length) h.new.length new ∧ '\n' ∉ heading ∧
    cs = "@@ -".toList ++ old ++ " +".toList ++ new ++ " @@".toList ++ heading

/-- The line of an edit. A kept line that is empty may be written without its blank. -/
inductive Edit.IsWritten : Edit → List Char → Prop
  | keep (l : Line) : IsWritten (.keep l) (' ' :: l.text)
  | keepEmpty (l : Line) (h : l.text = []) : IsWritten (.keep l) []
  | remove (l : Line) : IsWritten (.remove l) ('-' :: l.text)
  | insert (l : Line) : IsWritten (.insert l) ('+' :: l.text)

/-- The lines of edits. Markers, which start with a backslash, may stand between them. -/
inductive AreEdits : List Edit → List (List Char) → Prop
  | nil : AreEdits [] []
  | marker {es : List Edit} {ls : List (List Char)} (note : Line) (h : AreEdits es ls) :
    AreEdits es (('\\' :: note.text) :: ls)
  | edit {e : Edit} {es : List Edit} {l : List Char} {ls : List (List Char)} (he : e.IsWritten l)
    (h : AreEdits es ls) : AreEdits (e :: es) (l :: ls)

/-- The lines of hunks, after `passed` lines of the old file and the `made` lines of the new one that come
from them. -/
inductive AreHunks : Nat → Nat → List Hunk → List (List Char) → Prop
  | nil (passed made : Nat) : AreHunks passed made [] []
  | hunk {passed made : Nat} {h : Hunk} {hs : List Hunk} {header : List Char} {body rest : List (List Char)}
    (hheader : h.IsHeader (made + (h.before - passed)) header) (hbody : AreEdits h.edits body)
    (hrest : AreHunks (h.before + h.old.length) (made + (h.before - passed) + h.new.length) hs rest) :
    AreHunks passed made (h :: hs) (header :: body ++ rest)

/-- A patch of hunks: lines about the file, then the hunks, then possibly a last line feed. -/
def IsPatch (hunks : List Hunk) (patch : List Char) : Prop :=
  ∃ preamble body ending,
    (∀ l ∈ preamble, '\n' ∉ l ∧ ¬ "@@".toList <+: l) ∧ AreHunks 0 0 hunks body ∧
    (ending = [] ∨ ending = [[]]) ∧ patch = Text.unlines (preamble ++ body ++ ending)

/-! ## Numerals -/

section Numerals

open Text

theorem digitValue?_of_isDigit {c : Char} (h : c.isDigit = true) : digitValue? c = some (c.toNat - '0'.toNat) := by
  obtain ⟨hlow, hhigh⟩ := Char.isDigit_iff_toNat.1 h
  have hfind : digitZeros.find? (fun first => first ≤ c.toNat && c.toNat < first + 10) = some 0x30 :=
    List.find?_cons_of_pos (by simpa using ⟨hlow, Nat.lt_succ_of_le hhigh⟩)
  rw [digitValue?, hfind]
  rfl

/-- The digits of a text that holds nothing else denote what the text does. -/
theorem ofDigits_filterMap {cs : List Char} (h : ∀ c ∈ cs, c.isDigit = true) :
    ofDigits (cs.filterMap digitValue?) = Nat.ofDigitChars 10 cs 0 := by
  rw [ofDigits, Nat.ofDigitChars_eq_foldl]
  generalize 0 = n
  induction cs generalizing n with
  | nil => rfl
  | cons c cs ih =>
    rw [List.filterMap_cons_some (digitValue?_of_isDigit (h c List.mem_cons_self)), List.foldl_cons, List.foldl_cons]
    exact ih (fun d hd => h d (List.mem_cons_of_mem c hd)) _

namespace IsNumeral

variable {n : Nat} {cs : List Char}

theorem isDigit (h : IsNumeral n cs) : ∀ c ∈ cs, c.isDigit = true := by
  obtain ⟨⟨zeros, rfl⟩, -⟩ := h
  intro c hc
  rcases List.mem_append.1 hc with hc | hc
  · rw [List.eq_of_mem_replicate hc]
    rfl
  · exact Nat.isDigit_of_mem_toDigits (by decide) (by decide) hc

theorem ne_nil (h : IsNumeral n cs) : cs ≠ [] := by
  obtain ⟨⟨zeros, rfl⟩, -⟩ := h
  exact List.append_ne_nil_of_right_ne_nil _ Nat.toDigits_ne_nil

theorem ofDigitChars_eq (h : IsNumeral n cs) : Nat.ofDigitChars 10 cs 0 = n := by
  obtain ⟨⟨zeros, rfl⟩, -⟩ := h
  rw [Nat.ofDigitChars_append, Nat.ofDigitChars_replicate_zero, Nat.mul_zero, Nat.ofDigitChars_ten_toDigits]

/-- A numeral is read up to the first character that is no digit. -/
theorem leadingDigits_append (h : IsNumeral n cs) {c : Char} (hc : Text.isDigit c = false) (rest : List Char) :
    leadingDigits (cs ++ c :: rest) = cs.filterMap digitValue? := by
  have hall : ∀ d ∈ cs, Text.isDigit d = true := fun d hd => by
    rw [Text.isDigit, digitValue?_of_isDigit (h.isDigit d hd)]
    rfl
  rw [leadingDigits, List.takeWhile_append_of_pos hall, List.takeWhile_cons_of_neg (by simp [hc]), List.append_nil]

theorem readNumeral (h : IsNumeral n cs) : Text.readNumeral (cs.filterMap digitValue?) = .ok n := by
  have hlength : (cs.filterMap digitValue?).length ≤ numeralLimit := Nat.le_trans (List.length_filterMap_le _ _) h.2
  rw [Text.readNumeral, if_neg (Nat.not_lt.2 hlength), ofDigits_filterMap h.isDigit, h.ofDigitChars_eq]

end IsNumeral

end Numerals

/-! ## Headers -/

theorem startDigits?_append {cs : List Char} (h : '+' ∉ cs) (rest : List Char) :
    startDigits? (cs ++ rest) = startDigits? rest := by
  induction cs with
  | nil => rfl
  | cons c cs ih =>
    rw [List.mem_cons, not_or] at h
    rw [List.cons_append, startDigits?, if_neg fun hc => h.1 hc.1.symm, ih h.2]

namespace IsRange

variable {start count : Nat} {cs : List Char}

/-- A range is made of digits and commas. -/
theorem isDigit_or_comma (h : IsRange start count cs) : ∀ c ∈ cs, c.isDigit = true ∨ c = ',' := by
  cases h with
  | full hs hc =>
    intro c h
    rw [List.mem_append, List.mem_cons] at h
    rcases h with h | h | h
    · exact .inl (hs.isDigit c h)
    · exact .inr h
    · exact .inl (hc.isDigit c h)
  | single hs => exact fun c h => .inl (hs.isDigit c h)

theorem not_mem (h : IsRange start count cs) {c : Char} (hd : c.isDigit = false) (hc : c ≠ ',') : c ∉ cs := fun hm => by
  rcases h.isDigit_or_comma c hm with hm | hm
  · rw [hd] at hm
    cases hm
  · exact hc hm

/-- After a plus sign, a range gives its start. -/
theorem startDigits?_plus (h : IsRange start count cs) (rest : List Char) :
    ∃ values, startDigits? ('+' :: cs ++ ' ' :: rest) = some values ∧ Text.readNumeral values = .ok start := by
  obtain ⟨s, c, tail, hs, hc, heq⟩ : ∃ s c tail, IsNumeral start s ∧ Text.isDigit c = false ∧
      cs ++ ' ' :: rest = s ++ c :: tail := by
    cases h with
    | @full s c hs hc => exact ⟨s, ',', c ++ ' ' :: rest, hs, by decide, by simp⟩
    | single hs => exact ⟨cs, ' ', rest, hs, by decide, rfl⟩
  refine ⟨_, ?_, hs.readNumeral⟩
  have hne : (s.filterMap Text.digitValue?).isEmpty = false := by
    obtain ⟨d, s', rfl⟩ := List.exists_cons_of_ne_nil hs.ne_nil
    rw [List.filterMap_cons_some (digitValue?_of_isDigit (hs.isDigit d List.mem_cons_self))]
    rfl
  rw [List.cons_append, heq, startDigits?, hs.leadingDigits_append hc, if_pos ⟨rfl, hne⟩]

end IsRange

theorem isHeader_iff {l : List Char} : isHeader l = true ↔ "@@".toList <+: l := by
  show _ ↔ ['@', '@'] <+: l
  match l with
  | [] => simp [isHeader]
  | [c] => simp [isHeader, List.cons_prefix_cons]
  | c :: d :: l =>
    simp only [List.cons_prefix_cons, List.nil_prefix, and_true]
    constructor
    · intro h
      unfold isHeader at h
      split at h
      · rename_i heq
        cases heq
        exact ⟨rfl, rfl⟩
      · cases h
    · rintro ⟨rfl, rfl⟩
      rfl

namespace Hunk.IsHeader

variable {h : Hunk} {made : Nat} {cs : List Char}

theorem isHeader (hh : h.IsHeader made cs) : Diff.isHeader cs = true := by
  obtain ⟨old, new, heading, -, -, -, rfl⟩ := hh
  rfl

theorem noFeed (hh : h.IsHeader made cs) : '\n' ∉ cs := by
  obtain ⟨old, new, heading, hold, hnew, hheading, rfl⟩ := hh
  have hold := hold.not_mem (c := '\n') rfl (by decide)
  have hnew := hnew.not_mem (c := '\n') rfl (by decide)
  simp [hold, hnew, hheading]

/-- After the header of a hunk the count stands before the start of its new range. -/
theorem afterHeader (hh : h.IsHeader made cs) (current : Int) :
    Diff.afterHeader current cs = .ok ((rangeStart made h.new.length : Int) - 1) := by
  obtain ⟨old, new, heading, hold, hnew, -, rfl⟩ := hh
  obtain ⟨values, hvalues, hread⟩ := hnew.startDigits?_plus ("@@".toList ++ heading)
  have hbefore : '+' ∉ "@@ -".toList ++ old ++ [' '] := by
    have hold := hold.not_mem (c := '+') rfl (by decide)
    simp [hold]
  have hsplit : "@@ -".toList ++ old ++ " +".toList ++ new ++ " @@".toList ++ heading =
      ("@@ -".toList ++ old ++ [' ']) ++ ('+' :: new ++ ' ' :: ("@@".toList ++ heading)) := by simp
  rw [Diff.afterHeader, hsplit, startDigits?_append hbefore, hvalues]
  simp only [hread]
  rfl

end Hunk.IsHeader

/-! ## Edits -/

/-- The inserted lines, `current` being the number of the line before the first. -/
def numbered (current : Int) : List NewLine → List NumberedLine
  | [] => []
  | l :: ls =>
    if l.isInserted then ⟨current + 1, l.line.text⟩ :: numbered (current + 1) ls else numbered (current + 1) ls

theorem insertions_eq_numbered (new : List NewLine) : insertions new = numbered 0 new := by
  have hfrom : ∀ k : Nat, (new.zipIdx (k + 1)).filterMap (fun (l, n) =>
      if l.isInserted then some (⟨n, l.line.text⟩ : NumberedLine) else none) = numbered k new := by
    induction new with
    | nil => exact fun _ => rfl
    | cons l ls ih =>
      intro k
      rw [List.zipIdx_cons, numbered, ← Int.natCast_succ, ← ih (k + 1)]
      split
      · rename_i h
        simp [h]
      · rename_i h
        simp [h]
  exact hfrom 0

theorem numbered_append (current : Int) (xs ys : List NewLine) :
    numbered current (xs ++ ys) = numbered current xs ++ numbered (current + xs.length) ys := by
  induction xs generalizing current with
  | nil => simp [numbered]
  | cons x xs ih =>
    have hlength : current + ((x :: xs).length : Int) = current + 1 + xs.length := by
      rw [List.length_cons]
      omega
    rw [List.cons_append, numbered, numbered, ih, hlength]
    split <;> rfl

theorem numbered_unchanged (current : Int) (ls : List Line) : numbered current (unchanged ls) = [] := by
  induction ls generalizing current with
  | nil => rfl
  | cons l ls ih => exact ih (current + 1)

theorem Edit.IsWritten.noFeed {e : Edit} {l : List Char} (h : e.IsWritten l) : '\n' ∉ l := by
  cases h with
  | keep l | remove l | insert l => simp [l.noFeed]
  | keepEmpty => simp

theorem AreEdits.noFeed {es : List Edit} {ls : List (List Char)} (h : AreEdits es ls) : ∀ l ∈ ls, '\n' ∉ l := by
  induction h with
  | nil => nofun
  | marker note h ih => simpa [note.noFeed] using ih
  | edit he h ih => simpa [he.noFeed] using ih

theorem addedFrom_header {l : List Char} (h : isHeader l = true) (current : Int) (rest : List (List Char)) :
    addedFrom current (l :: rest) = (afterHeader current l).bind (addedFrom · rest) :=
  if_pos h

/-- Reading a line of an edit numbers the line of the new file that comes from it, if any. -/
theorem addedFrom_edit {e : Edit} {l : List Char} (h : e.IsWritten l) (current : Int) (rest : List (List Char)) :
    addedFrom current (l :: rest) =
      (addedFrom (current + e.new?.toList.length) rest).map (numbered current e.new?.toList ++ ·) := by
  have hid : ∀ x : Except Text.LongNumeral (List NumberedLine), x = x.map ([] ++ ·) := fun x => by cases x <;> rfl
  cases h with
  | keep | keepEmpty => exact hid _
  | remove =>
    refine Eq.trans ?_ (hid _)
    exact congrArg (addedFrom · rest) (Int.add_zero current).symm
  | insert => rfl

/-- Reading the lines of edits numbers the lines of the new file that come from them. -/
theorem addedFrom_edits {es : List Edit} {ls : List (List Char)} (h : AreEdits es ls) (current : Int)
    (rest : List (List Char)) :
    addedFrom current (ls ++ rest) =
      (addedFrom (current + (es.filterMap Edit.new?).length) rest).map
        (numbered current (es.filterMap Edit.new?) ++ ·) := by
  induction h generalizing current with
  | nil =>
    rw [List.nil_append, List.filterMap_nil, List.length_nil, Int.natCast_zero, Int.add_zero]
    cases addedFrom current rest <;> rfl
  | marker note h ih => exact ih current
  | @edit e es l ls he h ih =>
    have hnew : (e :: es).filterMap Edit.new? = e.new?.toList ++ es.filterMap Edit.new? := by
      cases e <;> rfl
    rw [List.cons_append, addedFrom_edit he, ih, hnew, numbered_append, List.length_append, Int.natCast_add,
      ← Int.add_assoc]
    cases addedFrom (current + e.new?.toList.length + (es.filterMap Edit.new?).length) rest with
    | ok ls => simp [Except.map]
    | error e => rfl

/-! ## Patches -/

theorem AreHunks.noFeed {passed made : Nat} {hs : List Hunk} {ls : List (List Char)}
    (h : AreHunks passed made hs ls) : ∀ l ∈ ls, '\n' ∉ l := by
  induction h with
  | nil => nofun
  | hunk hheader hbody _ ih =>
    intro l hl
    rw [List.cons_append, List.mem_cons, List.mem_append] at hl
    rcases hl with rfl | hl | hl
    · exact hheader.noFeed
    · exact hbody.noFeed l hl
    · exact ih l hl

/-- Reading the lines of hunks that apply: the count is right at every hunk, wherever it stood before. -/
theorem addedFrom_hunks {passed made : Nat} {hs : List Hunk} {ls : List (List Char)} (h : AreHunks passed made hs ls)
    {left : List Line} {new : List NewLine} (happ : applied? passed left hs = some new) {ending : List (List Char)}
    (hending : ending = [] ∨ ending = [[]]) (current : Int) :
    addedFrom current (ls ++ ending) = .ok (numbered made new) := by
  induction h generalizing left new current with
  | nil passed made =>
    cases happ
    rw [numbered_unchanged]
    rcases hending with rfl | rfl <;> rfl
  | @hunk passed made h hs header body rest hheader hbody hrest ih =>
    rw [applied?] at happ
    split at happ
    · rename_i hfits
      obtain ⟨after, hafter, rfl⟩ := Option.map_eq_some_iff.1 happ
      have hbetween : (unchanged (left.take (h.before - passed))).length = h.before - passed := by
        simp [unchanged, hfits.2.1]
      -- a hunk without new lines has the start before it, and then there is nothing to number
      have hstart : numbered ((rangeStart (made + (h.before - passed)) h.new.length : Int) - 1) h.new =
          numbered (made + (h.before - passed) : Nat) h.new := by
        unfold rangeStart
        split
        · rename_i hnone
          rw [List.length_eq_zero_iff.1 hnone]
          rfl
        · rw [Int.natCast_succ, Int.add_sub_cancel]
      rw [List.cons_append, List.cons_append, addedFrom_header hheader.isHeader, hheader.afterHeader,
        List.append_assoc]
      show addedFrom _ (body ++ (rest ++ ending)) = _
      rw [addedFrom_edits hbody, ih hafter, numbered_append, numbered_append, numbered_unchanged, hbetween,
        List.length_append, hbetween]
      show Except.ok (numbered _ h.new ++ _) = _
      rw [hstart]
      simp [Int.add_assoc]
    · cases happ

theorem IsPatch.lines {hunks : List Hunk} {patch : List Char} (h : IsPatch hunks patch) :
    ∃ preamble body ending, (∀ l ∈ preamble, isHeader l = false) ∧ AreHunks 0 0 hunks body ∧
      (ending = [] ∨ ending = [[]]) ∧ Text.lines patch = preamble ++ body ++ ending := by
  obtain ⟨preamble, body, ending, hpreamble, hbody, hending, rfl⟩ := h
  have hheaders : ∀ l ∈ preamble, isHeader l = false := fun l hl => by
    rw [← Bool.not_eq_true, isHeader_iff]
    exact (hpreamble l hl).2
  by_cases hne : preamble ++ body ++ ending = []
  · -- the empty text has one line, as if it ended in a line feed
    obtain ⟨hfront, rfl⟩ := List.append_eq_nil_iff.1 hne
    exact ⟨preamble, body, [[]], hheaders, hbody, .inr rfl, by rw [hfront]; rfl⟩
  · refine ⟨preamble, body, ending, hheaders, hbody, hending, Text.lines_unlines hne fun l hl => ?_⟩
    rcases List.mem_append.1 hl with hl | hl
    · rcases List.mem_append.1 hl with hl | hl
      · exact (hpreamble l hl).1
      · exact hbody.noFeed l hl
    · rcases hending with rfl | rfl
      · cases hl
      · rw [List.mem_singleton.1 hl]
        nofun

/-- **Exact numbers.** Reading a patch of hunks that apply to a file gives the lines they insert, each with
its place in the new file, in ascending order. -/
theorem added_eq_insertions {old : List Line} {hunks : List Hunk} {new : List NewLine} {patch : List Char}
    (happ : applied? 0 old hunks = some new) (hpatch : IsPatch hunks patch) :
    added patch = .ok (insertions new) := by
  obtain ⟨preamble, body, ending, hpreamble, hbody, hending, hlines⟩ := hpatch.lines
  rw [added, hlines, insertions_eq_numbered, List.append_assoc,
    List.dropWhile_append_of_pos fun l hl => by rw [hpreamble l hl]; rfl]
  cases hbody with
  | nil =>
    have hnone : ([] ++ ending).dropWhile (fun line => !isHeader line) = [] := by
      rcases hending with rfl | rfl <;> rfl
    rw [hnone]
    exact addedFrom_hunks (.nil 0 0) happ (.inl rfl) 0
  | hunk hheader hbody hrest =>
    rw [List.cons_append, List.cons_append, List.dropWhile_cons_of_neg (by simp [hheader.isHeader])]
    exact addedFrom_hunks (.hunk hheader hbody hrest) happ hending 0

/-! Hunks whose lines look like headers and markers: the first only removes, the second inserts. -/

def lookalikeFile : List Line := [⟨['a'], by decide⟩, ⟨[], by decide⟩, ⟨['b'], by decide⟩, ⟨['c'], by decide⟩]

def lookalikeHunks : List Hunk :=
  [⟨0, [.remove ⟨['a'], by decide⟩]⟩,
    ⟨1, [.keep ⟨[], by decide⟩, .insert ⟨"@@ -9 +9 @@".toList, by decide⟩, .insert ⟨"+3".toList, by decide⟩,
      .keep ⟨['b'], by decide⟩]⟩]

def lookalikeResult : List NewLine :=
  [⟨⟨[], by decide⟩, false⟩, ⟨⟨"@@ -9 +9 @@".toList, by decide⟩, true⟩, ⟨⟨"+3".toList, by decide⟩, true⟩,
    ⟨⟨['b'], by decide⟩, false⟩, ⟨⟨['c'], by decide⟩, false⟩]

def lookalikePatch : List Char :=
  Text.unlines ["--- a/x".toList, "+++ b/x".toList, "@@ -1 +0,0 @@ +7".toList, "-a".toList,
    "\\ No newline at end of file".toList, "@@ -2,2 +01,4 @@".toList, [], "+@@ -9 +9 @@".toList, "++3".toList,
    " b".toList, []]

theorem isPatch_lookalike : IsPatch lookalikeHunks lookalikePatch := by
  have hdeletion : Hunk.IsHeader ⟨0, [.remove ⟨['a'], by decide⟩]⟩ 0 "@@ -1 +0,0 @@ +7".toList :=
    ⟨['1'], ['0', ',', '0'], " +7".toList, .single ⟨⟨0, rfl⟩, by decide⟩ rfl,
      .full (s := ['0']) ⟨⟨0, rfl⟩, by decide⟩ ⟨⟨0, rfl⟩, by decide⟩, by decide, rfl⟩
  have hinsertion : Hunk.IsHeader ⟨1, [.keep ⟨[], by decide⟩, .insert ⟨"@@ -9 +9 @@".toList, by decide⟩,
      .insert ⟨"+3".toList, by decide⟩, .keep ⟨['b'], by decide⟩]⟩ 0 "@@ -2,2 +01,4 @@".toList :=
    ⟨['2', ',', '2'], ['0', '1', ',', '4'], [], .full (s := ['2']) ⟨⟨0, rfl⟩, by decide⟩ ⟨⟨0, rfl⟩, by decide⟩,
      .full (s := ['0', '1']) ⟨⟨1, rfl⟩, by decide⟩ ⟨⟨0, rfl⟩, by decide⟩, by decide, rfl⟩
  refine ⟨["--- a/x".toList, "+++ b/x".toList],
    "@@ -1 +0,0 @@ +7".toList :: ["-a".toList, "\\ No newline at end of file".toList] ++
      ("@@ -2,2 +01,4 @@".toList :: [[], "+@@ -9 +9 @@".toList, "++3".toList, " b".toList] ++ []),
    [[]], by decide, .hunk hdeletion ?_ (.hunk hinsertion ?_ (.nil ..)), .inr rfl, rfl⟩
  · exact .edit (.remove _) (.marker ⟨" No newline at end of file".toList, by decide⟩ .nil)
  · exact .edit (.keepEmpty _ rfl) (.edit (.insert _) (.edit (.insert _) (.edit (.keep _) .nil)))

theorem added_lookalike :
    applied? 0 lookalikeFile lookalikeHunks = some lookalikeResult ∧ IsPatch lookalikeHunks lookalikePatch ∧
      added lookalikePatch = .ok [⟨2, "@@ -9 +9 @@".toList⟩, ⟨3, "+3".toList⟩] := by
  have happ : applied? 0 lookalikeFile lookalikeHunks = some lookalikeResult := by decide
  exact ⟨happ, isPatch_lookalike, added_eq_insertions happ isPatch_lookalike⟩

end PullReview.Diff
