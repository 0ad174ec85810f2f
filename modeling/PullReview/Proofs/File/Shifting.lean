import Mathlib.Data.List.Forall2
import PullReview.File.Analysis
import PullReview.Proofs.Diff.Reading

/-!
# Shifted hunks

Two patches that differ in their starts alone, each being `k` lines further down in the second, add the same
lines, `k` lines further down. No rule looks at the number of a line, and the score does not read the headers.
So the analyses differ only in the lines of the issues (`analyze_shifted`).
-/

namespace PullReview

/-! ## Rules -/

/-- The issue, `k` lines further down. -/
def Issue.shifted (k : Nat) (i : Issue) : Issue := { i with line := i.line + k }

namespace Rule

variable (rule : Rule) (line : Int) (k : Nat) (text : List Char)

theorem issue_shifted (method : String) : rule.issue (line + k) method = (rule.issue line method).shifted k := by
  cases rule <;> rfl

theorem reportAny_shifted (patterns : List Text.Pattern) :
    rule.reportAny patterns (line + k) text = (rule.reportAny patterns line text).map (Issue.shifted k) := by
  unfold reportAny
  split
  · exact congrArg ([·]) (rule.issue_shifted line k _)
  · rfl

/-- A rule reports the same issues wherever the line stands. -/
theorem check_shifted : rule.check (line + k) text = (rule.check line text).map (Issue.shifted k) := by
  cases rule with
  | credential =>
    simp only [check, List.map_map]
    exact List.map_congr_left fun _ _ => issue_shifted _ line k _
  | consoleCall =>
    unfold check
    dsimp only
    split
    · exact congrArg ([·]) (issue_shifted _ line k _)
    · rfl
  | reminder | looseEquality | varDeclaration | evalCall | printCall | bareExcept => exact reportAny_shifted ..

end Rule

theorem Detector.check_shifted (d : Detector) (language : String) (line : Int) (k : Nat) (text : List Char) :
    d.check language (line + k) text = (d.check language line text).map (Issue.shifted k) := by
  unfold check
  split
  · rfl
  · rw [List.map_flatMap]
    exact List.flatMap_congr fun rule _ => rule.check_shifted line k text

namespace Diff

/-! ## Patches -/

/-- The header with its start `k` lines further down, in decimal digits. -/
def StartedHeader.shifted (h : StartedHeader) (k : Nat) : StartedHeader :=
  { h with
    digits := Nat.toDigits 10 (h.start + k)
    ne_nil := Nat.toDigits_ne_nil
    isDigit := fun c hc => by
      have hc : c.isDigit = true := Nat.isDigit_of_mem_toDigits (by decide) (by decide) hc
      rw [Text.isDigit, digitValue?_of_isDigit hc]
      rfl }

theorem StartedHeader.start_shifted (h : StartedHeader) (k : Nat) : (h.shifted k).start = h.start + k := by
  have hdigits : ∀ c ∈ Nat.toDigits 10 (h.start + k), c.isDigit = true := fun c hc =>
    Nat.isDigit_of_mem_toDigits (by decide) (by decide) hc
  exact (ofDigits_filterMap hdigits).trans Nat.ofDigitChars_ten_toDigits

/-- After the shifted header the count is `k` further than after the header. -/
theorem StartedHeader.addedFrom_shifted (h : StartedHeader) {k : Nat}
    (hshort : (h.shifted k).digits.length ≤ Text.numeralLimit) (current : Int) (rest : List (List Char)) :
    addedFrom current ((h.shifted k).text :: rest) = addedFrom ((h.start : Int) - 1 + k) rest := by
  have hstart : (((h.shifted k).start : Nat) : Int) - 1 = (h.start : Int) - 1 + k := by
    rw [h.start_shifted]
    omega
  rw [(h.shifted k).addedFrom_text hshort, hstart]

/-- A header with a start is shifted, and any other line stays as it is. -/
inductive ShiftsLine (k : Nat) : List Char → List Char → Prop
  | start (h : StartedHeader) : ShiftsLine k h.text (h.shifted k).text
  | other {line : List Char} (hno : ∀ h : StartedHeader, h.text ≠ line) : ShiftsLine k line line

theorem ShiftsLine.of_no_start {k : Nat} {line : List Char}
    (h : isHeader line = true → startDigits? line = none) : ShiftsLine k line line :=
  .other fun started hline => by
    have hheader : isHeader line = true := hline ▸ started.isHeader_text
    exact (startDigits?_eq_none_iff hheader).1 (h hheader) started hline

/-- All hunks of the patch are `k` lines further down in the second one. -/
def Shifts (k : Nat) (patch second : List Char) : Prop :=
  List.Forall₂ (ShiftsLine k) (Text.lines patch) (Text.lines second)

theorem exists_shiftsLine (k : Nat) {line : List Char} (hfeed : '\n' ∉ line) :
    ∃ moved, ShiftsLine k line moved ∧ '\n' ∉ moved := by
  by_cases hstarted : ∃ h : StartedHeader, h.text = line
  · obtain ⟨h, rfl⟩ := hstarted
    refine ⟨_, .start h, ?_⟩
    have hdigits : '\n' ∉ (h.shifted k).digits := fun hmem => absurd ((h.shifted k).isDigit _ hmem) (by decide)
    have hrest : '\n' ∉ h.before ∧ '\n' ∉ h.after := by
      simp only [StartedHeader.text, List.mem_append, List.mem_cons, not_or] at hfeed
      exact ⟨hfeed.1, hfeed.2.2.2⟩
    simp only [StartedHeader.text, List.mem_append, List.mem_cons, not_or]
    exact ⟨hrest.1, by decide, hdigits, hrest.2⟩
  · exact ⟨line, .other (not_exists.1 hstarted), hfeed⟩

theorem exists_shiftsLines (k : Nat) {lines : List (List Char)} (hfeed : ∀ l ∈ lines, '\n' ∉ l) :
    ∃ second, List.Forall₂ (ShiftsLine k) lines second ∧ ∀ l ∈ second, '\n' ∉ l := by
  induction lines with
  | nil => exact ⟨[], .nil, by simp⟩
  | cons line lines ih =>
    obtain ⟨moved, hmoved, hno⟩ := exists_shiftsLine k (hfeed line List.mem_cons_self)
    obtain ⟨second, hsecond, hnone⟩ := ih fun l hl => hfeed l (List.mem_cons_of_mem line hl)
    exact ⟨moved :: second, .cons hmoved hsecond, List.forall_mem_cons.2 ⟨hno, hnone⟩⟩

/-- Every patch can be shifted. -/
theorem exists_shifts (k : Nat) (patch : List Char) : ∃ second : String, Shifts k patch second.toList := by
  have hfeed : ∀ l ∈ Text.lines patch, '\n' ∉ l := fun _ => Text.noFeed_of_mem_lines
  obtain ⟨second, hsecond, hnone⟩ := exists_shiftsLines k hfeed
  have hne : second ≠ [] := by
    rintro rfl
    exact Text.lines_ne_nil patch (List.forall₂_nil_right_iff.1 hsecond)
  exact ⟨String.ofList (Text.unlines second), by rwa [Shifts, String.toList_ofList, Text.lines_unlines hne hnone]⟩

/-- The line, `k` lines further down. -/
def NumberedLine.shifted (k : Nat) (l : NumberedLine) : NumberedLine := { l with number := l.number + k }

theorem addition_shifted (number : Int) (k : Nat) (line : List Char) :
    addition (number + k) line = (addition number line).map (NumberedLine.shifted k) := by
  unfold addition
  split <;> rfl

/-- Inside a hunk, a count that is `k` further numbers all lines from there on `k` further. -/
theorem addedFrom_shifted {k : Nat} {lines second : List (List Char)} (h : List.Forall₂ (ShiftsLine k) lines second)
    (hlines : ∀ h : StartedHeader, h.text ∈ lines → h.digits.length ≤ Text.numeralLimit)
    (hsecond : ∀ h : StartedHeader, h.text ∈ second → h.digits.length ≤ Text.numeralLimit) (current : Int) :
    addedFrom (current + k) second = (addedFrom current lines).map (List.map (NumberedLine.shifted k)) := by
  induction h generalizing current with
  | nil => rfl
  | @cons line moved lines second hline h ih =>
    have ih := ih (fun h hl => hlines h (List.mem_cons_of_mem _ hl)) fun h hl => hsecond h (List.mem_cons_of_mem _ hl)
    cases hline with
    | start h =>
      rw [h.addedFrom_shifted (hsecond _ List.mem_cons_self), h.addedFrom_text (hlines _ List.mem_cons_self)]
      exact ih _
    | other hno =>
      cases hheader : isHeader line with
      | true =>
        rw [addedFrom_of_no_start hheader hno, addedFrom_of_no_start hheader hno]
        exact ih _
      | false =>
        rw [addedFrom_body hheader, addedFrom_body hheader, Int.add_right_comm, ih, addition_shifted]
        cases addedFrom (current + counted [line]) lines <;> simp [Except.map]

/-- Where the first header has a start, nothing is numbered from before it. -/
theorem addedFrom_zero_shifted {k : Nat} {lines second : List (List Char)}
    (h : List.Forall₂ (ShiftsLine k) lines second)
    (hfirst : ∀ header ∈ lines.find? isHeader, ∃ h : StartedHeader, h.text = header)
    (hlines : ∀ h : StartedHeader, h.text ∈ lines → h.digits.length ≤ Text.numeralLimit)
    (hsecond : ∀ h : StartedHeader, h.text ∈ second → h.digits.length ≤ Text.numeralLimit) :
    addedFrom 0 (second.dropWhile fun line => !isHeader line) =
      (addedFrom 0 (lines.dropWhile fun line => !isHeader line)).map (List.map (NumberedLine.shifted k)) := by
  induction h with
  | nil => rfl
  | @cons line moved lines second hline h ih =>
    have hlines' : ∀ h : StartedHeader, h.text ∈ lines → h.digits.length ≤ Text.numeralLimit := fun h hl =>
      hlines h (List.mem_cons_of_mem _ hl)
    have hsecond' : ∀ h : StartedHeader, h.text ∈ second → h.digits.length ≤ Text.numeralLimit := fun h hl =>
      hsecond h (List.mem_cons_of_mem _ hl)
    cases hline with
    | start first =>
      rw [List.dropWhile_cons_of_neg (by simp [StartedHeader.isHeader_text]),
        List.dropWhile_cons_of_neg (by simp [StartedHeader.isHeader_text]),
        first.addedFrom_shifted (hsecond _ List.mem_cons_self), first.addedFrom_text (hlines _ List.mem_cons_self)]
      exact addedFrom_shifted h hlines' hsecond' _
    | other hno =>
      have hheader : isHeader line = false := Bool.eq_false_iff.2 fun hheader => by
        obtain ⟨first, hstart⟩ := hfirst line (List.find?_cons_of_pos hheader)
        exact hno first hstart
      rw [List.find?_cons_of_neg (by simp [hheader])] at hfirst
      rw [List.dropWhile_cons_of_pos (by simp [hheader]), List.dropWhile_cons_of_pos (by simp [hheader])]
      exact ih hfirst hlines' hsecond'

theorem plusLines_shifted {k : Nat} {patch second : List Char} (h : Shifts k patch second) :
    plusLines second = plusLines patch := by
  unfold plusLines
  unfold Shifts at h
  generalize Text.lines patch = lines at h
  generalize Text.lines second = moved at h
  induction h with
  | nil => rfl
  | @cons line moved lines second hline h ih =>
    cases hline with
    | start first =>
      -- both headers begin with the mark, and so neither is an added line
      obtain ⟨rest, hrest⟩ := isHeader_iff.1 first.isHeader_text
      obtain ⟨rest', hrest'⟩ := isHeader_iff.1 (first.shifted k).isHeader_text
      rw [← hrest, ← hrest']
      exact ih
    | other hno => rw [List.filterMap_cons, List.filterMap_cons, ih]

end Diff

/-! ## Files -/

namespace ChangedFile

/-- The file with another patch. -/
def withPatch (f : ChangedFile) (patch : Text) : ChangedFile := { f with patch := some patch }

/-- Lines that are added further down have their issues there. -/
theorem findIssues_shifted {f : ChangedFile} {k : Nat} (second : ChangedFile)
    (hlanguage : second.language = f.language) {lines : List NumberedLine} (hlines : Diff.added f.patchText = .ok lines)
    (hsecond : Diff.added second.patchText = .ok (lines.map (Diff.NumberedLine.shifted k))) :
    ∃ issues, f.findIssues = .ok issues ∧ second.findIssues = .ok (issues.map (Issue.shifted k)) := by
  rw [findIssues, findIssues, hlines, hsecond, hlanguage]
  refine ⟨_, rfl, ?_⟩
  simp only [Except.map, List.flatMap_map, List.map_flatMap]
  exact congrArg Except.ok
    (List.flatMap_congr fun l _ => Detector.standard.check_shifted f.language l.number k l.content)

/-- **Shifted hunks.** Every patch can be shifted by `k` lines. Where its first header has a start, this shifts
the issues by `k` lines and changes nothing else of the analysis, nor the score. -/
theorem analyze_shifted {f : ChangedFile} (k : Nat)
    (hfirst : ∀ header ∈ (Text.lines f.patchText).find? Diff.isHeader, ∃ h : Diff.StartedHeader, h.text = header)
    (hread : Diff.Readable f.patchText) :
    (∃ second : Text, Diff.Shifts k f.patchText second.visible) ∧
      ∀ second : Text, Diff.Shifts k f.patchText second.visible → Diff.Readable second.visible →
        ∃ a, f.analyze = .ok a ∧
          (f.withPatch second).analyze =
            .ok { a with patch := second, issues := a.issues.map (Issue.shifted k) } ∧
          (f.withPatch second).complexity = f.complexity := by
  obtain ⟨shifted, hshifts⟩ := Diff.exists_shifts k f.patchText
  refine ⟨⟨shifted, by rwa [Text.visible_ofString]⟩, fun second h hsecond => ?_⟩
  obtain ⟨lines, hlines⟩ := Diff.added_isOk_iff.2 hread
  have hadded : Diff.added second.visible = .ok (lines.map (Diff.NumberedLine.shifted k)) := by
    have hzero := Diff.addedFrom_zero_shifted h hfirst (Diff.readable_iff.1 hread) (Diff.readable_iff.1 hsecond)
    rw [Diff.added] at hlines
    rw [Diff.added, hzero, hlines]
    rfl
  have hscore : (f.withPatch second).complexity = f.complexity := by
    show Diff.score second.visible = Diff.score f.patchText
    rw [Diff.score, Diff.score, Diff.plusLines_shifted h]
  have hscope : (f.withPatch second).isInScope = f.isInScope := rfl
  have hlanguage : (f.withPatch second).language = f.language := rfl
  obtain ⟨issues, hissues, hshifted⟩ := findIssues_shifted (f.withPatch second) hlanguage hlines hadded
  rw [analyze, analyze, hissues, hshifted, hscope, hlanguage]
  split
  · exact ⟨_, rfl, by simp only [Except.map, withPatch, Option.getD_some], hscore⟩
  · exact ⟨_, rfl, by simp only [Except.map, List.map_nil, withPatch, Option.getD_some], hscore⟩

/-! Starts in two scripts, one of them followed by another number, and a header without a start. -/

def hunkedFile : ChangedFile where
  filename := "a.js"
  patch := some "+old\n@@ -1 +9,2 @@ +3\n+console.log(1)\n@@ odd @@\n x\n+var y = eval(z)\n@@ -7 +٣ @@\n+console.log(2)"

def shiftedPatch : Text :=
  "+old\n@@ -1 +104,2 @@ +3\n+console.log(1)\n@@ odd @@\n x\n+var y = eval(z)\n@@ -7 +98 @@\n+console.log(2)"

def firstHeader : Diff.StartedHeader where
  before := "@@ -1 ".toList
  digits := ['9']
  after := ",2 @@ +3".toList
  opens := by decide
  first := Diff.first_of_no_plus (by decide)
  ne_nil := by decide
  isDigit := List.forall_mem_singleton.2 (by decide)
  whole := by rintro _ ⟨⟩; decide

def lastHeader : Diff.StartedHeader where
  before := "@@ -7 ".toList
  digits := ['٣']
  after := " @@".toList
  opens := by decide
  first := Diff.first_of_no_plus (by decide)
  ne_nil := by decide
  isDigit := List.forall_mem_singleton.2 (by decide)
  whole := by rintro _ ⟨⟩; decide

theorem analyze_shifted_twoScripts :
    Diff.Shifts 95 hunkedFile.patchText shiftedPatch.visible ∧
      (Text.lines hunkedFile.patchText).find? Diff.isHeader = some firstHeader.text ∧
      Diff.Readable hunkedFile.patchText ∧ Diff.Readable shiftedPatch.visible ∧
      ∃ a, hunkedFile.analyze = .ok a ∧ a.issues.map (·.line) = [9, 11, 11, 3] ∧
        (hunkedFile.withPatch shiftedPatch).analyze =
          .ok { a with patch := shiftedPatch, issues := a.issues.map (Issue.shifted 95) } ∧
        (hunkedFile.withPatch shiftedPatch).complexity = hunkedFile.complexity := by
  have hlines : Text.lines hunkedFile.patchText = ["+old".toList, firstHeader.text, "+console.log(1)".toList,
      "@@ odd @@".toList, " x".toList, "+var y = eval(z)".toList, lastHeader.text, "+console.log(2)".toList] := by
    decide +kernel
  have hlater : Text.lines shiftedPatch.visible = ["+old".toList, (firstHeader.shifted 95).text,
      "+console.log(1)".toList, "@@ odd @@".toList, " x".toList, "+var y = eval(z)".toList,
      (lastHeader.shifted 95).text, "+console.log(2)".toList] := by
    decide +kernel
  have hshifts : Diff.Shifts 95 hunkedFile.patchText shiftedPatch.visible := by
    rw [Diff.Shifts, hlines, hlater]
    exact .cons (.of_no_start (by decide)) (.cons (.start firstHeader) (.cons (.of_no_start (by decide))
      (.cons (.of_no_start (by decide)) (.cons (.of_no_start (by decide)) (.cons (.of_no_start (by decide))
      (.cons (.start lastHeader) (.cons (.of_no_start (by decide)) .nil)))))))
  have hfirst : (Text.lines hunkedFile.patchText).find? Diff.isHeader = some firstHeader.text := by
    rw [hlines]
    rfl
  have hread : Diff.Readable hunkedFile.patchText := by
    rw [Diff.Readable, hlines]
    decide
  have hsecond : Diff.Readable shiftedPatch.visible := by
    rw [Diff.Readable, hlater]
    decide
  have hstart : ∀ header ∈ (Text.lines hunkedFile.patchText).find? Diff.isHeader,
      ∃ h : Diff.StartedHeader, h.text = header :=
    fun header hheader => ⟨firstHeader, Option.some.inj (hfirst.symm.trans hheader)⟩
  obtain ⟨a, ha, hshifted, hscore⟩ := (analyze_shifted 95 hstart hread).2 shiftedPatch hshifts hsecond
  refine ⟨hshifts, hfirst, hread, hsecond, a, ha, ?_, hshifted, hscore⟩
  have hnumbers : hunkedFile.analyze.map (fun a => a.issues.map (·.line)) = .ok [9, 11, 11, 3] := by decide +kernel
  rw [ha] at hnumbers
  exact Except.ok.inj hnumbers

end ChangedFile

end PullReview
