import PullReview.Rule.Detector
import PullReview.Proofs.Text.Padding

/-!
# Indentation

Blanks around a line, for every language and for detectors with any rules. Whether a line is a comment is seen on
the trimmed line, and all patterns but one are tight. The one that is not is that of loose equality, which takes a
character on either side of the operator, and a blank is as good as any. So a detector passes over indentation in a
language exactly if the rule on loose equality is not among those in force for it (`check_padded_iff`).
-/

namespace PullReview

open Text (IsBlanks Pattern)

variable {before after : List Char}

/-! ## Rules -/

namespace Rule

/-- The patterns that a rule looks for. -/
def patterns : Rule → List Pattern
  | credential => Shape.secrets
  | reminder => Shape.reminders
  | consoleCall => Shape.consoleCalls.map (·.2)
  | looseEquality => [Shape.looseEquality]
  | varDeclaration => [Shape.varDeclaration]
  | evalCall => [Shape.call "eval"]
  | printCall => [Shape.call "print"]
  | bareExcept => [Shape.bareExcept]

theorem tight_patterns_iff {rule : Rule} : (∀ p ∈ rule.patterns, p.Tight) ↔ rule ≠ .looseEquality := by
  cases rule <;> decide +kernel

theorem reportAny_padded {patterns : List Pattern} (hpatterns : ∀ p ∈ patterns, p.Tight) (hbefore : IsBlanks before)
    (hafter : IsBlanks after) (rule : Rule) (line : Int) (text : List Char) :
    rule.reportAny patterns line (before ++ text ++ after) = rule.reportAny patterns line text := by
  have hany : patterns.any (·.occursIn (before ++ text ++ after)) = patterns.any (·.occursIn text) := by
    rw [Bool.eq_iff_iff, List.any_eq_true, List.any_eq_true]
    constructor
    · rintro ⟨p, hp, hfound⟩
      exact ⟨p, hp, by rwa [Pattern.occursIn_padded (hpatterns p hp) hbefore hafter] at hfound⟩
    · rintro ⟨p, hp, hfound⟩
      exact ⟨p, hp, by rwa [Pattern.occursIn_padded (hpatterns p hp) hbefore hafter]⟩
  rw [reportAny, reportAny, hany]

theorem check_padded {rule : Rule} (hrule : rule ≠ .looseEquality) (hbefore : IsBlanks before)
    (hafter : IsBlanks after) (line : Int) (text : List Char) :
    rule.check line (before ++ text ++ after) = rule.check line text := by
  have htight := tight_patterns_iff.2 hrule
  cases rule with
  | credential =>
    have hfilter : Shape.secrets.filter (·.occursIn (before ++ text ++ after)) =
        Shape.secrets.filter (·.occursIn text) := by
      apply List.filter_congr
      intro p hp
      exact Pattern.occursIn_padded (htight p hp) hbefore hafter text
    rw [check, check, hfilter]
  | consoleCall =>
    have hnamed : ∀ entry ∈ Shape.consoleCalls, entry.2.Tight := by
      intro entry hentry
      exact htight entry.2 (List.mem_map.2 ⟨entry, hentry, rfl⟩)
    unfold check
    rw [Pattern.leftmost_padded hnamed hbefore hafter]
  | looseEquality => exact absurd rfl hrule
  | reminder | varDeclaration | evalCall | printCall | bareExcept =>
    exact reportAny_padded htight hbefore hafter _ line text

/-- At the end of a line the operator is not seen, and a blank after it brings it to light. -/
theorem check_trailing (rule : Rule) : rule.check 1 "a ==".toList = [] := by cases rule <;> decide +kernel

theorem looseEquality_check_trailing :
    looseEquality.check 1 ("a ==".toList ++ [' ']) = [looseEquality.issue 1] := by decide

end Rule

/-! ## Detectors -/

theorem isCommentLine_padded (hbefore : IsBlanks before) (hafter : IsBlanks after) (language : String)
    (text : List Char) : isCommentLine language (before ++ text ++ after) = isCommentLine language text := by
  rw [isCommentLine, isCommentLine, Text.trim_padded hbefore hafter]

/-- A line that begins like a name is a comment in no language. -/
theorem isCommentLine_trailing (language : String) : isCommentLine language "a ==".toList = false := by
  have hmarkers : ∀ markers ∈ defaultMarkers :: commentMarkers.map (·.2),
      markers.any (·.toList.isPrefixOf "a ==".toList) = false := by decide
  have hmem : (commentMarkers.lookup language).getD defaultMarkers ∈ defaultMarkers :: commentMarkers.map (·.2) := by
    cases hlookup : commentMarkers.lookup language with
    | none => simp
    | some markers =>
      obtain ⟨l, r, heq, -⟩ := List.lookup_eq_some_iff.1 hlookup
      simp [heq]
  have htrim : Text.trim "a ==".toList = "a ==".toList := by decide
  have hstar : continuesBlock "a ==".toList = false := by decide
  rw [isCommentLine, htrim, hmarkers _ hmem, hstar, Bool.and_false, Bool.or_false]

namespace Detector

theorem check_padded {d : Detector} {language : String} (hd : .looseEquality ∉ d.rulesFor language)
    (hbefore : IsBlanks before) (hafter : IsBlanks after) (line : Int) (text : List Char) :
    d.check language line (before ++ text ++ after) = d.check language line text := by
  rw [check, check, Text.trim_padded hbefore hafter, isCommentLine_padded hbefore hafter]
  split
  · rfl
  · apply List.flatMap_congr
    intro rule hrule
    exact Rule.check_padded (fun h => hd (h ▸ hrule)) hbefore hafter line text

/-- Indentation is passed over in a language if and only if the rule on loose equality is not in force there. -/
theorem check_padded_iff (d : Detector) (language : String) :
    (∀ (line : Int) (text before after : List Char), IsBlanks before → IsBlanks after →
      d.check language line (before ++ text ++ after) = d.check language line text) ↔
        .looseEquality ∉ d.rulesFor language := by
  constructor
  · intro hsame hmem
    have hnil : IsBlanks [] := by simp [IsBlanks]
    have hblank : IsBlanks [' '] := List.forall_mem_singleton.2 (by decide)
    have hpadded := hsame 1 "a ==".toList [] [' '] hnil hblank
    have hnone : d.check language 1 "a ==".toList = [] := by
      rw [check]
      split
      · rfl
      · exact List.flatMap_eq_nil_iff.2 fun rule _ => rule.check_trailing
    have hfound : Rule.looseEquality.issue 1 ∈ d.check language 1 ([] ++ "a ==".toList ++ [' ']) := by
      rw [check, Text.trim_padded hnil hblank, isCommentLine_padded hnil hblank, isCommentLine_trailing,
        if_neg (by decide), List.mem_flatMap]
      refine ⟨_, hmem, ?_⟩
      rw [List.nil_append, Rule.looseEquality_check_trailing]
      exact List.mem_singleton_self _
    rw [hpadded, hnone] at hfound
    cases hfound
  · intro hd line text before after hbefore hafter
    exact check_padded hd hbefore hafter line text

/-- The rule is in neither registry of the detector. -/
def Omits (d : Detector) (rule : Rule) : Prop := rule ∉ d.common ∧ ∀ entry ∈ d.byLanguage, rule ∉ entry.2

theorem Omits.not_mem_rulesFor {d : Detector} {rule : Rule} (hd : d.Omits rule) (language : String) :
    rule ∉ d.rulesFor language := by
  obtain ⟨hcommon, hlanguages⟩ := hd
  rw [rulesFor, List.mem_append, not_or]
  refine ⟨hcommon, ?_⟩
  cases hlookup : d.byLanguage.lookup language with
  | none => simp
  | some rules =>
    obtain ⟨l, r, heq, -⟩ := List.lookup_eq_some_iff.1 hlookup
    exact hlanguages (language, rules) (by simp [heq])

/-- **Indentation.** Blanks around a line change neither what a detector without the rule on loose equality reports
nor whether the line is a comment. -/
theorem indentation_ignored {d : Detector} (hd : d.Omits .looseEquality) (language : String) (line : Int)
    (text : List Char) (hbefore : IsBlanks before) (hafter : IsBlanks after) :
    d.check language line (before ++ text ++ after) = d.check language line text ∧
      isCommentLine language (before ++ text ++ after) = isCommentLine language text :=
  ⟨check_padded (hd.not_mem_rulesFor language) hbefore hafter line text,
    isCommentLine_padded hbefore hafter language text⟩

/-! Rules twice and in another order, and blanks beyond ASCII. -/

def doubledRules : Detector where
  common := [.reminder, .credential, .reminder]
  byLanguage := [("javascript", [.evalCall, .varDeclaration])]

theorem indentation_ignored_doubledRules :
    doubledRules.Omits .looseEquality ∧ IsBlanks ['\t', '\u2003'] ∧ IsBlanks ['\u0085'] ∧
      doubledRules.check "javascript" 4 (['\t', '\u2003'] ++ "var x = eval(y) // todo".toList ++ ['\u0085']) =
        [Rule.reminder.issue 4, Rule.reminder.issue 4, Rule.evalCall.issue 4, Rule.varDeclaration.issue 4] ∧
      isCommentLine "javascript" (['\t', '\u2003'] ++ "var x = eval(y) // todo".toList ++ ['\u0085']) = false := by
  have homits : doubledRules.Omits .looseEquality := by simp [Omits, doubledRules]
  have hbefore : IsBlanks ['\t', '\u2003'] :=
    List.forall_mem_cons.2 ⟨by decide, List.forall_mem_singleton.2 (by decide)⟩
  have hafter : IsBlanks ['\u0085'] := List.forall_mem_singleton.2 (by decide)
  obtain ⟨hissues, hcomment⟩ :=
    indentation_ignored homits "javascript" 4 "var x = eval(y) // todo".toList hbefore hafter
  exact ⟨homits, hbefore, hafter, hissues.trans (by decide +kernel), hcomment.trans (by decide)⟩

end Detector

end PullReview
