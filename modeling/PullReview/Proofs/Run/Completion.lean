import PullReview.Proofs.Run.Arrival
import PullReview.Proofs.Diff.Depth
import PullReview.Proofs.Diff.Reading

/-!
# Which reviews complete

A review that is handled by itself completes unless one of its files cannot be recorded (`review_completes_iff`):
its name or its patch cannot be encoded, or it is in scope and its patch cannot be digested, which has a hunk start
of more digits than a numeral may have, which is not read, or one that is read but puts a line with an issue beyond
what a column holds. One such file fails the whole review. A header without a start does no harm: the count goes on
from where it was.
-/

namespace PullReview

/-! ## The score of a patch -/

namespace Diff

theorem fitsColumn_score (patch : List Char) : fitsColumn (score patch) = true := by
  have hscore := score_bounds patch
  unfold maxScore at hscore
  simp only [fitsColumn, Bool.and_eq_true, decide_eq_true_eq]
  omega

end Diff

/-! ## Texts of issues -/

/-- Whether the texts of an issue can be encoded. -/
def Issue.isPlain (i : Issue) : Bool := i.message.isPlain && i.suggestion.all Text.isPlain && i.rule.all Text.isPlain

/-- The rules word their issues themselves. -/
theorem Rule.isPlain_issue (rule : Rule) (line : Int) (method : String) : (rule.issue line method).isPlain = true := by
  cases rule <;> rfl

theorem Rule.isPlain_of_mem_check {rule : Rule} {line : Int} {text : List Char} {i : Issue}
    (h : i ∈ rule.check line text) : i.isPlain = true := by
  have hany {patterns : List Text.Pattern} (h : i ∈ rule.reportAny patterns line text) : i.isPlain = true := by
    unfold reportAny at h
    split at h
    · exact List.mem_singleton.1 h ▸ isPlain_issue ..
    · cases h
  cases rule with
  | credential =>
    obtain ⟨_, -, rfl⟩ := List.mem_map.1 h
    exact isPlain_issue ..
  | consoleCall =>
    unfold check at h
    dsimp only at h
    split at h
    · exact List.mem_singleton.1 h ▸ isPlain_issue ..
    · cases h
  | reminder | looseEquality | varDeclaration | evalCall | printCall | bareExcept => exact hany h

theorem Detector.isPlain_of_mem_check {d : Detector} {language : String} {line : Int} {text : List Char} {i : Issue}
    (h : i ∈ d.check language line text) : i.isPlain = true := by
  unfold check at h
  split at h
  · cases h
  · obtain ⟨rule, -, hi⟩ := List.mem_flatMap.1 h
    exact Rule.isPlain_of_mem_check hi

/-! ## Which records are written -/

theorem Param.binds_of_issue {filename : Text} {i : Issue} (hfilename : filename.isPlain = true)
    (hi : i.isPlain = true) :
    (∀ p ∈ Database.paramsOfIssue 0 filename i, p.isBindable = true) ↔ fitsColumn i.line = true := by
  have hzero : fitsColumn 0 = true := by decide
  obtain ⟨line, severity, category, message, suggestion, rule⟩ := i
  simp only [Issue.isPlain, Bool.and_eq_true] at hi
  obtain ⟨⟨hmessage, hsuggestion⟩, hrule⟩ := hi
  cases suggestion <;> cases rule <;> simp_all [Database.paramsOfIssue]

/-- What keeps the record of a file from being written, where the texts of its issues can be encoded. -/
theorem Record.fault?_eq_none_iff {r : Record} (hstatus : r.status.isPlain = true)
    (hlanguage : r.analysis.language.isPlain = true) (hissues : ∀ i ∈ r.analysis.issues, i.isPlain = true) :
    r.fault? = none ↔ r.analysis.filename.isPlain = true ∧ r.analysis.patch.isPlain = true ∧
      fitsColumn r.analysis.additions = true ∧ fitsColumn r.analysis.deletions = true ∧
      fitsColumn r.complexity = true ∧ ∀ i ∈ r.analysis.issues, fitsColumn i.line = true := by
  have hzero : fitsColumn 0 = true := by decide
  simp only [Record.fault?, Param.fault?_eq_none_iff, Database.paramsOfRows, Database.paramsOfAnalysis,
    List.forall_mem_append, List.forall_mem_cons, List.not_mem_nil, false_implies, implies_true, List.mem_flatMap,
    Param.isBindable_int, Param.isBindable_text, hzero, hstatus, hlanguage, true_and, and_true]
  constructor
  · rintro ⟨⟨hfilename, hadditions, hdeletions, hpatch, hcomplexity⟩, hrows⟩
    refine ⟨hfilename, hpatch, hadditions, hdeletions, hcomplexity, fun i hi => ?_⟩
    exact (Param.binds_of_issue hfilename (hissues i hi)).1 fun p hp => hrows p ⟨i, hi, hp⟩
  · rintro ⟨hfilename, hpatch, hadditions, hdeletions, hcomplexity, hlines⟩
    refine ⟨⟨hfilename, hadditions, hdeletions, hpatch, hcomplexity⟩, ?_⟩
    rintro p ⟨i, hi, hp⟩
    exact (Param.binds_of_issue hfilename (hissues i hi)).2 (hlines i hi) p hp

/-! ## Which files are recorded -/

namespace ChangedFile

/-- The name and the patch of a file can be encoded. -/
def Encodable (f : ChangedFile) : Prop := f.filename.isPlain = true ∧ (f.patch.getD "").isPlain = true

instance (f : ChangedFile) : Decidable f.Encodable := inferInstanceAs (Decidable (_ ∧ _))

/-- A file in scope has a readable patch, and the lines with issues have numbers that fit their column. -/
def Digestible (f : ChangedFile) : Prop :=
  f.isInScope = true → Diff.Readable f.patchText ∧
    ∀ issues, f.findIssues = .ok issues → ∀ i ∈ issues, fitsColumn i.line = true

theorem findIssues_isOk_iff {f : ChangedFile} :
    (∃ issues, f.findIssues = .ok issues) ↔ Diff.Readable f.patchText := by
  rw [← Diff.added_isOk_iff, findIssues]
  cases Diff.added f.patchText <;> simp [Except.map]

theorem isPlain_of_findIssues {f : ChangedFile} {issues : List Issue} (h : f.findIssues = .ok issues) :
    ∀ i ∈ issues, i.isPlain = true := by
  unfold findIssues at h
  cases hadded : Diff.added f.patchText with
  | error e =>
    rw [hadded] at h
    cases h
  | ok lines =>
    rw [hadded] at h
    cases h
    intro i hi
    obtain ⟨l, -, hi⟩ := List.mem_flatMap.1 hi
    exact Detector.isPlain_of_mem_check hi

/-- The analysis of a file words its issues itself, and has them only where the file is in scope. -/
theorem issues_of_analyze {f : ChangedFile} {a : Analysis} (h : f.analyze = .ok a) :
    (∀ i ∈ a.issues, i.isPlain = true) ∧ a = {
      filename := f.filename, language := f.language, additions := f.additions, deletions := f.deletions
      patch := f.patch.getD "", inScope := f.isInScope, issues := a.issues } ∧
    if f.isInScope = true then f.findIssues = .ok a.issues else a.issues = [] := by
  unfold analyze at h
  split at h
  · rename_i hscope
    cases hissues : f.findIssues with
    | error e =>
      rw [hissues] at h
      cases h
    | ok issues =>
      rw [hissues] at h
      cases h
      exact ⟨isPlain_of_findIssues hissues, by rw [hscope], by rw [if_pos hscope]⟩
  · rename_i hscope
    cases h
    exact ⟨List.forall_mem_nil _, by rw [Bool.eq_false_of_not_eq_true hscope], by rw [if_neg hscope]⟩

/-- An analysis is recorded when its texts can be encoded and its numbers fit. -/
theorem fault?_recordOf_eq_none_iff {f : ChangedFile} {a : Analysis} (h : f.analyze = .ok a)
    (hadditions : fitsColumn f.additions = true) (hdeletions : fitsColumn f.deletions = true) :
    (f.recordOf a).fault? = none ↔ f.Encodable ∧ ∀ i ∈ a.issues, fitsColumn i.line = true := by
  obtain ⟨hplain, hanalysis, -⟩ := issues_of_analyze h
  have hcomplexity : fitsColumn (f.recordOf a).complexity = true := by
    rw [recordOf]
    split
    · exact Diff.fitsColumn_score _
    · show fitsColumn 0 = true
      decide
  have hlanguage : (f.recordOf a).analysis.language.isPlain = true := by
    rw [recordOf, hanalysis]
    rfl
  have hfilename : (f.recordOf a).analysis.filename = f.filename := congrArg Analysis.filename hanalysis
  have hpatch : (f.recordOf a).analysis.patch = f.patch.getD "" := congrArg Analysis.patch hanalysis
  have hadditions' : fitsColumn (f.recordOf a).analysis.additions = true := by
    rw [recordOf, hanalysis]
    exact hadditions
  have hdeletions' : fitsColumn (f.recordOf a).analysis.deletions = true := by
    rw [recordOf, hanalysis]
    exact hdeletions
  rw [Record.fault?_eq_none_iff rfl hlanguage hplain, hfilename, hpatch, Encodable]
  simp only [hadditions', hdeletions', hcomplexity, true_and, and_assoc]
  rfl

theorem kept_of_analyze {f : ChangedFile} {a : Analysis} (h : f.analyze = .ok a) :
    (∃ r, f.kept = .ok r) ↔ (f.recordOf a).fault? = none := by
  rw [kept, record, h, Except.map]
  dsimp only
  cases (f.recordOf a).fault? <;> simp

/-- With counts that fit, a file is recorded when it is encodable and digestible. -/
theorem kept_isOk_iff {f : ChangedFile} (hadditions : fitsColumn f.additions = true)
    (hdeletions : fitsColumn f.deletions = true) : (∃ r, f.kept = .ok r) ↔ f.Encodable ∧ f.Digestible := by
  cases hanalyze : f.analyze with
  | error e =>
    have hlong : ¬ f.Digestible := by
      intro h
      unfold analyze at hanalyze
      split at hanalyze
      · rename_i hscope
        obtain ⟨issues, hissues⟩ := findIssues_isOk_iff.2 (h hscope).1
        rw [hissues] at hanalyze
        cases hanalyze
      · cases hanalyze
    simp [kept, record, hanalyze, Except.map, hlong]
  | ok a =>
    rw [kept_of_analyze hanalyze, fault?_recordOf_eq_none_iff hanalyze hadditions hdeletions]
    refine and_congr_right fun _ => ?_
    obtain ⟨-, -, hfound⟩ := issues_of_analyze hanalyze
    unfold Digestible
    by_cases hscope : f.isInScope = true
    · rw [if_pos hscope] at hfound
      simp [hscope, hfound, findIssues_isOk_iff.1 ⟨_, hfound⟩]
    · rw [if_neg hscope] at hfound
      simp [hscope, hfound]

end ChangedFile

/-! ## Which reviews complete -/

namespace Dossier

theorem analyzed_isOk_iff (total : Nat) (files : List ChangedFile) (tally : Tally) {d : Dossier} :
    (∃ t, (analyzed total files tally d).1 = .ok t) ↔ ∀ f ∈ files, ∃ r, f.kept = .ok r := by
  induction files generalizing tally d with
  | nil => simp [analyzed]
  | cons file files ih =>
    rw [List.forall_mem_cons, analyzed]
    cases file.kept with
    | error e => simp
    | ok r => simp [ih]

theorem ran_isOk_iff (d : Dossier) (files : List ChangedFile) :
    (∃ t, (d.ran (.ok files)).1 = .ok t) ↔ ∀ f ∈ files, ∃ r, f.kept = .ok r := by
  unfold ran
  dsimp only
  rw [← analyzed_isOk_iff files.length files {} (d := (d.noted (.fetching Progress.fetchingStart)).noted
    (.analyzing Progress.analyzingStart (some files.length) none))]
  split <;> simp_all

/-- The status that a whole run leaves. -/
theorem concluded_status (d : Dossier) (fetched : Except Failure (List ChangedFile)) :
    (d.concluded fetched).review.status = match (d.ran fetched).1 with
      | .ok _ => .completed
      | .error _ => .failed := by
  unfold concluded
  cases hran : d.ran fetched with
  | mk result e =>
    cases result with
    | error failure => rfl
    | ok tally =>
      unfold ran at hran
      cases fetched with
      | error failure => cases hran
      | ok files =>
        dsimp only at hran
        split at hran <;> cases hran
        rfl

end Dossier

theorem Run.outcome_status (r : Run) (result : Except Failure Tally) :
    (r.outcome result).status = match result with
      | .ok _ => some .completed
      | .error _ => some .failed := by
  cases result <;> rfl

/-- **Which reviews complete.** A patch is read when its hunk starts are short enough, and a header without a
start leaves the count where it was. A review that is handled by itself, all of whose numbers fit, ends
completed when its files are encodable and digestible, and failed otherwise. -/
theorem review_completes_iff {p : Pool} (h : p.Reachable Service.Drifts) (ha : p.service.database.Available)
    (fetch : Fetcher) (worker : Nat) (now : Moment) (action : QueueAction) (pullRequest : Event.PullRequest)
    (repository : Event.Repository) (installation : Event.Installation)
    (hfits : pullRequest.Fits repository installation)
    (hid : fitsColumn (p.tables.idFor pullRequest.number repository.fullName) = true) {files : List ChangedFile}
    (hfetched : pullRequest.fetched repository installation fetch = .ok files)
    (hcounts : ∀ f ∈ files, fitsColumn f.additions = true ∧ fitsColumn f.deletions = true) :
    (∀ patch, (∃ lines, Diff.added patch = .ok lines) ↔ Diff.Readable patch) ∧
    (∀ current header rest, Diff.isHeader header = true → Diff.startDigits? header = none →
      Diff.addedFrom current (header :: rest) = Diff.addedFrom current rest) ∧
    ∃ outcome s r,
      (Event.reviewDue action pullRequest repository installation).process.run fetch worker { p.service with now } =
        (.ok outcome, s) ∧
      s.database.tables.reviewOf? pullRequest.number repository.fullName = some r ∧
      ((∀ f ∈ files, f.Encodable ∧ f.Digestible) ∧ outcome.status = some .completed ∧ r.status = .completed ∨
        (∃ f ∈ files, ¬ (f.Encodable ∧ f.Digestible)) ∧ outcome.status = some .failed ∧ r.status = .failed) := by
  refine ⟨fun patch => Diff.added_isOk_iff, fun current header rest hheader hnone => ?_, ?_⟩
  · rw [Diff.addedFrom_header hheader, Diff.afterHeader, hnone]
    rfl
  have hw := h.history.owned.tables
  obtain ⟨s, hrun, -, hcarries⟩ := Event.due_alone fetch worker action repository (s := { p.service with now }) hw
    ha hfits hid
  have hw' : s.database.tables.WellFormed := by
    have := p.service.handled_wellFormed fetch hw
      ⟨worker, now, .reviewDue action pullRequest repository installation⟩
    rwa [Service.handled, hrun] at this
  obtain ⟨r, hr, -, hrow⟩ := hcarries.reviewOf? hw' (Dossier.concluded_key ..)
  rw [hfetched] at hrun hrow
  refine ⟨_, s, r, hrun, hr, ?_⟩
  have hstatus : r.status = _ := (congrArg Review.status hrow).trans (Dossier.concluded_status ..)
  have hkept : ∀ f ∈ files, (∃ x, f.kept = .ok x) ↔ f.Encodable ∧ f.Digestible := fun f hf =>
    ChangedFile.kept_isOk_iff (hcounts f hf).1 (hcounts f hf).2
  have hran := (pullRequest.dossier repository installation).ran_isOk_iff files
  rw [Run.outcome_status, hstatus]
  cases hresult : ((pullRequest.dossier repository installation).ran (.ok files)).1 with
  | ok tally => exact .inl ⟨fun f hf => (hkept f hf).1 (hran.1 ⟨tally, hresult⟩ f hf), rfl, rfl⟩
  | error e =>
    refine .inr ⟨?_, rfl, rfl⟩
    by_contra hno
    obtain ⟨tally, hok⟩ := hran.2 fun f hf => (hkept f hf).2 (not_not.1 fun hf' => hno ⟨f, hf, hf'⟩)
    rw [hresult] at hok
    cases hok

/-- Neither a header without a start nor a start that fits no column does any harm to lines without issues. -/
def oddFile : ChangedFile where
  filename := "a.js"
  additions := 2
  patch := some "@@ no start @@\n+let x\n@@ +99999999999999999999 @@\n+let y"

def oddFiles : Fetcher := fun _ _ _ _ => .ok [oddFile]

theorem oddFile_completes :
    (Pool.play oddFiles []).Reachable Service.Drifts ∧ (Pool.play oddFiles []).service.database.Available ∧
    (∀ f ∈ [oddFile], fitsColumn f.additions = true ∧ fitsColumn f.deletions = true) ∧
    ∃ outcome s r,
      (dueReview .opened).process.run oddFiles 0 { (Pool.play oddFiles []).service with now := 1 } = (.ok outcome, s) ∧
      s.database.tables.reviewOf? 12 "acme/widgets" = some r ∧
      ((∀ f ∈ [oddFile], f.Encodable ∧ f.Digestible) ∧ outcome.status = some .completed ∧ r.status = .completed ∨
        (∃ f ∈ [oddFile], ¬ (f.Encodable ∧ f.Digestible)) ∧ outcome.status = some .failed ∧ r.status = .failed) := by
  have hp := Pool.reachable_play Service.Drifts oddFiles []
  have ha : (Pool.play oddFiles []).service.database.Available := ⟨rfl, rfl⟩
  have hcounts : ∀ f ∈ [oddFile], fitsColumn f.additions = true ∧ fitsColumn f.deletions = true := by decide
  refine ⟨hp, ha, hcounts, ?_⟩
  exact (review_completes_iff hp ha oddFiles 0 1 .opened { number := 12 } { id := 5, fullName := "acme/widgets" }
    { id := 77 } (by decide) (by decide +kernel) rfl hcounts).2.2

/-- A hunk start that no column can hold, before a line with an issue. -/
def absurdFile : ChangedFile where
  filename := "a.js"
  additions := 1
  patch := some "@@ -0,0 +99999999999999999999 @@\n+console.log(x)"

/-- A patch that is a single surrogate. -/
def garbledFile : ChangedFile := { filename := "a.js", patch := some .unpaired }

/-- Their reviews fail, and a start of too many digits is not passed over. -/
theorem absurdFile_fails :
    ((dueReview .opened).process.run (fun _ _ _ _ => .ok [absurdFile]) 0
      { now := 1 }).2.database.tables.reviews.map (·.status) = [.failed] ∧
    ((dueReview .opened).process.run (fun _ _ _ _ => .ok [garbledFile]) 0
      { now := 1 }).2.database.tables.reviews.map (·.status) = [.failed] ∧
    Diff.added ("@@ +".toList ++ List.replicate 4301 '1' ++ "\n+x".toList) = .error ⟨4301⟩ := by
  refine ⟨?_, ?_, ?_⟩
  · decide +kernel
  · decide +kernel
  · decide +kernel

end PullReview
