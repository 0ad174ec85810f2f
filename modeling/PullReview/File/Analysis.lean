import PullReview.File.Change
import PullReview.File.Scope
import PullReview.Rule.Detector
import PullReview.Diff.Added
import PullReview.Diff.Complexity

/-!
# File analyses

The analysis of a changed file: its language, whether it is in scope, and the issues on the lines
its patch adds, in the order of the lines. A file out of scope has no issues, and its patch is not
read. The only failure is a hunk start with too many digits.

| here | there |
| --- | --- |
| `Analysis` | `FileAnalysis` (schemas:29-36) |
| `ChangedFile.analyze` | `FileAnalyzer.analyze_file` (file_analyzer:90-106) |
| `ChangedFile.complexity` | `FileAnalyzer.complexity_score` (file_analyzer:108-109) |
-/

namespace PullReview

structure Analysis where
  filename : Text
  language : Text
  additions : Int
  deletions : Int
  patch : Text
  inScope : Bool
  issues : List Issue := []
  deriving DecidableEq, Repr

namespace Analysis

def ofMembers (m : Members) : Checked Analysis :=
  Analysis.mk <$> m.required "filename" Json.asText
    <*> m.required "language" Json.asText
    <*> m.required "additions" Json.asInteger
    <*> m.required "deletions" Json.asInteger
    <*> m.required "patch" Json.asText
    <*> m.required "should_review" Json.asBoolean
    <*> m.optional "issues" [] (Json.asList Issue.ofJson)

def ofJson : Json → Checked Analysis := Json.asRecord ofMembers

def toJson (a : Analysis) : Json :=
  .obj [("filename", .str a.filename), ("language", .str a.language), ("additions", .int a.additions),
    ("deletions", .int a.deletions), ("patch", .str a.patch), ("should_review", .bool a.inScope),
    ("issues", .arr (a.issues.map Issue.toJson))]

end Analysis

namespace ChangedFile

/-- Whether the file is reviewed. -/
def isInScope (f : ChangedFile) : Bool := inScope f.filename.visible (Named.name f.status)

def language (f : ChangedFile) : String := languageOf f.filename.visible

/-- The issues on the lines that the file's patch adds. -/
def findIssues (f : ChangedFile) : Except Text.LongNumeral (List Issue) :=
  (Diff.added f.patchText).map fun lines =>
    lines.flatMap fun l => Detector.standard.check f.language l.number l.content

/-- Analyses a file (file_analyzer:90-106). -/
def analyze (f : ChangedFile) : Except Text.LongNumeral Analysis :=
  (if f.isInScope then f.findIssues else .ok []).map fun issues =>
    { filename := f.filename, language := f.language, additions := f.additions, deletions := f.deletions
      patch := f.patch.getD "", inScope := f.isInScope, issues }

/-- The complexity of the file's change. -/
def complexity (f : ChangedFile) : Int := Diff.score f.patchText

end ChangedFile

end PullReview
