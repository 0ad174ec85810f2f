import PullReview.Rule.Basic

/-!
# The detector

Which rules run on a line: none on a blank line or a comment, else the common rules and then those
of the line's language. What starts a comment depends on the language; a line that begins with a
star continues a block comment in the languages where a star cannot begin a statement.

| here | there |
| --- | --- |
| `commentMarkers`, `starLanguages` | `COMMENT_MARKERS`, `BLOCK_CONTINUATION_LANGUAGES` (issue_detector:19-41) |
| `continuesBlock` | `BLOCK_CONTINUATION.match` (issue_detector:38) |
| `isCommentLine` | `IssueDetector.is_comment` (issue_detector:213-217) |
| `Detector.check` | `IssueDetector.check_line` (issue_detector:219-228) |
-/

namespace PullReview

/-- The comment markers of the languages that have markers of their own. -/
def commentMarkers : List (String × List String) :=
  [("javascript", ["//", "/*"]), ("typescript", ["//", "/*"]), ("python", ["#"]), ("ruby", ["#"]),
    ("java", ["//", "/*"]), ("kotlin", ["//", "/*"]), ("scala", ["//", "/*"]), ("go", ["//", "/*"]),
    ("rust", ["//", "/*"]), ("c", ["//", "/*"]), ("cpp", ["//", "/*"]), ("csharp", ["//", "/*"]),
    ("swift", ["//", "/*"]), ("dart", ["//", "/*"]), ("php", ["//", "#", "/*"])]

/-- The markers in every other language. -/
def defaultMarkers : List String := ["//", "#"]

/-- The languages in which a leading star continues a block comment. -/
def starLanguages : List String := ["javascript", "typescript", "java", "kotlin", "scala", "csharp", "php"]

/-- Whether a trimmed line is a star by itself, or one before a blank or a slash. -/
def continuesBlock : List Char → Bool
  | ['*'] => true
  | '*' :: c :: _ => Text.isBlank c || c == '/'
  | _ => false

/-- Whether a line is a comment, or the continuation of one (issue_detector:213-217). -/
def isCommentLine (language : String) (text : List Char) : Bool :=
  let trimmed := Text.trim text
  ((commentMarkers.lookup language).getD defaultMarkers).any (·.toList.isPrefixOf trimmed) ||
    starLanguages.contains language && continuesBlock trimmed

/-- The rules in force: those for every line, and those for single languages. -/
structure Detector where
  common : List Rule
  byLanguage : List (String × List Rule)

namespace Detector

/-- The rules that are in force unless others are given. -/
def standard : Detector where
  common := [.credential, .reminder]
  byLanguage :=
    [("javascript", [.consoleCall, .looseEquality, .varDeclaration, .evalCall]),
      ("typescript", [.consoleCall, .looseEquality, .varDeclaration, .evalCall]),
      ("python", [.printCall, .bareExcept])]

/-- The rules that run on a line of code of the language. -/
def rulesFor (d : Detector) (language : String) : List Rule :=
  d.common ++ (d.byLanguage.lookup language).getD []

/-- The issues of a line (issue_detector:219-228). -/
def check (d : Detector) (language : String) (line : Int) (text : List Char) : List Issue :=
  if (Text.trim text).isEmpty || isCommentLine language text then []
  else (d.rulesFor language).flatMap (·.check line text)

end Detector

end PullReview
