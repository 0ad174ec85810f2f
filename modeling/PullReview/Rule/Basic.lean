import PullReview.Rule.Shape
import PullReview.Issue

/-!
# Rules

Each rule looks at one line and reports issues about it. A credential is reported once for each
keyword that is set to a quoted text; every other rule reports at most one issue.

| here | there |
| --- | --- |
| `Rule` | `COMMON_RULES` and `LANGUAGE_RULES`, the rules by name (issue_detector:60-201) |
| `Rule.issue` | the `CodeIssue` of each rule |
| `Rule.check` | the rule as a function (issue_detector:74-201) |
-/

namespace PullReview

inductive Rule where
  | credential
  | reminder
  | consoleCall
  | looseEquality
  | varDeclaration
  | evalCall
  | printCall
  | bareExcept
  deriving DecidableEq, Repr

namespace Rule

open Text (Pattern)

/-- The issue a rule reports on a line. `method` is the console method that was called. -/
def issue (rule : Rule) (line : Int) (method : String := "") : Issue :=
  match rule with
  | credential =>
    { line, severity := .critical, category := .security
      message := "Potential hardcoded credential detected"
      suggestion := "Use environment variables or secure credential storage"
      rule := "no-hardcoded-credentials" }
  | reminder =>
    { line, severity := .low, category := .quality
      message := "TODO comment found"
      suggestion := "Consider creating an issue or completing the task"
      rule := "no-todo-comments" }
  | consoleCall =>
    { line, severity := .medium, category := .quality
      message := ("console." ++ method ++ " statement found" : String)
      suggestion := "Remove the console call or use a proper logging library"
      rule := "no-console" }
  | looseEquality =>
    { line, severity := .medium, category := .quality
      message := "Use strict equality (===) instead of loose equality (==)"
      suggestion := "Replace == with ==="
      rule := "strict-equality" }
  | varDeclaration =>
    { line, severity := .low, category := .quality
      message := "Use let or const instead of var"
      suggestion := "Replace var with let or const"
      rule := "no-var" }
  | evalCall =>
    { line, severity := .high, category := .security
      message := "eval() usage detected - potential security risk"
      suggestion := "Avoid using eval(), consider safer alternatives"
      rule := "no-eval" }
  | printCall =>
    { line, severity := .low, category := .quality
      message := "Print statement found"
      suggestion := "Use logging instead of print for production code"
      rule := "no-print" }
  | bareExcept =>
    { line, severity := .medium, category := .quality
      message := "Bare except clause"
      suggestion := "Catch specific exceptions instead of using bare except"
      rule := "specific-exceptions" }

/-- One issue if any of the patterns occurs in the text. -/
def reportAny (rule : Rule) (patterns : List Pattern) (line : Int) (text : List Char) : List Issue :=
  if patterns.any (·.occursIn text) then [rule.issue line] else []

/-- The issues that a rule finds in the text of a line (issue_detector:74-201). -/
def check (rule : Rule) (line : Int) (text : List Char) : List Issue :=
  match rule with
  | credential =>
    (Shape.secrets.filter (·.occursIn text)).map fun _ => credential.issue line
  | reminder => rule.reportAny Shape.reminders line text
  | consoleCall =>
    match Pattern.leftmost Shape.consoleCalls none text with
    | some method => [consoleCall.issue line method]
    | none => []
  | looseEquality => rule.reportAny [Shape.looseEquality] line text
  | varDeclaration => rule.reportAny [Shape.varDeclaration] line text
  | evalCall => rule.reportAny [Shape.call "eval"] line text
  | printCall => rule.reportAny [Shape.call "print"] line text
  | bareExcept => rule.reportAny [Shape.bareExcept] line text

end Rule

end PullReview
