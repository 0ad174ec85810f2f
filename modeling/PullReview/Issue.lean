import PullReview.Intake.Scalar

/-!
# Issues

What a rule reports about one line: how bad it is, of which kind, and what to do about it.

| here | there |
| --- | --- |
| `Severity`, `Category` | `Severity`, `IssueType` (schemas:6-7) |
| `Issue` | `CodeIssue` (schemas:20-26) |
-/

namespace PullReview

inductive Severity where
  | low | medium | high | critical
  deriving DecidableEq, Repr

instance : Named Severity where
  all := [.low, .medium, .high, .critical]
  name
    | .low => "low"
    | .medium => "medium"
    | .high => "high"
    | .critical => "critical"

inductive Category where
  | security | performance | quality | bug | style
  deriving DecidableEq, Repr

instance : Named Category where
  all := [.security, .performance, .quality, .bug, .style]
  name
    | .security => "security"
    | .performance => "performance"
    | .quality => "quality"
    | .bug => "bug"
    | .style => "style"

/-- An issue on a line of the new file. -/
structure Issue where
  line : Int
  severity : Severity
  category : Category
  message : Text
  suggestion : Option Text := none
  /-- The identifier of the rule that found it. -/
  rule : Option Text := none
  deriving DecidableEq, Repr

namespace Issue

def ofMembers (m : Members) : Checked Issue :=
  Issue.mk <$> m.required "line" Json.asInteger
    <*> m.required "severity" Json.asNamed
    <*> m.required "type" Json.asNamed
    <*> m.required "message" Json.asText
    <*> m.optional "suggestion" none (Json.asOptional Json.asText)
    <*> m.optional "rule" none (Json.asOptional Json.asText)

def ofJson : Json → Checked Issue := Json.asRecord ofMembers

def toJson (i : Issue) : Json :=
  .obj [("line", .int i.line), ("severity", .str (Named.name i.severity)),
    ("type", .str (Named.name i.category)), ("message", .str i.message),
    ("suggestion", .text? i.suggestion), ("rule", .text? i.rule)]

end Issue

end PullReview
