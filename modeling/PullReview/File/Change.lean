import PullReview.Intake.Scalar

/-!
# Changed files

A file of a pull request as the listing gives it: its path, what happened to it, how many lines
were added and deleted, and the patch where there is one.

| here | there |
| --- | --- |
| `ChangeKind` | `FileStatus` (schemas:9) |
| `ChangedFile` | `ChangedFile` (schemas:12-17) |
-/

namespace PullReview

inductive ChangeKind where
  | added | removed | modified | renamed | copied | changed | unchanged
  deriving DecidableEq, Repr

instance : Named ChangeKind where
  all := [.added, .removed, .modified, .renamed, .copied, .changed, .unchanged]
  name
    | .added => "added"
    | .removed => "removed"
    | .modified => "modified"
    | .renamed => "renamed"
    | .copied => "copied"
    | .changed => "changed"
    | .unchanged => "unchanged"

structure ChangedFile where
  filename : Text
  status : ChangeKind := .modified
  additions : Int := 0
  deletions : Int := 0
  patch : Option Text := none
  deriving DecidableEq, Repr

namespace ChangedFile

def ofMembers (m : Members) : Checked ChangedFile :=
  ChangedFile.mk <$> m.required "filename" Json.asText
    <*> m.optional "status" .modified Json.asNamed
    <*> m.optional "additions" 0 Json.asInteger
    <*> m.optional "deletions" 0 Json.asInteger
    <*> m.optional "patch" none (Json.asOptional Json.asText)

def ofJson : Json → Checked ChangedFile := Json.asRecord ofMembers

def toJson (f : ChangedFile) : Json :=
  .obj [("filename", .str f.filename), ("status", .str (Named.name f.status)),
    ("additions", .int f.additions), ("deletions", .int f.deletions), ("patch", .text? f.patch)]

/-- The characters of the patch; a file without one has an empty patch. -/
def patchText (f : ChangedFile) : List Char := (f.patch.getD "").visible

end ChangedFile

end PullReview
