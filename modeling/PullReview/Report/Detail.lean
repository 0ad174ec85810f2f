import PullReview.Store.Database

/-!
# Single reviews and single repositories

A review with its installation, its issues in the order of their lines and its files in the order in
which they were recorded; and the latest reviews of a repository.

| here | there |
| --- | --- |
| `detail` | `get_review` (main:181-199) |
| `ofRepository` | `list_repository_reviews` (main:202-208) |
-/

namespace PullReview.Report

structure Detail where
  review : Review
  /-- The installation of the review, if it is still there. -/
  installation : Option Installation
  comments : List Comment
  fileChanges : List FileChange
  deriving Repr

/-- Comments go by line, and by id on one line. -/
def comesBeforeInFile (a b : Comment) : Bool := a.line < b.line || (a.line == b.line && a.id ≤ b.id)

/-- The review with an id and what belongs to it. -/
def Detail.ofTables? (t : Tables) (id : Int) : Option Detail :=
  (t.review? id).map fun review =>
    { review
      installation := t.installations.find? (·.id == review.installation)
      comments := (t.comments.filter (·.review == id)).mergeSort comesBeforeInFile
      fileChanges := t.fileChanges.filter (·.review == id) }

/-- The review with an id, none when there is no such review (main:184-199). -/
def detail (db : Database) (id : Int) : Except Failure (Option Detail) := do
  db.statement [id]
  return Detail.ofTables? db.tables id

/-- How many reviews of a repository are shown. -/
def repositoryLimit : Nat := 50

/-- The latest reviews among some, newest first; those of one moment keep their order. -/
def latest (count : Nat) (reviews : List Review) : List Review :=
  (reviews.mergeSort fun a b => b.createdAt ≤ a.createdAt).take count

/-- The latest reviews of a repository (main:205-208). -/
def ofRepository (db : Database) (fullName : Text) : Except Failure (List Review) := do
  db.statement [fullName]
  return latest repositoryLimit (db.tables.reviews.filter (·.repository == fullName))

end PullReview.Report
