import PullReview.Store.Status
import PullReview.Moment
import PullReview.Json.Basic
import PullReview.Issue

/-!
# Tables

The rows that are kept, and the five tables. Rows of each table stand in the order of their ids: a
new row has one more than the greatest id in its table. Installations are kept by their own id.

| here | there |
| --- | --- |
| `Review` | `Review` (models:50-78) |
| `FileChange`, `Comment` | `FileChange`, `ReviewComment` (models:81-113) |
| `Installation`, `Repository` | `Installation`, `Repository` (models:27-47) |
-/

namespace PullReview

/-- A review of a pull request. There is one for each pair of number and repository. -/
structure Review where
  id : Int
  /-- The number of the pull request. -/
  number : Int
  /-- The full name of the repository. -/
  repository : Text
  installation : Int
  status : ReviewStatus
  /-- The run that may write; drawn anew each time the review is queued. -/
  run : String
  /-- What the steps have recorded. -/
  data : Members
  createdAt : Moment
  updatedAt : Moment
  completedAt : Option Moment
  deriving Repr

/-- The review on one line. -/
def Review.label (r : Review) : Text :=
  (s!"<Review(id={r.id}, pr=" : Text) ++ r.repository ++ (s!"#{r.number}, status={Named.name r.status})>" : Text)

/-- The analysis of one file, as kept with a review. -/
structure FileChange where
  id : Int
  review : Int
  filename : Text
  status : Text
  language : Text
  additions : Int
  deletions : Int
  patch : Text
  inScope : Bool
  complexity : Int
  deriving DecidableEq, Repr

/-- An issue, as kept with a review. -/
structure Comment where
  id : Int
  review : Int
  filename : Text
  line : Int
  severity : Severity
  category : Category
  message : Text
  suggestion : Option Text
  rule : Option Text
  deriving DecidableEq, Repr

structure Installation where
  id : Int
  login : Text
  kind : Text
  createdAt : Moment
  updatedAt : Moment
  deriving DecidableEq, Repr

/-- A repository of an installation. There is one for each pair of installation and repository id. -/
structure Repository where
  id : Int
  installation : Int
  repo : Int
  fullName : Text
  isPrivate : Bool
  deriving DecidableEq, Repr

structure Tables where
  reviews : List Review := []
  fileChanges : List FileChange := []
  comments : List Comment := []
  installations : List Installation := []
  repositories : List Repository := []
  deriving Repr

/-- One more than the greatest id, or one. -/
def nextId (ids : List Int) : Int := ids.foldl max 0 + 1

namespace Tables

def nextReviewId (t : Tables) : Int := nextId (t.reviews.map (·.id))

def nextFileChangeId (t : Tables) : Int := nextId (t.fileChanges.map (·.id))

def nextCommentId (t : Tables) : Int := nextId (t.comments.map (·.id))

def nextRepositoryId (t : Tables) : Int := nextId (t.repositories.map (·.id))

/-- The review with an id. -/
def review? (t : Tables) (id : Int) : Option Review := t.reviews.find? (·.id == id)

/-- The review of a pull request. -/
def reviewOf? (t : Tables) (number : Int) (repository : Text) : Option Review :=
  t.reviews.find? fun r => r.number == number && r.repository == repository

/-- Changes the review with an id. -/
def updateReview (t : Tables) (id : Int) (change : Review → Review) : Tables :=
  { t with reviews := t.reviews.map fun r => if r.id = id then change r else r }

/-- Without the rows derived from a review. -/
def discardDerived (t : Tables) (review : Int) : Tables :=
  { t with
    fileChanges := t.fileChanges.filter (·.review != review)
    comments := t.comments.filter (·.review != review) }

end Tables

end PullReview
