import PullReview.Store.Database
import PullReview.Progress
import PullReview.Event.Parts
import PullReview.File.Analysis

/-!
# Store calls

The eight operations on the database. Each is one transaction: `StoreCall.perform` answers with its
reply and the tables after it, or with the failure of the first statement that fails, and then the
tables are as before. Every move of a review is guarded by its status, and by its run where
one is given; rows are only derived for the current run of an active review.

| here | there |
| --- | --- |
| `queue` | `ReviewStore.queue_review` (review_store:81-123) |
| `move` | `ReviewStore.transition` (review_store:125-149) |
| `addAnalysis` | `ReviewStore.record_file_analysis` (review_store:151-195) |
| `cancel`, `cancelAll` | `cancel_reviews_for_pr`, `_cancel_where` (review_store:197-204, 263-276) |
| `saveInstallation`, `saveRepositories` | `record_installation`, `add_repositories` (review_store:206-227) |
| `putInstallation`, `putRepositories` | `_upsert_installation`, `_upsert_repositories` (review_store:278-310) |
| `dropRepositories`, `dropInstallation` | `remove_repositories`, `remove_installation` (review_store:229-261) |
| `StoreCall.perform` | `with self.session_factory() as db, db.begin()`: rolled back by whatever is raised |
-/

namespace PullReview

/-- The review that was queued and the run that was drawn for it. -/
structure Ticket where
  review : Int
  run : String
  deriving DecidableEq, Repr

/-- What went with an installation. -/
structure Removal where
  reviews : List Int
  repositories : Nat
  installations : Nat
  deriving DecidableEq, Repr

namespace Database

/-! ## Reviews -/

/-- The review of a pull request with a new run, waiting; created when there is none. -/
def putReview (t : Tables) (now : Moment) (run : String) (number : Int) (repository : Text)
    (installation : Int) (summary : PullRequestSummary) : Tables :=
  let requeue (r : Review) : Review :=
    { r with
      installation, status := .pending, run, data := summary.toMembers
      createdAt := now, updatedAt := now, completedAt := none }
  match t.reviewOf? number repository with
  | some r => t.updateReview r.id requeue
  | none =>
    { t with
      reviews := t.reviews ++ [{
        id := t.nextReviewId, number, repository, installation, status := .pending, run
        data := summary.toMembers, createdAt := now, updatedAt := now, completedAt := none }] }

/-- Queues a review: a new run, nothing recorded but the summary, no derived rows (review_store:81-123). -/
def queue (db : Database) (now : Moment) (run : String) (number : Int) (repository : Text)
    (installation : Int) (summary : PullRequestSummary) : Except Failure (Ticket × Tables) := do
  db.statement [number, repository, installation]
  let t := putReview db.tables now run number repository installation summary
  let id := ((t.reviewOf? number repository).map (·.id)).getD 0
  return (⟨id, run⟩, t.discardDerived id)

/-- Whether a review may go to the target on behalf of a run. -/
def mayMove (r : Review) (target : Text) (run : Option Text) : Bool :=
  (ReviewStatus.sources target).contains r.status && run.all (· == (r.run : Text))

/-- A review that has gone to `target`, with what the step writes. -/
def moved (r : Review) (now : Moment) (target : ReviewStatus) (written : Members) : Review :=
  { r with
    status := target
    data := r.data.merge written
    updatedAt := now
    completedAt := if target = .completed then some now else r.completedAt }

/-- Moves a review to a status if its status and run allow it (review_store:125-149). -/
def move (db : Database) (now : Moment) (review : Int) (target : Text) (progress : Progress)
    (run : Option Text) : Except Failure (Bool × Tables) := do
  db.statement [review]
  match db.tables.review? review with
  | none => return (false, db.tables)
  | some r =>
    db.statement (.text target :: .int review :: run.toList.map .text)
    match (Named.ofName? target : Option ReviewStatus) with
    | none => return (false, db.tables)
    | some status =>
      if mayMove r target run then
        return (true, db.tables.updateReview r.id fun r => moved r now status progress.written)
      else return (false, db.tables)

/-- The row of an analysis. -/
def rowOfAnalysis (id review : Int) (status : Text) (analysis : Analysis) (complexity : Int) :
    FileChange :=
  { id, review, filename := analysis.filename, status, language := analysis.language
    additions := analysis.additions, deletions := analysis.deletions, patch := analysis.patch
    inScope := analysis.inScope, complexity }

/-- The rows of issues, with ids from `id` on. -/
def rowsOfIssues (id review : Int) (filename : Text) : List Issue → List Comment
  | [] => []
  | i :: is =>
    { id, review, filename, line := i.line, severity := i.severity, category := i.category
      message := i.message, suggestion := i.suggestion, rule := i.rule } ::
      rowsOfIssues (id + 1) review filename is

/-- Whether rows may be derived for a review on behalf of a run. -/
def mayRecord (r : Review) (run : Text) : Bool := (r.run : Text) == run && r.status.isActive

/-- What the row of an analysis carries. -/
def paramsOfAnalysis (review : Int) (status : Text) (analysis : Analysis) (complexity : Int) : List Param :=
  [review, analysis.filename, status, analysis.language, analysis.additions, analysis.deletions, analysis.patch,
    complexity]

/-- What the row of an issue carries. -/
def paramsOfIssue (review : Int) (filename : Text) (i : Issue) : List Param :=
  [.int review, .text filename, .int i.line, .text i.message] ++
    (i.suggestion.toList ++ i.rule.toList).map .text

/-- What is written for the analysis of a file: its row, then the rows of its issues. -/
def paramsOfRows (review : Int) (status : Text) (analysis : Analysis) (complexity : Int) : List Param :=
  paramsOfAnalysis review status analysis complexity ++
    analysis.issues.flatMap (paramsOfIssue review analysis.filename)

/-- Records the analysis of a file with its issues (review_store:151-195). -/
def addAnalysis (db : Database) (review : Int) (run status : Text) (analysis : Analysis)
    (complexity : Int) : Except Failure (Bool × Tables) := do
  db.statement [review]
  if (db.tables.review? review).any (mayRecord · run) then
    db.statement (paramsOfRows review status analysis complexity)
    let t := db.tables
    return (true, { t with
      fileChanges := t.fileChanges ++ [rowOfAnalysis t.nextFileChangeId review status analysis complexity]
      comments := t.comments ++ rowsOfIssues t.nextCommentId review analysis.filename analysis.issues })
  else return (false, db.tables)

/-- Cancels the active reviews that fit, and tells their ids (review_store:263-276). -/
def cancelAll (t : Tables) (now : Moment) (reason : Text) (fits : Review → Bool) : List Int × Tables :=
  let hit r := fits r && (ReviewStatus.sources (Named.name ReviewStatus.cancelled)).contains r.status
  ((t.reviews.filter hit).map (·.id),
    { t with
      reviews := t.reviews.map fun r =>
        if hit r then moved r now .cancelled (Progress.cancelled reason).toMembers else r })

/-- Cancels the active review of a pull request (review_store:197-204). -/
def cancel (db : Database) (now : Moment) (number : Int) (repository reason : Text) :
    Except Failure (List Int × Tables) := do
  db.statement [number, repository]
  return cancelAll db.tables now reason fun r => r.number == number && r.repository == repository

/-! ## Installations and repositories -/

/-- The installations with one more, kept in the order of their ids. -/
def insertInstallation (i : Installation) : List Installation → List Installation
  | [] => [i]
  | j :: js => if i.id < j.id then i :: j :: js else j :: insertInstallation i js

/-- Records the owner of an installation; the time of its first record stays (review_store:278-292). -/
def putInstallation (t : Tables) (now : Moment) (installation : Int) (login kind : Text) : Tables :=
  if t.installations.any (·.id == installation) then
    { t with
      installations := t.installations.map fun i =>
        if i.id = installation then { i with login, kind, updatedAt := now } else i }
  else
    { t with
      installations :=
        insertInstallation ⟨installation, login, kind, now, now⟩ t.installations }

/-- Records a repository of an installation; one that is there keeps its id. -/
def putRepository (t : Tables) (installation : Int) (r : Event.Repository) : Tables :=
  if t.repositories.any fun row => row.installation == installation && row.repo == r.id then
    { t with
      repositories := t.repositories.map fun row =>
        if row.installation = installation ∧ row.repo = r.id then
          { row with fullName := r.fullName, isPrivate := r.isPrivate }
        else row }
  else
    { t with
      repositories := t.repositories ++
        [⟨t.nextRepositoryId, installation, r.id, r.fullName, r.isPrivate⟩] }

/-- What the row of a repository carries. -/
def paramsOfRepository (installation : Int) (r : Event.Repository) : List Param := [installation, r.id, r.fullName]

/-- Records repositories in order, a statement each (review_store:294-310). -/
def putRepositories (db : Database) (installation : Int) :
    List Event.Repository → Tables → Except Failure Tables
  | [], t => .ok t
  | r :: rs, t => do
    db.statement (paramsOfRepository installation r)
    putRepositories db installation rs (putRepository t installation r)

/-- Records an installation with its repositories (review_store:206-215). -/
def saveInstallation (db : Database) (now : Moment) (installation : Int) (login kind : Text)
    (repositories : List Event.Repository) : Except Failure (Nat × Tables) := do
  db.statement [installation, login, kind]
  let t ← putRepositories db installation repositories
    (putInstallation db.tables now installation login kind)
  return (repositories.length, t)

/-- Adds repositories to an installation, and records its owner where one is named (review_store:217-227). -/
def saveRepositories (db : Database) (now : Moment) (installation : Int)
    (repositories : List Event.Repository) (login : Option Text) (kind : Text) :
    Except Failure (Nat × Tables) := do
  let t ←
    match login with
    | some name =>
      if name = "" then pure db.tables
      else do
        db.statement [installation, name, kind]
        pure (putInstallation db.tables now installation name kind)
    | none => pure db.tables
  let t ← putRepositories db installation repositories t
  return (repositories.length, t)

/-- Removes repositories of an installation. Without ids no statement is run (review_store:229-239). -/
def dropRepositories (db : Database) (installation : Int) (ids : List Int) :
    Except Failure (Nat × Tables) := do
  if ids.isEmpty then return (0, db.tables)
  db.statement ((installation :: ids).map .int)
  let hit (row : Repository) := row.installation == installation && ids.contains row.repo
  let t := db.tables
  return (t.repositories.countP hit, { t with repositories := t.repositories.filter fun row => !hit row })

/-- Removes an installation: its active reviews are cancelled, its repositories go with it (review_store:241-261). -/
def dropInstallation (db : Database) (now : Moment) (installation : Int) :
    Except Failure (Removal × Tables) := do
  db.statement [installation]
  let (cancelled, t) := cancelAll db.tables now "installation_deleted" (·.installation == installation)
  return (⟨cancelled, t.repositories.countP (·.installation == installation),
      t.installations.countP (·.id == installation)⟩,
    { t with
      repositories := t.repositories.filter (·.installation != installation)
      installations := t.installations.filter (·.id != installation) })

end Database

/-! ## Calls as data -/

inductive StoreCall where
  | queue (number : Int) (repository : Text) (installation : Int) (summary : PullRequestSummary)
  | move (review : Int) (target : Text) (progress : Progress) (run : Option Text)
  | addAnalysis (review : Int) (run status : Text) (analysis : Analysis) (complexity : Int)
  | cancel (number : Int) (repository reason : Text)
  | saveInstallation (installation : Int) (login kind : Text) (repositories : List Event.Repository)
  | saveRepositories (installation : Int) (repositories : List Event.Repository) (login : Option Text)
      (kind : Text)
  | dropRepositories (installation : Int) (ids : List Int)
  | dropInstallation (installation : Int)
  deriving DecidableEq, Repr

namespace StoreCall

/-- What each call replies. -/
abbrev Reply : StoreCall → Type
  | queue .. => Ticket
  | move .. => Bool
  | addAnalysis .. => Bool
  | cancel .. => List Int
  | saveInstallation .. => Nat
  | saveRepositories .. => Nat
  | dropRepositories .. => Nat
  | dropInstallation .. => Removal

/-- The transaction of a call. -/
def transaction (db : Database) (now : Moment) : (call : StoreCall) → Except Failure (call.Reply × Tables)
  | queue number repository installation summary =>
    db.queue now db.nextRun number repository installation summary
  | move review target progress run => db.move now review target progress run
  | addAnalysis review run status analysis complexity =>
    db.addAnalysis review run status analysis complexity
  | cancel number repository reason => db.cancel now number repository reason
  | saveInstallation installation login kind repositories =>
    db.saveInstallation now installation login kind repositories
  | saveRepositories installation repositories login kind =>
    db.saveRepositories now installation repositories login kind
  | dropRepositories installation ids => db.dropRepositories installation ids
  | dropInstallation installation => db.dropInstallation now installation

/-- The number of run ids a call draws, whether it succeeds or not. -/
def runsDrawn : StoreCall → Nat
  | queue .. => 1
  | _ => 0

/-- Performs a call: its reply or failure, and the database after it. -/
def perform (call : StoreCall) (now : Moment) (db : Database) : Except Failure call.Reply × Database :=
  let drawn := { db with runs := db.runs.draw call.runsDrawn }
  match call.transaction db now with
  | .ok (reply, tables) => (.ok reply, { drawn with tables })
  | .error failure => (.error failure, drawn)

end StoreCall

end PullReview
