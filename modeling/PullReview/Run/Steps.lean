import PullReview.Run.Program
import PullReview.Run.Outcome

/-!
# Running a review

A run moves the review to `in_progress`, fetches the changed files, analyses and records them one by
one, and completes the review. Before each file it looks at its token, and every write carries its
run id, so a run that was superseded or closed stops without changing anything. Progress writes are
best effort: a failing database is passed over there and nowhere else. Any other failure ends the
run by failing the review.

| here | there |
| --- | --- |
| `reportFailure` | `fail_review` (review_lifecycle:196-204) |
| `Run.note` | `_progress` (review_lifecycle:297-302) |
| `Run.analyzeFiles` | the loop over the files (review_lifecycle:164-176) |
| `Run.stopped` | `_stopped` (review_lifecycle:304-308) |
| `Run.steps` | `_run_pipeline` (review_lifecycle:143-194) |
| `Run.program` | `run_review` (review_lifecycle:129-141) |
-/

namespace PullReview

/-- A run of a review, with what it needs to know of the pull request. -/
structure Run where
  review : Int
  run : String
  installation : Int
  /-- The full name of the repository. -/
  repository : Text
  /-- The number of the pull request. -/
  number : Int
  deriving DecidableEq, Repr

/-- Fails a review on behalf of a run. Where the database fails, that is told in the outcome
(review_lifecycle:196-204). -/
def reportFailure (review : Int) (error : String) (run : Option Text) : Program Outcome :=
  let outcome : Outcome := { action := "fail_review", ok := false, review, error }
  .ask (.store (.move review (Named.name ReviewStatus.failed) (.failed error) run)) fun
    | .ok true => .done { outcome with status := some .failed }
    | .ok false => .done outcome
    | .error e => if e.isDatabase then .done { outcome with details := .storeError e.text } else .failed e

namespace Run

/-- Moves the run's review to a status. -/
def moveTo (r : Run) (target : ReviewStatus) (progress : Progress) : Program Bool :=
  .store (.move r.review (Named.name target) progress r.run)

/-- A best-effort progress write (review_lifecycle:297-302). -/
def note (r : Run) (progress : Progress) : Program Unit :=
  .ask (.store (.move r.review (Named.name ReviewStatus.inProgress) progress r.run)) fun
    | .ok _ => .done ()
    | .error e => if e.isDatabase then .done () else .failed e

/-- The percentage done after `analyzed` of `total` files. -/
def percentage (analyzed total : Nat) : Int := Progress.analyzingStart + ((analyzed * 40 / total : Nat) : Int)

/-- The tally with one more file. -/
def count (tally : Tally) (analysis : Analysis) : Tally :=
  { analyzed := tally.analyzed + 1
    issues := tally.issues + analysis.issues.length
    toReview := tally.toReview + if analysis.inScope then 1 else 0 }

/-- Analyses and records the files left of `total`, or tells why it stopped (review_lifecycle:164-176). -/
def analyzeFiles (r : Run) (token : Token) (total : Nat) :
    List ChangedFile → Tally → Program (Except StopReason Tally)
  | [], tally => .done (.ok tally)
  | file :: files, tally => do
    if ← Program.request (.isCancelled token) then return .error .cancelled
    let analysis ← Program.request (.analyze file)
    let complexity := if analysis.inScope then file.complexity else 0
    let status := Named.name file.status
    if !(← Program.store (.addAnalysis r.review r.run status analysis complexity)) then
      return .error .supersededOrClosed
    let tally := count tally analysis
    r.note (.analyzing (percentage tally.analyzed total) none (some tally.analyzed))
    analyzeFiles r token total files tally

/-- The outcome of a run that stopped (review_lifecycle:304-308). -/
def stopped (r : Run) (reason : StopReason) : Outcome :=
  { action := "run_review", review := r.review, status := some .stopped, details := .stopped reason }

/-- The outcome of a run that completed. -/
def completed (r : Run) (tally : Tally) : Outcome :=
  { action := "run_review", review := r.review, status := some .completed, details := .completed tally }

/-- Completes the review with what was counted. -/
def complete (r : Run) (tally : Tally) : Program Outcome := do
  r.note (.ready Progress.readyStart tally.analyzed tally.toReview)
  if ← r.moveTo .completed (.completed Progress.allDone tally.analyzed tally.issues) then
    return r.completed tally
  else return r.stopped .supersededOrClosed

/-- The steps of a run, failures left open (review_lifecycle:152-194). -/
def steps (r : Run) (token : Token) : Program Outcome := do
  if !(← r.moveTo .inProgress (.fetching Progress.fetchingStart)) then return r.stopped .supersededOrClosed
  let (owner, name) := splitFullName r.repository
  let files ← Program.request (.fetchFiles r.installation owner name r.number)
  r.note (.analyzing Progress.analyzingStart (some files.length) none)
  match ← r.analyzeFiles token files.length files {} with
  | .error reason => return r.stopped reason
  | .ok tally => r.complete tally

/-- The steps of a run, ending any failure by failing the review. -/
def attempt (r : Run) (token : Token) : Program Outcome :=
  (r.steps token).rescue fun e => reportFailure r.review e.message r.run

/-- A run from the registration of its token to its removal (review_lifecycle:129-141). -/
def program (r : Run) : Program Outcome := do
  let token ← Program.request (.startRun r.review)
  (r.attempt token).andFinally (Program.request (.finishRun r.review token))

end Run

end PullReview
