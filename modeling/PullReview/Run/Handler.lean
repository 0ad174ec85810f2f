import PullReview.Run.Steps
import PullReview.Event.Basic

/-!
# Handling events

One program for each kind of event. A database failure of the one store call is turned into an
outcome; whatever else fails is left to `Event.process`, which turns it into an outcome as well.

| here | there |
| --- | --- |
| `Handler.review` | `queue_review` (review_lifecycle:99-127) |
| `Handler.close` | `cancel_reviews` (review_lifecycle:206-226) |
| `Handler.install`, `Handler.uninstall` | `record_installation`, `remove_installation` (review_lifecycle:228-267) |
| `Handler.gainRepositories` | `add_repositories` (review_lifecycle:269-284) |
| `Handler.loseRepositories` | `remove_repositories` (review_lifecycle:286-295) |
| `Handler.orReport` | the `except SQLAlchemyError` around a store call |
| `Event.process` | `EventDispatcher.dispatch` (event_dispatcher:31-48) |
-/

namespace PullReview

/-- What is recorded about a pull request when its review is queued. -/
def Event.PullRequest.summary (p : Event.PullRequest) : PullRequestSummary :=
  { title := p.title, author := p.author, url := p.url, headSha := p.head.sha, baseSha := p.base.sha
    changedFiles := p.changedFiles, additions := p.additions, deletions := p.deletions }

namespace Handler

/-- An outcome for a database failure of the call, the call's reply to `next` otherwise. -/
def orReport (action : String) (call : StoreCall) (next : call.Reply → Program Outcome) : Program Outcome :=
  .ask (.store call) fun
    | .ok reply => next reply
    | .error e => if e.isDatabase then .done { action, ok := false, error := e.text } else .failed e

/-- Asks the runs of reviews to stop. -/
def cancelRuns : List Int → Program Unit
  | [] => .done ()
  | review :: reviews => do
    let _ ← Program.request (.cancelRun review)
    cancelRuns reviews

/-- Queues a review and runs it at once. A refusal to queue is reported; a run that crashes is
failed, on behalf of its own run only (review_lifecycle:99-127). -/
def review (pullRequest : Event.PullRequest) (repository : Event.Repository)
    (installation : Event.Installation) : Program Outcome :=
  let call :=
    StoreCall.queue pullRequest.number repository.fullName installation.id pullRequest.summary
  .ask (.store call) fun
    | .error e =>
      if e.isDatabase || e.isRejection then
        .done { action := "queue_review", ok := false, error := e.text }
      else .failed e
    | .ok queued =>
      let run : Run :=
        { review := queued.review, run := queued.run, installation := installation.id
          repository := repository.fullName, number := pullRequest.number }
      run.program.rescue fun e => reportFailure queued.review e.message queued.run

/-- Cancels the review of a closed pull request (review_lifecycle:206-226). -/
def close (pullRequest : Event.PullRequest) (repository : Event.Repository) : Program Outcome :=
  orReport "cancel_reviews"
    (.cancel pullRequest.number repository.fullName Progress.closedReason) fun cancelled => do
      cancelRuns cancelled
      return { action := "cancel_reviews", review := cancelled.head?
               status := if cancelled.isEmpty then none else some .cancelled
               details := .cancelled cancelled }

/-- Records an installation, which must come with its account (review_lifecycle:228-247). -/
def install (installation : Event.Installation) (repositories : List Event.Repository) :
    Program Outcome :=
  match installation.account with
  | none =>
    .done { action := "record_installation", ok := false, error := "installation payload has no account" }
  | some account =>
    orReport "record_installation"
      (.saveInstallation installation.id account.login account.kind repositories) fun count =>
        .done { action := "record_installation", details := .repositories count }

/-- Removes an installation and asks the runs of its reviews to stop (review_lifecycle:249-267). -/
def uninstall (installation : Event.Installation) : Program Outcome :=
  orReport "remove_installation" (.dropInstallation installation.id) fun removed => do
    cancelRuns removed.reviews
    return { action := "remove_installation"
             details := .removed removed.reviews.length removed.repositories removed.installations }

def gainRepositories (installation : Event.Installation) (repositories : List Event.Repository) :
    Program Outcome :=
  orReport "add_repositories"
    (.saveRepositories installation.id repositories (installation.account.map (·.login))
      ((installation.account.map (·.kind)).getD "User")) fun count =>
        .done { action := "add_repositories", details := .repositories count }

def loseRepositories (installation : Event.Installation) (repositories : List Event.Repository) :
    Program Outcome :=
  orReport "remove_repositories"
    (.dropRepositories installation.id (repositories.map (·.id))) fun count =>
      .done { action := "remove_repositories", details := .repositories count }

end Handler

namespace Event

/-- The program that handles an event. -/
def program : Event → Program Outcome
  | reviewDue _ pullRequest repository installation =>
    Handler.review pullRequest repository installation
  | pullRequestClosed pullRequest repository _ => Handler.close pullRequest repository
  | installationCreated installation repositories => Handler.install installation repositories
  | installationDeleted installation => Handler.uninstall installation
  | repositoriesAdded installation repositories => Handler.gainRepositories installation repositories
  | repositoriesRemoved installation repositories => Handler.loseRepositories installation repositories

/-- Handles an event; a failure that its handler leaves open becomes an outcome (event_dispatcher:31-48). -/
def process (e : Event) : Program Outcome :=
  e.program.rescue fun failure => .done { action := e.label, ok := false, error := failure.text }

end Event

end PullReview
