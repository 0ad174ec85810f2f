import PullReview.Store.Call
import PullReview.Run.Cancellation

/-!
# Requests

What the handling of a delivery asks of its surroundings, one request at a time: store calls, the
changed files of a pull request, the analysis of a file, and the cancellation registry. Each request
has a type of reply, and may fail instead. Nothing else has an effect.

| here | there |
| --- | --- |
| `Request.store` | a method of `ReviewStore` (review_store:77-261) |
| `Request.fetchFiles` | `ChangedFilesFetcher.fetch_changed_files` (review_lifecycle:41-43) |
| `Request.analyze` | `FileAnalyzer.analyze_file` (file_analyzer:90-106) |
| the others | the methods of `CancellationRegistry` (review_lifecycle:56-79) |
-/

namespace PullReview

inductive Request where
  | store (call : StoreCall)
  | fetchFiles (installation : Int) (owner name : Text) (number : Int)
  | analyze (file : ChangedFile)
  /-- Registers a new run of a review. -/
  | startRun (review : Int)
  | isCancelled (token : Token)
  | cancelRun (review : Int)
  | finishRun (review : Int) (token : Token)
  deriving DecidableEq, Repr

namespace Request

/-- What each request replies. -/
abbrev Reply : Request → Type
  | store call => call.Reply
  | fetchFiles .. => List ChangedFile
  | analyze _ => Analysis
  | startRun _ => Token
  | isCancelled _ => Bool
  | cancelRun _ => Bool
  | finishRun .. => Unit

end Request

/-- The kinds of request before which others may step in. -/
inductive Point where
  | fetch | analyze | beginRun | queue | move | addAnalysis | cancel
  | saveInstallation | saveRepositories | dropRepositories | dropInstallation
  deriving DecidableEq, Repr

def StoreCall.point : StoreCall → Point
  | queue .. => .queue
  | move .. => .move
  | addAnalysis .. => .addAnalysis
  | cancel .. => .cancel
  | saveInstallation .. => .saveInstallation
  | saveRepositories .. => .saveRepositories
  | dropRepositories .. => .dropRepositories
  | dropInstallation .. => .dropInstallation

/-- The point a request stands for. A run begins where its token is registered. -/
def Request.point? : Request → Option Point
  | store call => some call.point
  | fetchFiles .. => some .fetch
  | analyze _ => some .analyze
  | startRun _ => some .beginRun
  | isCancelled _ | cancelRun _ | finishRun .. => none

end PullReview
