import PullReview.Text.Named
import PullReview.Json.Basic

/-!
# Outcomes

What the handling of a delivery comes to: the action taken, whether it succeeded, the review it
concerns, and what is worth telling about it.

| here | there |
| --- | --- |
| `Outcome` | `LifecycleResult` (review_lifecycle:46-53) |
-/

namespace PullReview

/-- Where a review stands after an action. -/
inductive OutcomeStatus where
  | completed | stopped | failed | cancelled
  deriving DecidableEq, Repr

instance : Named OutcomeStatus where
  all := [.completed, .stopped, .failed, .cancelled]
  name
    | .completed => "completed"
    | .stopped => "stopped"
    | .failed => "failed"
    | .cancelled => "cancelled"

/-- Why a run stopped before its end. -/
inductive StopReason where
  /-- A newer run has taken over, or the review is closed. -/
  | supersededOrClosed
  /-- The run's token was set. -/
  | cancelled
  deriving DecidableEq, Repr

instance : Named StopReason where
  all := [.supersededOrClosed, .cancelled]
  name
    | .supersededOrClosed => "superseded_or_closed"
    | .cancelled => "cancelled"

/-- What a run has counted. -/
structure Tally where
  analyzed : Nat := 0
  issues : Nat := 0
  toReview : Nat := 0
  deriving DecidableEq, Repr

inductive Details where
  | nothing
  | stopped (reason : StopReason)
  | completed (tally : Tally)
  | cancelled (reviews : List Int)
  | repositories (count : Nat)
  | removed (reviews repositories installations : Nat)
  | storeError (message : String)
  deriving DecidableEq, Repr

def Details.toMembers : Details → Members
  | nothing => []
  | stopped reason => [("reason", .str (Named.name reason))]
  | completed tally =>
    [("files_analyzed", .int tally.analyzed), ("issues_found", .int tally.issues),
      ("files_to_review", .int tally.toReview)]
  | cancelled reviews => [("review_ids", .arr (reviews.map .int))]
  | repositories count => [("repositories", .int count)]
  | removed reviews repos installations =>
    [("reviews_cancelled", .int reviews), ("repositories_removed", .int repos),
      ("installations_removed", .int installations)]
  | storeError message => [("store_error", .str message)]

structure Outcome where
  action : String
  ok : Bool := true
  review : Option Int := none
  status : Option OutcomeStatus := none
  error : Option String := none
  details : Details := .nothing
  deriving DecidableEq, Repr

def Outcome.toJson (o : Outcome) : Json :=
  .obj [("action", .str o.action), ("ok", .bool o.ok), ("review_id", .ofOption .int o.review),
    ("status", .ofOption (fun s => .str (Named.name s)) o.status), ("error", .text? o.error),
    ("details", .obj o.details.toMembers)]

end PullReview
