import PullReview.Text.Named

/-!
# Review statuses

The five statuses of a review and the changes between them that are allowed. Nothing leaves a
terminal status.

| here | there |
| --- | --- |
| `ReviewStatus` | `ReviewStatus` (schemas:8) |
| `successors`, `sources` | `ALLOWED_TRANSITIONS`, `allowed_sources` (review_store:34-44) |
| `isTerminal`, `isActive` | `TERMINAL_STATUSES`, `ACTIVE_STATUSES` (models:19-20) |
-/

namespace PullReview

inductive ReviewStatus where
  | pending | inProgress | completed | failed | cancelled
  deriving DecidableEq, Repr

instance : Named ReviewStatus where
  all := [.pending, .inProgress, .completed, .failed, .cancelled]
  name
    | .pending => "pending"
    | .inProgress => "in_progress"
    | .completed => "completed"
    | .failed => "failed"
    | .cancelled => "cancelled"

namespace ReviewStatus

/-- The statuses that a review may go on to (review_store:34-40). -/
def successors : ReviewStatus → List ReviewStatus
  | pending => [inProgress, failed, cancelled]
  | inProgress => [inProgress, completed, failed, cancelled]
  | completed | failed | cancelled => []

def isTerminal : ReviewStatus → Bool
  | completed | failed | cancelled => true
  | pending | inProgress => false

/-- A review that is waiting or running. -/
def isActive (s : ReviewStatus) : Bool := !s.isTerminal

/-- The statuses in the order of their names. -/
def byName : List ReviewStatus := [cancelled, completed, failed, inProgress, pending]

/-- The statuses from which a review may go to the target, in the order of their names. A target
that is no status has none (review_store:43-44). -/
def sources (target : Text) : List ReviewStatus :=
  byName.filter fun s => s.successors.any fun t => (Named.name t : Text) == target

end ReviewStatus

end PullReview
