import PullReview.Intake.Checked
import PullReview.Domain.Name
import PullReview.Failure

/-!
# Failed listings

Why the changed files of a pull request, or the token under which they are listed, were not obtained.

| here | there |
| --- | --- |
| `Error` | what `fetch_changed_files` raises: `ServiceError`, or what escapes it (github_service:24-37) |
-/

namespace PullReview.Listing

/-- Why a listing or a token was not obtained. -/
inductive Error where
  | rejected (rejection : Rejection)
  /-- The reply is no JSON. -/
  | malformedReply
  | undecodableReply
  | longNumeral
  /-- The reply nests deeper than can be read. -/
  | deepReply
  /-- The reply has no token. -/
  | missingToken
  /-- The reply is of a kind of value that is no use here. -/
  | unusableReply
  /-- An element of the listing is no record. -/
  | notRecord
  /-- A count is of a kind of value that is no number. -/
  | unusableCount
  | unreadableCount
  | infiniteCount
  | refused (refusals : List Refusal)
  | unusableAddress
  /-- The address that was asked for does not stand by itself. -/
  | relativeAddress
  /-- The host to which a reply refers, or the host that replied, has no readable name. -/
  | badHost (fault : Domain.Fault)
  /-- A header holds a character beyond ASCII. -/
  | unusableHeader
  | missingKeyFile
  | undecodableKeyFile
  /-- The key signs nothing. -/
  | unusableKey
  deriving DecidableEq, Repr

end PullReview.Listing
