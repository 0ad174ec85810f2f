import PullReview.Listing.Reply

/-!
# Exchanges with the listing service

The requests that are sent to the service that lists changed files, and the replies to them. The
replies are given in order; when none is left the service cannot be reached. A session keeps the
replies still to come and a log of the requests sent and the tokens signed.

| here | there |
| --- | --- |
| `Signing` | the claims, key and algorithm of `jwt.encode` (github_service:68-71) |
| `Session.send` | one request of the `httpx.Client` (github_service:85-86) |
-/

namespace PullReview.Listing

/-- What the app has signed as a token of its own: when it is issued and when it ends, for which app, and
under which key. -/
structure Signing where
  issuedAt : Int
  expiresAt : Int
  issuer : String
  key : String
  deriving DecidableEq, Repr

/-- What a session knows and has done. -/
structure Session where
  replies : List Reply
  sent : List Outgoing := []
  signed : List Signing := []
  deriving DecidableEq, Repr

namespace Session

/-- Sends a request and takes the next reply. -/
def send (s : Session) (request : Outgoing) : Reply × Session :=
  match s.replies with
  | [] => (.unreachable, { s with sent := s.sent ++ [request] })
  | reply :: replies => (reply, { s with replies, sent := s.sent ++ [request] })

end Session

/-- The base address without slashes at its end. -/
def baseAddress (settings : Settings) : String :=
  String.ofList (Text.dropEnd (· == '/') settings.githubApiBaseUrl.toList)

end PullReview.Listing
