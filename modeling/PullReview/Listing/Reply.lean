import PullReview.Json.Encoding
import PullReview.Web.Content
import PullReview.Listing.Request

/-!
# Replies of the listing service

A reply is taken once its content is unpacked, and the address to which it refers, if it does, could
be asked for. It is never asked for: a reply that refers elsewhere counts by its status and body like
any other.

| here | there |
| --- | --- |
| `Response` | `httpx.Response`: status, headers as received, body |
| `Response.content?` | `Response.content`, or its `DecodingError` |
| `Response.checkReferral` | the redirect address that the client builds and does not follow |
| `Reply.take` | `client.get`, `client.post` (github_service:48, 102) |
| `bodyValue` | `response.json()` (github_service:66, 105) |
-/

namespace PullReview.Listing

/-- What a service replied. -/
structure Response where
  status : Int
  headers : List (String × String)
  body : List UInt8
  deriving DecidableEq, Repr

/-- What came back for a request. -/
inductive Reply where
  | response (r : Response)
  /-- The network failed. -/
  | unreachable
  deriving DecidableEq, Repr

/-- The values of a header in order, names compared without case. -/
def headerValues (headers : List (String × String)) (name : String) : List String :=
  (headers.filter fun h => h.1.toLower == name).map (·.2)

/-- The value of a header; several are joined by commas. -/
def header? (headers : List (String × String)) (name : String) : Option String :=
  match headerValues headers name with
  | [] => none
  | values => some (", ".intercalate values)

namespace Response

/-- The unpacked body. -/
def content? (r : Response) : Option (List UInt8) :=
  Web.unpacked? ((headerValues r.headers "content-encoding").flatMap Web.Packing.ofHeader) r.body

/-- The statuses that refer to another address. -/
def referrals : List Int := [301, 302, 303, 307, 308]

/-- Where a reply refers to. -/
def referral? (r : Response) : Option String :=
  if referrals.contains r.status then header? r.headers "location" else none

/-- Checks the address to which a reply refers. -/
def checkReferral (r : Response) (request : Outgoing) (unreachable : Rejection) : Except Error Unit :=
  match r.referral? with
  | none => .ok ()
  | some location => (request.address.checkReferral location.toList).mapError fun
    | .unreadable => .rejected unreachable
    | .unusable => .unusableAddress
    | .unsendable => .unusableHeader
    | .badHost fault => .badHost fault

end Response

/-- Takes the reply to a request, unpacked. A reply that cannot be taken for its content, or for the
address to which it refers, counts as none (github_service:48, 102). -/
def Reply.take (request : Outgoing) (unreachable : Rejection) : Reply → Except Error Response
  | .unreachable => .error (.rejected unreachable)
  | .response r =>
    match r.content? with
    | none => .error (.rejected unreachable)
    | some body =>
      if request.address.scheme = [] then .error .relativeAddress
      else (r.checkReferral request unreachable).map fun () => { r with body }

/-- The JSON value of a body, with room for so many arrays and objects inside one another (github_service:66, 105). -/
def bodyValue (room : Nat) (body : List UInt8) : Except Error Json :=
  (Json.ofBytes room body).mapError fun
    | .undecodable => .undecodableReply
    | .unreadable .malformed => .malformedReply
    | .unreadable .longNumeral => .longNumeral
    | .unreadable .tooDeep => .deepReply

end PullReview.Listing
