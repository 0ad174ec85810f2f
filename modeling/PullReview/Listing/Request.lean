import PullReview.Json.Display
import PullReview.Web.Address
import PullReview.Listing.Error
import PullReview.Settings

/-!
# Requests to the listing service

A request carries the token in a header, unless its address has a name or a password: then these are
sent instead. An address without scheme and host is sent as a path, which no service can answer.

| here | there |
| --- | --- |
| `requestHeaders` | `_build_headers` (github_service:127-135) |
| `Outgoing.prepare` | the request that the client builds of an address and headers |
-/

namespace PullReview.Listing

inductive Method where
  | get | post
  deriving DecidableEq, Repr

/-- The headers that every request carries, the authorization aside. -/
def fixedHeaders : List (String × Text) :=
  [("Accept", "application/vnd.github+json"), ("User-Agent", "pr-review-service/1.0"),
    ("X-GitHub-Api-Version", "2022-11-28")]

/-- The header that authorizes a request. -/
def authorization (credentials : Text) : List (String × Text) := [("Authorization", credentials)]

/-- The headers of a request with a token; an absent token gives no authorization (github_service:127-135). -/
def requestHeaders (token : Json) : List (String × Text) :=
  fixedHeaders ++ if token.isPresent then authorization (("Bearer " : Text) ++ token.display) else []

/-- The headers that are sent to an address. -/
def headersFor (address : Web.Address) (token : Json) : List (String × Text) :=
  match address.credentials? with
  | some credentials => fixedHeaders ++ authorization ("Basic " ++ String.ofList credentials : String)
  | none => requestHeaders token

/-- A request that was sent. -/
structure Outgoing where
  method : Method
  address : Web.Address
  headers : List (String × Text)
  /-- How many seconds the reply may take. -/
  timeout : Int
  deriving DecidableEq, Repr

/-- The address that is asked for, its own query giving way to the one that is asked, if one is. -/
def askedAddress? (address : Web.Address) (query : Option (List Char)) : Option Web.Address :=
  match query with
  | none => some address
  | some query => address.withQuery? query

/-- Checks that the host of an address can be named: it has a form to show and one in ASCII. -/
def checkHost (address : Web.Address) : Except Error Unit := do
  let _ ← address.shownHost.mapError .badHost
  if address.netloc.all Text.isAscii then .ok () else .error .unusableHeader

/-- Prepares a request; a token beyond ASCII cannot be sent. -/
def Outgoing.prepare (settings : Settings) (method : Method) (address : String)
    (query : Option (List Char)) (token : Json) : Except Error Outgoing :=
  match (Web.Address.ofText? address.toList).bind fun given => ({} : Web.Address).under? given with
  | none => .error .unusableAddress
  | some whole =>
    if (requestHeaders token).any fun h => !h.2.isAsciiOnly then .error .unusableHeader
    else
      match askedAddress? whole query with
      | none => .error .unusableAddress
      | some asked =>
        (checkHost asked).map fun () =>
          { method, address := asked, headers := headersFor asked token
            timeout := settings.githubApiTimeoutSeconds }

end PullReview.Listing
