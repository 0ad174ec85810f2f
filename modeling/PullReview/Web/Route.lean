import PullReview.Web.Incoming
import PullReview.Web.NamedHost
import PullReview.Web.Answer
import PullReview.Text.Blank

/-!
# Routes

The paths that are answered, each with its method. A path with slashes too many at its end is
referred to the one without them.

| here | there |
| --- | --- |
| `Endpoint.ofPath?` | the routes of `router` (main:89, 133, 147, 161, 181, 202, 211) |
| `unrouted` | the answers of the router: 404, 405, or a redirect without the last slashes |
-/

namespace PullReview.Web

inductive Endpoint where
  | home
  | health
  | reviews
  | review (id : String)
  | repositoryReviews (owner name : String)
  | overview
  | webhook
  deriving DecidableEq, Repr

namespace Endpoint

/-- The endpoint whose path has the given segments. A segment that stands for a parameter is not
empty. -/
def ofSegments? : List String → Option Endpoint
  | ["", ""] => some home
  | ["", "api", "health"] => some health
  | ["", "api", "reviews"] => some reviews
  | ["", "api", "reviews", id] => if id = "" then none else some (review id)
  | ["", "api", "repos", owner, name, "reviews"] =>
    if owner = "" ∨ name = "" then none else some (repositoryReviews owner name)
  | ["", "api", "stats"] => some overview
  | ["", "webhooks", "github"] => some webhook
  | _ => none

def segments (path : List Char) : List String := (Text.splitOn '/' path).map String.ofList

/-- The endpoint of a path. One line feed may follow a path that ends in a fixed segment. -/
def ofPath? (path : List Char) : Option Endpoint :=
  match ofSegments? (segments path) with
  | some e => some e
  | none => if path.getLast? = some '\n' then ofSegments? (segments path.dropLast) else none

/-- The only method of an endpoint. -/
def method : Endpoint → String
  | webhook => "POST"
  | _ => "GET"

end Endpoint

/-- What may stand in an address that the sender is referred to. -/
def inLocation (c : Char) : Bool :=
  c.isAlphanum || "_.-~:/%#?=@[]!$&'()*+,;".toList.contains c

/-- The host that was asked for with its port. A port that is not known is written as none. -/
def askedHost (a : Address) : List Char :=
  let port := a.port.elim "None" toString
  a.shownHost.toOption.getD a.host ++
    if a.port.isSome ∧ a.port = Address.impliedPort? a.scheme then [] else ':' :: port.toList

/-- The host that a request names, if it is one, or else the one that was asked for. -/
def namedHost (i : Incoming) : List Char :=
  match (i.header? "host").filter fun host => isNamedHost host.toList with
  | some host => host.toList
  | none => askedHost i.address

/-- A path as it stands in an address, where the marks of a query and a fragment are not in it. -/
def markless (path : List Char) : List Char := Text.percentEncode (fun c => c != '?' && c != '#') path

/-- The address of a path, and of the query of a request, on the host that the request names. -/
def locationOf (i : Incoming) (path : List Char) : String :=
  let query := if i.query.isEmpty then [] else '?' :: i.query
  String.ofList (Text.percentEncode inLocation
    (i.address.scheme ++ "://".toList ++ namedHost i ++ markless path ++ query))

/-- The answer to a path that has no endpoint: a referral, if one has it without the slashes at its
end. -/
def unrouted (i : Incoming) : Answer :=
  let path := Text.dropEnd (· == '/') i.path
  if i.path.getLast? = some '/' ∧ (Endpoint.ofPath? path).isSome then .redirect (locationOf i path)
  else .notFound

end PullReview.Web
