import PullReview.Web.Address

/-!
# Incoming requests

A request has a method, an address, headers and a body. Its address comes from a target, which stands
by itself or under the address of the site; the path is taken out of its percent form, so `%2F` is a
slash. A request that cannot be put together does not arrive.

| here | there |
| --- | --- |
| `Incoming` | a `Request` |
| `Incoming.countedClient` | `get_remote_address` (main:45) |
-/

namespace PullReview.Web

/-- Why a request does not arrive, or its answer is not taken. -/
inductive Undelivered where
  | unusableAddress
  /-- A header holds a character beyond ASCII. -/
  | unusableHeader
  | badHost (fault : Domain.Fault)
  /-- The answer refers to what is no address. -/
  | unreadableReferral
  deriving DecidableEq, Repr

structure Incoming where
  method : String
  address : Address
  headers : List (String × String)
  body : List UInt8
  /-- Where the request came from, if that is known. -/
  client : Option String := none
  deriving DecidableEq, Repr

namespace Incoming

def path (i : Incoming) : List Char :=
  if i.address.path = [] then ['/'] else Text.percentDecode i.address.path

/-- The client under which the request is counted. -/
def countedClient (i : Incoming) : String :=
  match i.client with
  | none | some "" => "127.0.0.1"
  | some client => client

/-- The query in percent form. -/
def query (i : Incoming) : List Char := i.address.query.getD []

/-- The first header of a name, without regard to case. -/
def header? (i : Incoming) (name : String) : Option String :=
  (i.headers.find? fun h => h.1.toLower == name).map (·.2)

/-- A request whose headers name the host, after its address if they do not. -/
def naming (i : Incoming) : Except Undelivered Incoming :=
  if (i.header? "host").isSome then .ok i
  else if i.address.netloc.all Text.isAscii then
    .ok { i with headers := ("host", String.ofList i.address.netloc) :: i.headers }
  else .error .unusableHeader

/-- The request for a target under the address of a site. -/
def ofTarget (base : Address) (method : String) (target : List Char) (headers : List (String × String))
    (body : List UInt8) : Except Undelivered Incoming :=
  match (Address.ofText? target).bind base.under? with
  | none => .error .unusableAddress
  | some address =>
    if headers.all fun h => h.1.toList.all Text.isAscii && h.2.toList.all Text.isAscii then
      match address.shownHost with
      | .error fault => .error (.badHost fault)
      | .ok _ => naming { method, address, headers, body }
    else .error .unusableHeader

end Incoming

end PullReview.Web
