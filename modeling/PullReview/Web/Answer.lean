import PullReview.Intake.Checked
import PullReview.Json.Plain
import PullReview.Failure

/-!
# Answers to requests

An answer has a status, a body, and possibly the address it refers to and the origin it may be shared
with. A request that crashes has no answer of its own; the one sent instead says nothing of the
cause.

| here | there |
| --- | --- |
| `Answer` | a `Response`; `Answer.ofCode` an `HTTPException` with its detail |
| `Answer.encoded` | `JSONResponse.render`: `dumps(..., ensure_ascii=False).encode("utf-8")` |
| `Crash` | an exception that no handler takes |
-/

namespace PullReview.Web

inductive Body where
  | json (value : Json)
  | text (content : String)
  deriving Repr

/-- Whether the body can be encoded. -/
def Body.isPlain : Body → Bool
  | json value => value.isPlain
  | text _ => true

structure Answer where
  status : Nat
  body : Body
  /-- Where the sender is referred to. -/
  location : Option String := none
  /-- The origin whose pages may read the answer. -/
  allowOrigin : Option String := none
  deriving Repr

/-- Why a request has no answer of its own. -/
inductive Crash where
  | failure (cause : Failure)
  /-- The signature has a character beyond ASCII. -/
  | incomparableSignature
  /-- The action of a payload is a list or an object with something in it. -/
  | unusableAction
  /-- The body of a delivery nests deeper than can be read. -/
  | deepBody
  /-- A text of the answer has surrogates. -/
  | unencodableAnswer
  deriving DecidableEq, Repr

namespace Answer

/-- The answer once its body is encoded. -/
def encoded (a : Answer) : Except Crash Answer := if a.body.isPlain then .ok a else .error .unencodableAnswer

/-- An answer with a JSON body. -/
def ofJson (status : Nat) (value : Json) : Answer := { status, body := .json value }

/-- An answer with a short text as its detail. -/
def ofDetail (status : Nat) (detail : String) : Answer := ofJson status (.obj [("detail", .str detail)])

/-- An answer with a message and a code as its detail. -/
def ofCode (status : Nat) (message code : String) : Answer :=
  ofJson status (.obj [("detail", .obj [("message", .str message), ("code", .str code)])])

def notFound : Answer := ofDetail 404 "Not Found"

def methodNotAllowed : Answer := ofDetail 405 "Method Not Allowed"

def tooManyRequests : Answer :=
  ofJson 429 (.obj [("detail", .str "Rate limit exceeded"), ("code", .str "rate_limited")])

/-- The answer to a request that crashed. -/
def crashed : Answer := { status := 500, body := .text "Internal Server Error" }

/-- Refers the sender to another address for the same request. -/
def redirect (location : String) : Answer := { status := 307, body := .text "", location := some location }

def placeJson : Place → Json
  | .member key => .str key
  | .item index => .int index

/-- The answer to parameters that were refused. -/
def ofRefusals (refusals : List Refusal) : Answer :=
  ofJson 422 (.obj [("detail", .arr (refusals.map fun r =>
    .obj [("loc", .arr (r.path.map placeJson)), ("type", .str r.fault.code)]))])

end Answer

end PullReview.Web
