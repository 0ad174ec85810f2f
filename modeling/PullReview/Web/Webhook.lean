import PullReview.Web.Incoming
import PullReview.Web.Answer
import PullReview.Json.Encoding
import PullReview.Event.Basic
import PullReview.Signature

/-!
# Deliveries

A delivery is checked in this order: its signature, whether it is a ping, whether its body is JSON,
and whether its payload makes an event. Only a delivery that makes an event is accepted.

| here | there |
| --- | --- |
| `Delivery.ofBody` | the body of `github_webhook` (main:95-130) |
| `Delivery.ofIncoming` | `verify_webhook_request` (security:27-38), then the body |
-/

namespace PullReview.Web

/-- What becomes of a delivery. -/
inductive Delivery where
  /-- An answer, and nothing else happens. -/
  | settled (answer : Answer)
  | accepted (event : Event)
  | crashed (crash : Crash)

namespace Delivery

def badSignature : Answer := .ofCode 401 "Invalid webhook signature" "invalid_signature"

def badBody : Answer := .ofCode 400 "Webhook body is not valid JSON" "invalid_json"

def badPayload (event : String) : Answer := .ofCode 400 s!"Invalid {event} payload" "invalid_payload"

def statusOnly (status : String) : Answer := .ofJson 200 (.obj [("status", .str status)])

/-- The answer to an accepted delivery. -/
def acceptance (event : Event) : Answer :=
  .ofJson 202 (.obj [("status", .str "accepted"), ("event", .str event.label)])

/-- The event that a delivery names, the empty name when it names none. -/
def eventName (i : Incoming) : String := (i.header? "x-github-event").getD ""

/-- The delivery of a payload under an event name. -/
def ofPayload (name : String) (payload : Json) : Delivery :=
  match Event.read name payload with
  | .ignored => settled (statusOnly "ignored")
  | .unusableAction => crashed .unusableAction
  | .refused _ => settled (badPayload name)
  | .event event => accepted event

/-- The delivery of a signed body under an event name, with room for so many arrays and objects inside one
another (main:102-130). -/
def ofBody (room : Nat) (name : String) (body : List UInt8) : Delivery :=
  if name = "ping" then settled (statusOnly "pong")
  else
    match Json.ofBytes room body with
    | .error (.unreadable .tooDeep) => crashed .deepBody
    | .error _ => settled badBody
    | .ok payload => ofPayload name payload

/-- What becomes of a delivery under a secret (security:27-38). -/
def ofIncoming (room : Nat) (secret : String) (i : Incoming) : Delivery :=
  match verify secret i.body ((i.header? "x-hub-signature-256").getD "") with
  | .rejected => settled badSignature
  | .incomparable => crashed .incomparableSignature
  | .accepted => ofBody room (eventName i) i.body

end Delivery

end PullReview.Web
