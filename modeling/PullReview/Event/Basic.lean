import PullReview.Event.Parts

/-!
# Events

The deliveries that are handled. A delivery's event name and the action in its payload give its
topic; each topic has one kind of event, and every other delivery is ignored. `Event.read` takes a
payload, and `Event.toJson` puts an event back into a payload of the same topic.

| here | there |
| --- | --- |
| `Topic` | the keys of `EVENT_MODELS` (events:114-123) |
| `Event` | `WebhookEvent` and its six models (events:62-112) |
| `Event.read` | `parse_event` (events:126-136) |
| `Event.label` | `describe` (events:139-140) |
-/

namespace PullReview

/-- What makes a pull request's review due. -/
inductive QueueAction where
  | opened | synchronize | reopened
  deriving DecidableEq, Repr

/-- The pairs of event and action that are handled. -/
inductive Topic where
  | reviewDue (action : QueueAction)
  | pullRequestClosed
  | installationCreated
  | installationDeleted
  | repositoriesAdded
  | repositoriesRemoved
  deriving DecidableEq, Repr

namespace Topic

/-- The name of the event in the delivery's headers. -/
def event : Topic → String
  | reviewDue _ | pullRequestClosed => "pull_request"
  | installationCreated | installationDeleted => "installation"
  | repositoriesAdded | repositoriesRemoved => "installation_repositories"

/-- The name of the action in the payload. -/
def action : Topic → String
  | reviewDue .opened => "opened"
  | reviewDue .synchronize => "synchronize"
  | reviewDue .reopened => "reopened"
  | pullRequestClosed => "closed"
  | installationCreated => "created"
  | installationDeleted => "deleted"
  | repositoriesAdded => "added"
  | repositoriesRemoved => "removed"

def all : List Topic :=
  [reviewDue .opened, reviewDue .synchronize, reviewDue .reopened, pullRequestClosed,
    installationCreated, installationDeleted, repositoriesAdded, repositoriesRemoved]

/-- The topic with these names. -/
def ofNames? (event : String) (action : Text) : Option Topic :=
  all.find? fun t => t.event == event && (t.action : Text) == action

/-- The topic as one word. -/
def label (t : Topic) : String := t.event ++ "." ++ t.action

end Topic

/-- A delivery that is handled, with what is read of its payload. -/
inductive Event where
  | reviewDue (action : QueueAction) (pullRequest : Event.PullRequest) (repository : Event.Repository)
      (installation : Event.Installation)
  | pullRequestClosed (pullRequest : Event.PullRequest) (repository : Event.Repository)
      (installation : Option Event.Installation)
  | installationCreated (installation : Event.Installation) (repositories : List Event.Repository)
  | installationDeleted (installation : Event.Installation)
  | repositoriesAdded (installation : Event.Installation) (repositories : List Event.Repository)
  | repositoriesRemoved (installation : Event.Installation) (repositories : List Event.Repository)
  deriving DecidableEq, Repr

/-- What a delivery turns out to be. -/
inductive Reading where
  /-- A pair of event and action that is not handled. -/
  | ignored
  /-- The action is a list or an object with something in it, so it cannot be looked up. -/
  | unusableAction
  | refused (refusals : List Refusal)
  | event (event : Event)
  deriving Repr

namespace Event

def topic : Event → Topic
  | reviewDue action .. => .reviewDue action
  | pullRequestClosed .. => .pullRequestClosed
  | installationCreated .. => .installationCreated
  | installationDeleted .. => .installationDeleted
  | repositoriesAdded .. => .repositoriesAdded
  | repositoriesRemoved .. => .repositoriesRemoved

def label (e : Event) : String := e.topic.label

/-- The repository of a pull request event. -/
def repository? : Event → Option Event.Repository
  | reviewDue _ _ repository _ => some repository
  | pullRequestClosed _ repository _ => some repository
  | _ => none

/-- Takes the members of a payload whose topic is known. -/
def ofMembers (m : Members) : Topic → Checked Event
  | .reviewDue action =>
    reviewDue action <$> m.required "pull_request" Event.PullRequest.ofJson
      <*> m.required "repository" Event.Repository.ofJson
      <*> m.required "installation" Event.Installation.ofJson
  | .pullRequestClosed =>
    pullRequestClosed <$> m.required "pull_request" Event.PullRequest.ofJson
      <*> m.required "repository" Event.Repository.ofJson
      <*> m.optional "installation" none (Json.asOptional Event.Installation.ofJson)
  | .installationCreated =>
    installationCreated <$> m.required "installation" Event.Installation.ofJson
      <*> m.optional "repositories" [] (Json.asList Event.Repository.ofJson)
  | .installationDeleted => installationDeleted <$> m.required "installation" Event.Installation.ofJson
  | .repositoriesAdded =>
    repositoriesAdded <$> m.required "installation" Event.Installation.ofJson
      <*> m.optional "repositories_added" [] (Json.asList Event.Repository.ofJson)
  | .repositoriesRemoved =>
    repositoriesRemoved <$> m.required "installation" Event.Installation.ofJson
      <*> m.optional "repositories_removed" [] (Json.asList Event.Repository.ofJson)

/-- Reads the payload of a delivery with the given event name (events:126-136). -/
def read (name : String) (payload : Json) : Reading :=
  match payload with
  | .obj m =>
    match Members.get? m "action" with
    | some (.str action) =>
      match Topic.ofNames? name action with
      | none => .ignored
      | some topic =>
        match ofMembers m topic with
        | .ok event => .event event
        | .refused refusals => .refused refusals
    | some (.arr (_ :: _)) | some (.obj (_ :: _)) => .unusableAction
    | _ => .ignored
  | _ => .ignored

def toMembers (e : Event) : Members :=
  ("action", .str e.topic.action) ::
    match e with
    | reviewDue _ pullRequest repository installation =>
      [("pull_request", pullRequest.toJson), ("repository", repository.toJson),
        ("installation", installation.toJson)]
    | pullRequestClosed pullRequest repository installation =>
      [("pull_request", pullRequest.toJson), ("repository", repository.toJson),
        ("installation", .ofOption Event.Installation.toJson installation)]
    | installationCreated installation repositories =>
      [("installation", installation.toJson),
        ("repositories", .arr (repositories.map Event.Repository.toJson))]
    | installationDeleted installation => [("installation", installation.toJson)]
    | repositoriesAdded installation repositories =>
      [("installation", installation.toJson),
        ("repositories_added", .arr (repositories.map Event.Repository.toJson))]
    | repositoriesRemoved installation repositories =>
      [("installation", installation.toJson),
        ("repositories_removed", .arr (repositories.map Event.Repository.toJson))]

def toJson (e : Event) : Json := .obj e.toMembers

end Event

end PullReview
