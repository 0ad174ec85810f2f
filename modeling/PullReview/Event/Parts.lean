import PullReview.Intake.Scalar

/-!
# Parts of a delivery

The records that webhook payloads are made of: accounts, installations, repositories and pull
requests, each with the members that are read. All other members are ignored. Each record is taken
from JSON and put back by `toJson`, with defaults filled in and numbers in plain form.

| here | there |
| --- | --- |
| `Event.Account`, `Event.Installation` | `Account`, `InstallationRef` (events:17-25) |
| `Event.Repository`, `splitFullName` | `RepositoryRef`, `owner_and_name` (events:28-37) |
| `Event.PullRequest` | `UserRef`, `GitRef`, `PullRequestRef` (events:40-59) |
-/

namespace PullReview

/-- The owner of an installation. -/
structure Event.Account where
  id : Option Int := none
  login : Text
  kind : Text := "User"
  deriving DecidableEq, Repr

namespace Event.Account

def ofJson : Json → Checked Event.Account :=
  Json.asRecord fun m =>
    Event.Account.mk <$> m.optional "id" none (Json.asOptional Json.asInteger)
      <*> m.required "login" Json.asText
      <*> m.optional "type" "User" Json.asText

def toJson (a : Event.Account) : Json :=
  .obj [("id", .ofOption .int a.id), ("login", .str a.login), ("type", .str a.kind)]

end Event.Account

/-- An installation of the app, with its owner where the payload tells. -/
structure Event.Installation where
  id : Int
  account : Option Event.Account := none
  deriving DecidableEq, Repr

namespace Event.Installation

def ofJson : Json → Checked Event.Installation :=
  Json.asRecord fun m =>
    Event.Installation.mk <$> m.required "id" Json.asInteger
      <*> m.optional "account" none (Json.asOptional Event.Account.ofJson)

def toJson (i : Event.Installation) : Json :=
  .obj [("id", .int i.id), ("account", .ofOption Event.Account.toJson i.account)]

end Event.Installation

/-- A full repository name cut at its first slash; without one, all of it is the owner. -/
def splitFullName (fullName : Text) : Text × Text :=
  let ps := fullName.points
  (.ofPoints (ps.takeWhile (· ≠ .char '/')), .ofPoints ((ps.dropWhile (· ≠ .char '/')).drop 1))

structure Event.Repository where
  id : Int
  fullName : Text
  name : Text := ""
  isPrivate : Bool := false
  deriving DecidableEq, Repr

namespace Event.Repository

def ofJson : Json → Checked Event.Repository :=
  Json.asRecord fun m =>
    Event.Repository.mk <$> m.required "id" Json.asInteger
      <*> m.required "full_name" Json.asText
      <*> m.optional "name" "" Json.asText
      <*> m.optional "private" false Json.asBoolean

def toJson (r : Event.Repository) : Json :=
  .obj [("id", .int r.id), ("full_name", .str r.fullName), ("name", .str r.name),
    ("private", .bool r.isPrivate)]

end Event.Repository

/-- A commit at one end of a pull request. -/
structure Event.Commit where
  sha : Text := ""
  ref : Text := ""
  deriving DecidableEq, Repr

namespace Event.Commit

def ofJson : Json → Checked Event.Commit :=
  Json.asRecord fun m =>
    Event.Commit.mk <$> m.optional "sha" "" Json.asText <*> m.optional "ref" "" Json.asText

def toJson (r : Event.Commit) : Json := .obj [("sha", .str r.sha), ("ref", .str r.ref)]

end Event.Commit

/-- Takes the login of a user record. -/
def loginOf : Json → Checked Text := Json.asRecord fun m => m.optional "login" "" Json.asText

structure Event.PullRequest where
  number : Int
  title : Text := ""
  state : Text := "open"
  url : Text := ""
  author : Text := ""
  head : Event.Commit := {}
  base : Event.Commit := {}
  changedFiles : Int := 0
  additions : Int := 0
  deletions : Int := 0
  deriving DecidableEq, Repr

namespace Event.PullRequest

def ofJson : Json → Checked Event.PullRequest :=
  Json.asRecord fun m =>
    Event.PullRequest.mk <$> m.required "number" Json.asInteger
      <*> m.optional "title" "" Json.asText
      <*> m.optional "state" "open" Json.asText
      <*> m.optional "html_url" "" Json.asText
      <*> m.optional "user" "" loginOf
      <*> m.optional "head" {} Event.Commit.ofJson
      <*> m.optional "base" {} Event.Commit.ofJson
      <*> m.optional "changed_files" 0 Json.asInteger
      <*> m.optional "additions" 0 Json.asInteger
      <*> m.optional "deletions" 0 Json.asInteger

def toJson (p : Event.PullRequest) : Json :=
  .obj [("number", .int p.number), ("title", .str p.title), ("state", .str p.state), ("html_url", .str p.url),
    ("user", .obj [("login", .str p.author)]), ("head", p.head.toJson), ("base", p.base.toJson),
    ("changed_files", .int p.changedFiles), ("additions", .int p.additions), ("deletions", .int p.deletions)]

end Event.PullRequest

end PullReview
