import PullReview.Listing.Token
import PullReview.File.Change

/-!
# Listing changed files

The changed files of a pull request are listed in pages of 100. Pages are asked for in order until
one has fewer than 100 elements; then all files are given at once, and a failure on any page leaves
none.

| here | there |
| --- | --- |
| `refusal` | `_raise_for_github_error` (github_service:137-163) |
| `fileOf`, `countOf` | `ChangedFile(...)` and `int(...)` of an element (github_service:106-115) |
| `pagesFrom` | `_fetch_paginated_files` (github_service:88-125) |
| `changedFiles` | `fetch_changed_files` (github_service:24-37) |
-/

namespace PullReview.Listing

/-- The pull request whose files are listed. -/
structure Target where
  owner : String
  name : String
  number : Int
  deriving DecidableEq, Repr

/-- The size of a full page. -/
def pageSize : Nat := 100

def listingUnreachable : Rejection :=
  { message := "Unable to reach GitHub API while fetching PR files"
    statusCode := 502, code := "github_api_unreachable" }

/-- The refusal that a reply with status 400 or more stands for (github_service:137-163). -/
def refusal (target : Target) (status : Int) (headers : List (String × String)) : Rejection :=
  if status = 404 then
    { message := s!"PR #{target.number} not found in {target.owner}/{target.name}"
      statusCode := 404, code := "pr_not_found" }
  else if status = 401 ∨ status = 403 then
    if header? headers "x-ratelimit-remaining" = some "0" then
      { message := "GitHub API rate limit exhausted", statusCode := 429, code := "github_rate_limited" }
    else
      { message := "GitHub access denied. Check the app installation's repository permissions."
        statusCode := 403, code := "github_access_denied" }
  else
    { message := s!"GitHub API error ({status}) while fetching PR files"
      statusCode := 502, code := "github_api_error" }

/-- A count of lines: numbers lose their fraction, and text is read as an integer. -/
def countOf : Json → Except Error Int
  | .int i => .ok i
  | .bool b => .ok (if b then 1 else 0)
  | .float .nan => .error .unreadableCount
  | .float x => match x.truncate? with
    | some i => .ok i
    | none => .error .infiniteCount
  | .str s => (Text.readInteger s.visible).mapError fun _ => .unreadableCount
  | _ => .error .unusableCount

/-- The file of an element of the listing (github_service:108-114). -/
def fileOf : Json → Except Error ChangedFile
  | .obj m => do
    let value key default := (Members.get? m key).getD default
    let additions ← countOf (value "additions" (.int 0))
    let deletions ← countOf (value "deletions" (.int 0))
    let members : Members :=
      [("filename", value "filename" (.str "")), ("status", value "status" (.str "modified")),
        ("additions", .int additions), ("deletions", .int deletions), ("patch", value "patch" .null)]
    match ChangedFile.ofMembers members with
    | .ok file => .ok file
    | .refused refusals => .error (.refused refusals)
  | _ => .error .notRecord

/-- The files of the elements of a page. -/
def filesOf : List Json → Except Error (List ChangedFile)
  | [] => .ok []
  | element :: elements => do
    let file ← fileOf element
    return file :: (← filesOf elements)

/-- The files of a page and how many elements it has. An object and a text count by their members and
characters, none of which is a record. -/
def pageOf : Json → Except Error (List ChangedFile × Nat)
  | .arr elements => do return (← filesOf elements, elements.length)
  | .obj [] => .ok ([], 0)
  | .obj _ => .error .notRecord
  | .str s => if s = "" then .ok ([], 0) else .error .notRecord
  | _ => .error .unusableReply

/-- The page in the reply to a request. -/
def pageOfReply (room : Nat) (target : Target) (request : Outgoing) (reply : Reply) :
    Except Error (List ChangedFile × Nat) := do
  let r ← reply.take request listingUnreachable
  if 400 ≤ r.status then .error (.rejected (refusal target r.status r.headers))
  else pageOf (← bodyValue room r.body)

/-- The request for a page. -/
def pageRequest (settings : Settings) (target : Target) (token : Json) (page : Nat) :
    Except Error Outgoing :=
  let address :=
    s!"{baseAddress settings}/repos/{target.owner}/{target.name}/pulls/{target.number}/files"
  Outgoing.prepare settings .get address (some s!"per_page={pageSize}&page={page}".toList) token

/-- Lists the pages from `page` on, given the replies still to come. Each page uses up a reply, and
without one the service is unreachable (github_service:101-119). -/
def pagesFrom (settings : Settings) (room : Nat) (target : Target) (token : Json) (page : Nat) :
    List Reply → List Outgoing → Except Error (List ChangedFile) × List Reply × List Outgoing
  | [], sent =>
    match pageRequest settings target token page with
    | .error e => (.error e, [], sent)
    | .ok request => (.error (.rejected listingUnreachable), [], sent ++ [request])
  | reply :: replies, sent =>
    match pageRequest settings target token page with
    | .error e => (.error e, reply :: replies, sent)
    | .ok request =>
      match pageOfReply room target request reply with
      | .error e => (.error e, replies, sent ++ [request])
      | .ok (files, size) =>
        if size < pageSize then (.ok files, replies, sent ++ [request])
        else
          let (rest, replies, sent) :=
            pagesFrom settings room target token (page + 1) replies (sent ++ [request])
          (rest.map (files ++ ·), replies, sent)

/-- Lists the changed files of a pull request under a token of the installation (github_service:24-37). -/
def changedFiles (settings : Settings) (around : Surroundings) (now installation : Int) (target : Target)
    (s : Session) : Except Error (List ChangedFile) × Session :=
  match tokenFor settings around now installation s with
  | (.error e, s) => (.error e, s)
  | (.ok token, s) =>
    let (result, replies, sent) := pagesFrom settings around.room target token 1 s.replies s.sent
    (result, { s with replies, sent })

end PullReview.Listing
