import PullReview.Intake.Scalar

/-!
# Progress

What a review records about itself at each step of its life. A record names its step; the members
that are null are not written, so what an earlier step recorded under them stays.

| here | there |
| --- | --- |
| `PullRequestSummary` | `QueuedProgress` (schemas:43-53) |
| `Progress` | `ReviewProgress` (schemas:56-103) |
| `Progress.toMembers`, `Progress.written` | `model_dump()`, `model_dump(exclude_none=True)` (review_store:97-271) |
-/

namespace PullReview

/-- What is recorded when a review is queued: the pull request as the delivery described it. -/
structure PullRequestSummary where
  progress : Int := 0
  title : Text := ""
  author : Text := ""
  url : Text := ""
  headSha : Text := ""
  baseSha : Text := ""
  changedFiles : Int := 0
  additions : Int := 0
  deletions : Int := 0
  deriving DecidableEq, Repr

/-- A step of a review's life with what is recorded at it. -/
inductive Progress where
  | queued (record : PullRequestSummary)
  | fetching (progress : Int)
  | analyzing (progress : Int) (filesFound filesAnalyzed : Option Int)
  | ready (progress filesAnalyzed filesToReview : Int)
  | completed (progress filesAnalyzed issuesFound : Int)
  | failed (error : Text)
  | cancelled (reason : Text)
  deriving DecidableEq, Repr

/-- The steps, in the order of a review's life. -/
inductive ProgressStep where
  | queued | fetching | analyzing | ready | completed | failed | cancelled
  deriving DecidableEq, Repr

instance : Named ProgressStep where
  all := [.queued, .fetching, .analyzing, .ready, .completed, .failed, .cancelled]
  name
    | .queued => "queued"
    | .fetching => "fetching_files"
    | .analyzing => "analyzing_files"
    | .ready => "ready_for_further_processing"
    | .completed => "completed"
    | .failed => "failed"
    | .cancelled => "cancelled"

namespace PullRequestSummary

def toMembers (q : PullRequestSummary) : Members :=
  [("step", .str (Named.name ProgressStep.queued)), ("progress", .int q.progress), ("pr_title", .str q.title),
    ("pr_author", .str q.author), ("pr_url", .str q.url), ("head_sha", .str q.headSha),
    ("base_sha", .str q.baseSha), ("changed_files", .int q.changedFiles), ("additions", .int q.additions),
    ("deletions", .int q.deletions)]

/-- Takes the members of a queued record, its step aside. -/
def ofMembers (m : Members) : Checked PullRequestSummary :=
  PullRequestSummary.mk <$> m.optional "progress" 0 Json.asInteger
    <*> m.optional "pr_title" "" Json.asText
    <*> m.optional "pr_author" "" Json.asText
    <*> m.optional "pr_url" "" Json.asText
    <*> m.optional "head_sha" "" Json.asText
    <*> m.optional "base_sha" "" Json.asText
    <*> m.optional "changed_files" 0 Json.asInteger
    <*> m.optional "additions" 0 Json.asInteger
    <*> m.optional "deletions" 0 Json.asInteger

/-- Takes the step of a queued record: absent, or the word for it. -/
def stepOf : Json → Checked ProgressStep
  | .str t => Json.ofPlain t fun s =>
    if s = Named.name ProgressStep.queued then .ok .queued else .fault .notListed
  | _ => .fault .notListed

/-- Takes a queued record. -/
def ofJson : Json → Checked PullRequestSummary :=
  Json.asRecord fun m => (fun _ q => q) <$> m.optional "step" .queued stepOf <*> ofMembers m

end PullRequestSummary

namespace Progress

/-! ## Where each step starts -/

/-- The percentage done when fetching starts. -/
def fetchingStart : Int := 10

/-- The percentage done when analysing starts. -/
def analyzingStart : Int := 30

/-- The percentage done when the last file is analysed. -/
def readyStart : Int := 70

/-- The percentage of a completed review. -/
def allDone : Int := 100

/-- The reason recorded when a pull request is closed. -/
def closedReason : String := "pull_request_closed"

/-! ## Records as members -/

def step : Progress → ProgressStep
  | queued _ => .queued
  | fetching _ => .fetching
  | analyzing .. => .analyzing
  | ready .. => .ready
  | completed .. => .completed
  | failed _ => .failed
  | cancelled _ => .cancelled

/-- All members of a record, its step first. -/
def toMembers (p : Progress) : Members :=
  match p with
  | queued q => q.toMembers
  | fetching progress => [tag, ("progress", .int progress)]
  | analyzing progress found analyzed =>
    [tag, ("progress", .int progress), ("files_found", .ofOption .int found),
      ("files_analyzed", .ofOption .int analyzed)]
  | ready progress analyzed toReview =>
    [tag, ("progress", .int progress), ("files_analyzed", .int analyzed), ("files_to_review", .int toReview)]
  | completed progress analyzed issues =>
    [tag, ("progress", .int progress), ("files_analyzed", .int analyzed), ("issues_found", .int issues)]
  | failed error => [tag, ("error", .str error)]
  | cancelled reason => [tag, ("reason", .str reason)]
where
  /-- The member that names the step. -/
  tag : Text × Json := ("step", .str (Named.name p.step))

/-- What a step writes: the members that are not null. -/
def written (p : Progress) : Members := p.toMembers.withoutNulls

/-- Takes the members of a record whose step is known. -/
def ofMembers (m : Members) : ProgressStep → Checked Progress
  | .queued => queued <$> PullRequestSummary.ofMembers m
  | .fetching => fetching <$> m.optional "progress" fetchingStart Json.asInteger
  | .analyzing =>
    analyzing <$> m.optional "progress" analyzingStart Json.asInteger
      <*> m.optional "files_found" none (Json.asOptional Json.asInteger)
      <*> m.optional "files_analyzed" none (Json.asOptional Json.asInteger)
  | .ready =>
    ready <$> m.optional "progress" readyStart Json.asInteger
      <*> m.optional "files_analyzed" 0 Json.asInteger
      <*> m.optional "files_to_review" 0 Json.asInteger
  | .completed =>
    completed <$> m.optional "progress" allDone Json.asInteger
      <*> m.optional "files_analyzed" 0 Json.asInteger
      <*> m.optional "issues_found" 0 Json.asInteger
  | .failed => failed <$> m.required "error" Json.asText
  | .cancelled => cancelled <$> m.optional "reason" closedReason Json.asText

/-- Takes a record: an object whose step is one of the seven. Refusals of its members are placed
under the step. -/
def ofJson : Json → Checked Progress
  | .obj m =>
    match Members.get? m "step" with
    | none => .fault .noTag
    | some (.str t) =>
      match (Named.ofName? t : Option ProgressStep) with
      | some step => (ofMembers m step).under (.member (Named.name step))
      | none => .fault .unknownTag
    | some _ => .fault .unknownTag
  | _ => .fault .notTagged

end Progress

end PullReview
