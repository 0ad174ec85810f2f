import PullReview.Json.Plain
import PullReview.Report.Page
import PullReview.Report.Overview

/-!
# Reports as JSON

How reviews, pages, single reviews and the overview are written. Moments are written without a zone.

| here | there |
| --- | --- |
| `reviewMembers` | `ReviewOut` (schemas:106-116) |
| `commentJson`, `fileChangeJson` | `ReviewCommentOut`, `FileChangeOut` (schemas:119-143) |
| `Detail.toJson` | `ReviewDetail` (schemas:146-150) |
| `Page.toJson` | `Pagination`, `ReviewListResponse` (schemas:153-162) |
| `activityJson`, `Overview.toJson` | `RecentActivity`, `StatsResponse` (schemas:165-179) |
-/

namespace PullReview.Report

def momentJson (t : Moment) : Json := .str t.text

/-- A review in a list. -/
def reviewMembers (r : Review) : Members :=
  [("id", .int r.id), ("pr_number", .int r.number), ("repo_full_name", .str r.repository),
    ("installation_id", .int r.installation), ("status", .str (Named.name r.status)),
    ("review_data", .obj (Json.joinedMembers r.data)), ("created_at", momentJson r.createdAt),
    ("completed_at", .ofOption momentJson r.completedAt)]

def reviewsJson (reviews : List Review) : Json := .arr (reviews.map fun r => .obj (reviewMembers r))

def Page.toJson (p : Page) (s : Selection) : Json :=
  .obj [("reviews", reviewsJson p.reviews),
    ("pagination", .obj [("page", .int s.page), ("limit", .int s.limit), ("total", .int p.total),
      ("pages", .int (p.count s.limit))])]

def commentJson (c : Comment) : Json :=
  .obj [("id", .int c.id), ("filename", .str c.filename), ("line_number", .int c.line),
    ("severity", .str (Named.name c.severity)), ("issue_type", .str (Named.name c.category)),
    ("message", .str c.message), ("suggestion", .text? c.suggestion), ("rule", .text? c.rule)]

def fileChangeJson (f : FileChange) : Json :=
  .obj [("id", .int f.id), ("filename", .str f.filename), ("status", .str f.status),
    ("language", .str f.language), ("additions", .int f.additions), ("deletions", .int f.deletions),
    ("analyzed", .bool true), ("should_review", .bool f.inScope),
    ("complexity_score", .int f.complexity)]

def Detail.toJson (d : Detail) : Json :=
  .obj (reviewMembers d.review ++ ([("account_login", .text? (d.installation.map (·.login))),
      ("account_type", .text? (d.installation.map (·.kind))),
      ("comments", .arr (d.comments.map commentJson)),
      ("file_changes", .arr (d.fileChanges.map fileChangeJson))] : Members))

/-- A review as recent activity. -/
def activityJson (r : Review) : Json :=
  .obj [("id", .int r.id), ("pr_number", .int r.number), ("repo_full_name", .str r.repository),
    ("status", .str (Named.name r.status)), ("created_at", momentJson r.createdAt)]

def Overview.toJson (o : Overview) : Json :=
  .obj [("installations", .int o.installations), ("repositories", .int o.repositories),
    ("reviews", .obj (("total", .int o.total) :: o.byStatus.map fun c => (Named.name c.1, .int c.2))),
    ("recent_activity", .arr (o.recent.map activityJson))]

end PullReview.Report
