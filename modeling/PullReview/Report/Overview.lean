import PullReview.Report.Detail

/-!
# Overview

How many installations, repositories and reviews there are, the reviews by status, and the latest
ones of the past day.

| here | there |
| --- | --- |
| `overview` | `stats` (main:211-222) |
-/

namespace PullReview.Report

structure Overview where
  installations : Nat
  repositories : Nat
  /-- The statuses that occur, each with how many reviews have it. -/
  byStatus : List (ReviewStatus × Nat)
  recent : List Review
  deriving Repr

/-- How far back a review is recent, in seconds. -/
def recentSpan : Int := 86400

/-- How many recent reviews are shown. -/
def recentLimit : Nat := 10

/-- The statuses that occur among some reviews, each with how many have it. -/
def countByStatus (reviews : List Review) : List (ReviewStatus × Nat) :=
  (Named.all.map fun s => (s, reviews.countP (·.status == s))).filter (·.2 != 0)

/-- The overview of the tables at a moment. -/
def Overview.ofTables (t : Tables) (now : Moment) : Overview where
  installations := t.installations.length
  repositories := t.repositories.length
  byStatus := countByStatus t.reviews
  recent := latest recentLimit (t.reviews.filter fun r => now - recentSpan ≤ r.createdAt)

/-- The sum over the statuses. -/
def Overview.total (o : Overview) : Nat := o.byStatus.foldr (fun c sum => c.2 + sum) 0

/-- The overview of the database at a moment (main:214-222). -/
def overview (db : Database) (now : Moment) : Except Failure Overview := do
  db.statement []
  return Overview.ofTables db.tables now

end PullReview.Report
