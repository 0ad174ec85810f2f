import PullReview.Store.Database

/-!
# Pages of reviews

The reviews, newest first, cut into pages. A page that starts beyond the last review is empty. The
place at which a page starts must fit a column of 64 bits.

| here | there |
| --- | --- |
| `comesBefore` | `order_by(Review.created_at.desc(), Review.id.desc())` (main:173) |
| `page` | `list_reviews` (main:161-178) |
| `reviewCount` | the query of `root` (main:136) |
-/

namespace PullReview.Report

/-- Newer reviews come first, and of two made at one moment the one with the greater id. -/
def comesBefore (a b : Review) : Bool :=
  b.createdAt < a.createdAt || (a.createdAt == b.createdAt && b.id ≤ a.id)

/-- Which reviews are asked for: a page, counted from 1, its size, and a status if only those with it
count. -/
structure Selection where
  page : Nat := 1
  limit : Nat := 20
  status : Option ReviewStatus := none
  deriving DecidableEq, Repr

namespace Selection

/-- Whether a review counts. -/
def admits (s : Selection) (r : Review) : Bool := s.status.elim true (r.status == ·)

/-- The number of reviews before the page. -/
def offset (s : Selection) : Nat := (s.page - 1) * s.limit

end Selection

/-- A page of reviews, and how many there are in all. -/
structure Page where
  reviews : List Review
  total : Nat
  deriving Repr

namespace Page

/-- The number of pages of the given size. -/
def count (p : Page) (limit : Nat) : Nat := (p.total + limit - 1) / limit

/-- The selected page of a list of reviews. -/
def ofReviews (reviews : List Review) (s : Selection) : Page :=
  let chosen := reviews.filter s.admits
  { reviews := ((chosen.mergeSort comesBefore).drop s.offset).take s.limit, total := chosen.length }

end Page

/-- The selected page of the database (main:170-178). -/
def page (db : Database) (s : Selection) : Except Failure Page := do
  db.statement []
  db.statement [.int s.limit, .int s.offset]
  return Page.ofReviews db.tables.reviews s

/-- How many reviews there are. -/
def reviewCount (db : Database) : Except Failure Nat := do
  db.statement []
  return db.tables.reviews.length

end PullReview.Report
