import PullReview.Web.Route
import PullReview.Web.RateLimit
import PullReview.Web.Origin
import PullReview.Web.Query
import PullReview.Web.Webhook
import PullReview.Report.Written
import PullReview.Run.Handler
import PullReview.Run.Service
import PullReview.Settings

/-!
# The site

A site is a service with its settings and the hits that its rate limit has counted. It answers a request and goes
on to what the request has set off, so the site after a request includes the handling of an accepted
delivery. A report is counted once its parameters are accepted, the home page and the health report before anything
else; nothing else is limited in rate.

Left out are the pages of documentation that the framework adds, `OPTIONS` requests and the headers on methods and
credentials, and all that is only logged.

| here | there |
| --- | --- |
| `Site` | the application of `create_app` (main:57-86) |
| `home`, `health` | `root`, `health` (main:133-158) |
| `Site.deliver` | `github_webhook` and its background task (main:89-130) |
| `Site.limited` | a report under `@limiter.limit(settings.rate_limit)` (main:161-222) |
| `Site.respond` | the application on one request, its background task done |
-/

namespace PullReview.Web

structure Site where
  settings : Settings := {}
  service : Service
  /-- What decides on the rate of requests. -/
  limiter : Limiter
  /-- How many arrays and objects the body of a delivery may nest. -/
  room : Nat
  /-- The requests counted so far. -/
  hits : List Hit := []

namespace Site

/-- The answer of the home page, which counts the reviews (main:133-144). -/
def home (service : Service) : Answer :=
  match Report.reviewCount service.database with
  | .ok total =>
    .ofJson 200 (.obj [("status", .str "PR review service is running"),
      ("timestamp", .str service.now.zonedText), ("total_reviews", .int total)])
  | .error _ => .ofCode 503 "Database unavailable" "db_unavailable"

/-- Whether the database answers (main:147-158). -/
def health (service : Service) : Answer :=
  let report (status : Nat) (word database : String) : Answer :=
    .ofJson status (.obj [("status", .str word), ("database", .str database),
      ("timestamp", .str service.now.zonedText)])
  match service.database.connection with
  | .ok () => report 200 "healthy" "connected"
  | .error _ => report 503 "unhealthy" "disconnected"

/-- The answer with a single review, or that there is none. -/
def detailAnswer : Option Report.Detail → Answer
  | some d => .ofJson 200 d.toJson
  | none => .ofCode 404 "Review not found" "review_not_found"

/-- The id of a review in a path. -/
def reviewId (s : String) : Checked Int :=
  ((Json.integerOfText s).under (.member "review_id")).under (.member "path")

/-- The report of an endpoint, if it is one that gives reports. -/
def report? (service : Service) (query : List Char) :
    Endpoint → Option (Checked (Except Failure Answer))
  | .reviews => some ((selection query).map fun s => do
      return .ofJson 200 ((← Report.page service.database s).toJson s))
  | .review id => some ((reviewId id).map fun id => do
      return detailAnswer (← Report.detail service.database id))
  | .repositoryReviews owner name => some (.ok do
      return .ofJson 200 (Report.reviewsJson (← Report.ofRepository service.database s!"{owner}/{name}")))
  | .overview => some (.ok do
      return .ofJson 200 (← Report.overview service.database service.now).toJson)
  | .home | .health | .webhook => none

/-- The hit of a request. -/
def hitOf (site : Site) (i : Incoming) : Hit := ⟨i.countedClient, i.path, site.service.now⟩

/-- Whether the rate limit admits a request. -/
def admits (site : Site) (i : Incoming) : Bool :=
  site.limiter site.settings.rateLimit site.hits (site.hitOf i)

/-- The site after it has counted a request. -/
def counted (site : Site) (i : Incoming) : Site := { site with hits := site.hits ++ [site.hitOf i] }

/-- Answers with a report within the rate limit. Reports alone hold texts from outside, so they alone may fail to
encode. -/
def limited (site : Site) (i : Incoming) :
    Checked (Except Failure Answer) → Except Crash Answer × Site
  | .refused refusals => (.ok (.ofRefusals refusals), site)
  | .ok result =>
    (if site.admits i then result.mapError .failure >>= Answer.encoded else .ok .tooManyRequests, site.counted i)

/-- Answers a delivery; an accepted one is then handled by a worker, whatever comes of it (main:128-130). -/
def deliver (site : Site) (fetch : Fetcher) (i : Incoming) : Except Crash Answer × Site :=
  match Delivery.ofIncoming site.room site.settings.webhookSecret i with
  | .settled answer => (.ok answer, site)
  | .crashed crash => (.error crash, site)
  | .accepted event =>
    (.ok (Delivery.acceptance event), { site with service := (event.process.run fetch 0 site.service).2 })

/-- Answers a request at an endpoint. -/
def atEndpoint (site : Site) (fetch : Fetcher) (i : Incoming) (e : Endpoint) :
    Except Crash Answer × Site :=
  match report? site.service i.query e, e with
  | some report, _ => site.limited i report
  | none, .home => (.ok (home site.service), site)
  | none, .health => (.ok (health site.service), site)
  | none, _ => site.deliver fetch i

/-- Answers a request, or crashes. -/
def handle (site : Site) (fetch : Fetcher) (i : Incoming) : Except Crash Answer × Site :=
  match Endpoint.ofPath? i.path with
  | none => (.ok (unrouted i), site)
  | some e => if i.method = e.method then site.atEndpoint fetch i e else (.ok .methodNotAllowed, site)

/-- The answer that is sent. The origin of the request is named in it if the origin is allowed; a
crash names none. -/
def finish (site : Site) (i : Incoming) : Except Crash Answer → Answer
  | .error _ => .crashed
  | .ok answer =>
    { answer with allowOrigin := (i.header? "origin").filter (allowsOrigin site.settings.corsOrigins) }

/-- Answers a request that has come through to the endpoints. -/
def serve (site : Site) (fetch : Fetcher) (i : Incoming) : Answer × Site :=
  let (result, after) := site.handle fetch i
  (site.finish i result, after)

/-- Whether a request is counted before anything else: one for the home page or the health report. -/
def isCountedFirst (i : Incoming) : Bool :=
  match Endpoint.ofPath? i.path with
  | some .home => i.method == Endpoint.home.method
  | some .health => i.method == Endpoint.health.method
  | _ => false

/-- Answers a request: the answer that is sent, and the site after all that the request has set
off. A request that is turned away at once is not told which origins are allowed. -/
def respond (site : Site) (fetch : Fetcher) (i : Incoming) : Answer × Site :=
  if isCountedFirst i then
    if site.admits i then (site.counted i).serve fetch i else (.tooManyRequests, site.counted i)
  else site.serve fetch i

/-- A request for an endpoint by its method is answered there. -/
theorem serve_of_path {site : Site} {i : Incoming} {e : Endpoint} (fetch : Fetcher)
    (hpath : Endpoint.ofPath? i.path = some e) (hmethod : i.method = e.method) :
    site.serve fetch i = (site.finish i (site.atEndpoint fetch i e).1, (site.atEndpoint fetch i e).2) := by
  have hhandle : site.handle fetch i = site.atEndpoint fetch i e := by
    unfold handle
    rw [hpath]
    exact if_pos hmethod
  rw [serve, hhandle]

/-- A request that is not counted first is served. -/
theorem respond_of_path {site : Site} {i : Incoming} {e : Endpoint} (fetch : Fetcher)
    (hpath : Endpoint.ofPath? i.path = some e) (hmethod : i.method = e.method) (hhome : e ≠ .home)
    (hhealth : e ≠ .health) :
    site.respond fetch i = (site.finish i (site.atEndpoint fetch i e).1, (site.atEndpoint fetch i e).2) := by
  have hfirst : isCountedFirst i = false := by
    unfold isCountedFirst
    rw [hpath]
    cases e <;> first | rfl | contradiction
  rw [respond, hfirst, ← serve_of_path fetch hpath hmethod]
  rfl

/-- Answers a request for a sender who takes a referral only if it could be asked for in turn. -/
def visit (site : Site) (fetch : Fetcher) (i : Incoming) : Except Undelivered (Answer × Site) :=
  let (answer, after) := site.respond fetch i
  match answer.location with
  | none => .ok (answer, after)
  | some location =>
    match i.address.checkReferral location.toList with
    | .ok () => .ok (answer, after)
    | .error .unreadable => .error .unreadableReferral
    | .error .unusable => .error .unusableAddress
    | .error .unsendable => .error .unusableHeader
    | .error (.badHost fault) => .error (.badHost fault)

end Site

end PullReview.Web
