import PullReview.Proofs.Store.Placement
import PullReview.Web.Site

/-!
# Asking for reports

A request asks for a page of the listing, a single review, the latest reviews of a repository or the overview. Which
of them it asks for is said of its path and its parameters, apart from how they are routed and checked (`Asks`). As
long as the database answers, a request that is not over the rate limit is given the report, or told that there is no
such review, unless the start of the page or the id of the review fits no column (`Site.report_answered`).
-/

namespace PullReview.Web

/-! ## Paths -/

namespace Endpoint

theorem segments_append_slash {part : List Char} (h : '/' ∉ part) (rest : List Char) :
    segments (part ++ '/' :: rest) = String.ofList part :: segments rest := by
  rw [segments, Text.splitOn_append_separator h]
  rfl

theorem segments_of_not_mem {part : List Char} (h : '/' ∉ part) : segments part = [String.ofList part] := by
  rw [segments, Text.splitOn_of_not_mem h]
  rfl

theorem ofPath?_home : ofPath? "/".toList = some .home := by decide +kernel

theorem ofPath?_reviews : ofPath? "/api/reviews".toList = some .reviews := by decide +kernel

theorem ofPath?_overview : ofPath? "/api/stats".toList = some .overview := by decide +kernel

theorem ofPath?_review {id : List Char} (hid : id ≠ []) (hslash : '/' ∉ id) :
    ofPath? ("/api/reviews/".toList ++ id) = some (.review (String.ofList id)) := by
  have hsegments : segments ("/api/reviews/".toList ++ id) = ["", "api", "reviews", String.ofList id] := by
    show segments ([] ++ '/' :: ("api".toList ++ '/' :: ("reviews".toList ++ '/' :: id))) = _
    rw [segments_append_slash (by decide), segments_append_slash (by decide), segments_append_slash (by decide),
      segments_of_not_mem hslash]
    rfl
  have hne : String.ofList id ≠ "" := by simpa using hid
  rw [ofPath?, hsegments, ofSegments?, if_neg hne]

theorem ofPath?_repositoryReviews {owner name : List Char} (howner : owner ≠ []) (hname : name ≠ [])
    (hownerSlash : '/' ∉ owner) (hnameSlash : '/' ∉ name) :
    ofPath? ("/api/repos/".toList ++ (owner ++ '/' :: (name ++ "/reviews".toList))) =
      some (.repositoryReviews (String.ofList owner) (String.ofList name)) := by
  have hsegments : segments ("/api/repos/".toList ++ (owner ++ '/' :: (name ++ "/reviews".toList))) =
      ["", "api", "repos", String.ofList owner, String.ofList name, "reviews"] := by
    show segments ([] ++ '/' :: ("api".toList ++ '/' :: ("repos".toList ++ '/' ::
      (owner ++ '/' :: (name ++ '/' :: "reviews".toList))))) = _
    rw [segments_append_slash (by decide), segments_append_slash (by decide), segments_append_slash (by decide),
      segments_append_slash hownerSlash, segments_append_slash hnameSlash, segments_of_not_mem (by decide)]
    rfl
  have hne : ¬ (String.ofList owner = "" ∨ String.ofList name = "") := by simpa using ⟨howner, hname⟩
  rw [ofPath?, hsegments, ofSegments?, if_neg hne]

end Endpoint

/-! ## Parameters -/

/-- What a query gives for an integer parameter: the integer that its text is taken for, or the default where the
parameter is absent. -/
inductive IsGiven (query : List Char) (name : String) (default : Int) : Int → Prop
  | absent (h : valueOf? query name = none) : IsGiven query name default default
  | present {text : String} {i : Int} (h : valueOf? query name = some text) (hi : Json.integerOfText text = .ok i) :
    IsGiven query name default i

/-- Whether a query asks for a selection: a page of at least 1, the first unless it says otherwise, of 1 to 100
reviews, 20 unless it says otherwise, and the name of a status or none. -/
structure Selects (query : List Char) (s : Report.Selection) : Prop where
  page : IsGiven query "page" 1 s.page
  limit : IsGiven query "limit" 20 s.limit
  status : valueOf? query "status" = s.status.map Named.name
  one_le_page : 1 ≤ s.page
  one_le_limit : 1 ≤ s.limit
  limit_le : s.limit ≤ 100

variable {query : List Char} {name : String} {i : Int} {s : Report.Selection}

theorem Selects.fits_limit (h : Selects query s) : fitsColumn s.limit = true := by
  have hle := h.limit_le
  simp only [fitsColumn, Bool.and_eq_true, decide_eq_true_eq]
  omega

theorem integerBetween_eq_ok {low : Int} {high : Option Int} {text : String} :
    integerBetween low high text = .ok i ↔ Json.integerOfText text = .ok i ∧ low ≤ i ∧ ∀ h ∈ high, i ≤ h := by
  have hwithin (j : Int) : (if j < low then Checked.fault .tooSmall
      else if high.any (· < j) then Checked.fault .tooLarge else Checked.ok j) = .ok i ↔
        j = i ∧ low ≤ i ∧ ∀ h ∈ high, i ≤ h := by
    by_cases hlow : j < low
    · simp only [hlow, if_true, Checked.fault, reduceCtorEq, false_iff]
      omega
    · cases high with
      | none =>
        simp [hlow]
        omega
      | some h =>
        by_cases hhigh : h < j <;> simp [hlow, hhigh, Checked.fault] <;> omega
  rw [integerBetween, Checked.andThen_eq_ok]
  constructor
  · rintro ⟨j, hj, h⟩
    obtain ⟨rfl, hbounds⟩ := (hwithin j).1 h
    exact ⟨hj, hbounds⟩
  · rintro ⟨htext, hbounds⟩
    exact ⟨i, htext, (hwithin i).2 ⟨rfl, hbounds⟩⟩

/-- The default is taken only where it is within the bounds. -/
theorem parameterOr_integer_eq_ok {low default : Int} {high : Option Int} (hlow : low ≤ default)
    (hhigh : ∀ h ∈ high, default ≤ h) :
    parameterOr query name default (integerBetween low high) = .ok i ↔
      IsGiven query name default i ∧ low ≤ i ∧ ∀ h ∈ high, i ≤ h := by
  unfold parameterOr
  cases hvalue : valueOf? query name with
  | none =>
    constructor
    · rintro ⟨⟩
      exact ⟨.absent hvalue, hlow, hhigh⟩
    · rintro ⟨hgiven, -⟩
      cases hgiven with
      | absent => rfl
      | present h => cases hvalue.symm.trans h
  | some text =>
    simp only [Checked.under_eq_ok, integerBetween_eq_ok]
    refine and_congr_left fun _ => ⟨.present hvalue, fun hgiven => ?_⟩
    cases hgiven with
    | absent h => cases hvalue.symm.trans h
    | present h hi =>
      cases hvalue.symm.trans h
      exact hi

theorem asNamed_status_eq_ok {text : String} {status : ReviewStatus} :
    Json.asNamed (.str text) = .ok status ↔ Named.name status = text := by
  rw [← Text.ofString_inj, ← ReviewStatus.ofName?_eq_some_iff, Json.asNamed]
  rw [Json.ofPlain_ofString]
  cases (Named.ofName? text : Option ReviewStatus) <;> simp [Checked.fault]

theorem parameterOr_status_eq_ok {status : Option ReviewStatus} :
    parameterOr query "status" none (fun text => some <$> Json.asNamed (.str text)) = .ok status ↔
      valueOf? query "status" = status.map Named.name := by
  unfold parameterOr
  cases valueOf? query "status" with
  | none => cases status <;> simp
  | some text =>
    simp only [Checked.under_eq_ok, Checked.map_eq_ok, asNamed_status_eq_ok]
    cases status with
    | none => simp
    | some s => simp [eq_comm]

/-- A query is accepted exactly if it asks for a selection. -/
theorem selection_eq_ok_iff : selection query = .ok s ↔ Selects query s := by
  have hpage (p : Int) : parameterOr query "page" 1 (integerBetween 1 none) = .ok p ↔ _ :=
    parameterOr_integer_eq_ok (Int.le_refl 1) nofun
  have hlimit (l : Int) : parameterOr query "limit" 20 (integerBetween 1 (some 100)) = .ok l ↔ _ :=
    parameterOr_integer_eq_ok (by decide) (by simp)
  simp only [selection, Checked.seq_eq_ok, Checked.map_eq_ok, hpage, hlimit, parameterOr_status_eq_ok]
  constructor
  · rintro ⟨_, ⟨_, ⟨p, ⟨hp, hp1, -⟩, rfl⟩, l, ⟨hl, hl1, hl100⟩, rfl⟩, status, hs, rfl⟩
    have hl100 := hl100 100 rfl
    refine ⟨?_, ?_, hs, ?_, ?_, ?_⟩
    · rwa [Int.toNat_of_nonneg (by omega)]
    · rwa [Int.toNat_of_nonneg (by omega)]
    all_goals
      dsimp only
      omega
  · rintro ⟨hp, hl, hs, hp1, hl1, hl100⟩
    refine ⟨_, ⟨_, ⟨s.page, ⟨hp, by omega, nofun⟩, rfl⟩, s.limit, ⟨hl, by omega, ?_⟩, rfl⟩, s.status, hs, ?_⟩
    · rintro _ ⟨⟩
      omega
    · simp only [Int.toNat_natCast]

/-! ## Requests -/

/-- What a request for a report asks for. -/
inductive Wanted where
  | page (s : Report.Selection)
  | review (id : Int)
  | repositoryReviews (owner name : List Char)
  | overview

/-- Whether a request asks for a report: by its path, which names no two things by one segment, and its parameters. -/
inductive Asks (i : Incoming) : Wanted → Prop
  | page {s : Report.Selection} (hpath : i.path = "/api/reviews".toList) (hs : Selects i.query s) : Asks i (.page s)
  | review {text : List Char} {id : Int} (hpath : i.path = "/api/reviews/".toList ++ text) (hslash : '/' ∉ text)
      (hid : Json.integerOfText (String.ofList text) = .ok id) : Asks i (.review id)
  | repositoryReviews {owner name : List Char}
      (hpath : i.path = "/api/repos/".toList ++ (owner ++ '/' :: (name ++ "/reviews".toList)))
      (howner : owner ≠ []) (hname : name ≠ []) (hownerSlash : '/' ∉ owner) (hnameSlash : '/' ∉ name) :
      Asks i (.repositoryReviews owner name)
  | overview (hpath : i.path = "/api/stats".toList) : Asks i .overview

namespace Wanted

/-- Whether the number that the report is looked up by fits a column. -/
def fits : Wanted → Bool
  | page s => fitsColumn s.offset
  | review id => fitsColumn id
  | repositoryReviews .. | overview => true

/-- The report on the tables at a moment. -/
def answer (t : Tables) (now : Moment) : Wanted → Answer
  | page s => .ofJson 200 ((Report.Page.ofReviews t.reviews s).toJson s)
  | review id => Site.detailAnswer (Report.Detail.ofTables? t id)
  | repositoryReviews owner name =>
    .ofJson 200 (Report.reviewsJson (Report.latest Report.repositoryLimit
      (t.reviews.filter (·.repository == s!"{String.ofList owner}/{String.ofList name}"))))
  | overview => .ofJson 200 (Report.Overview.ofTables t now).toJson

/-- The status that the answer is due: there may be no review with the id that is asked for. -/
def dueStatus (t : Tables) : Wanted → Nat
  | review id => if ∃ r ∈ t.reviews, r.id = id then 200 else 404
  | page _ | repositoryReviews .. | overview => 200

theorem dueStatus_cases (t : Tables) (w : Wanted) : w.dueStatus t = 200 ∨ w.dueStatus t = 404 := by
  cases w with
  | page | repositoryReviews | overview => exact .inl rfl
  | review id =>
    by_cases hr : ∃ r ∈ t.reviews, r.id = id
    · exact .inl (if_pos hr)
    · exact .inr (if_neg hr)

theorem status_answer (t : Tables) (now : Moment) (w : Wanted) : (w.answer t now).status = w.dueStatus t := by
  cases w with
  | page | repositoryReviews | overview => rfl
  | review id =>
    simp only [answer, dueStatus, Report.Detail.ofTables?, Tables.review?]
    cases hfind : t.reviews.find? (·.id == id) with
    | none =>
      have hno : ¬ ∃ r ∈ t.reviews, r.id = id := by simpa using hfind
      rw [if_neg hno]
      rfl
    | some r =>
      have hr : ∃ r ∈ t.reviews, r.id = id :=
        ⟨r, List.mem_of_find?_eq_some hfind, by simpa using List.find?_some hfind⟩
      rw [if_pos hr]
      rfl

end Wanted

end PullReview.Web

namespace PullReview.Report

variable {db : Database}

/-! ## Looking up -/

theorem page_eq_ite (h : db.Available) {s : Selection} (hlimit : fitsColumn s.limit = true) :
    page db s =
      if fitsColumn s.offset = true then .ok (Page.ofReviews db.tables.reviews s) else .error .integerRange := by
  rw [page, h.statement_ok rfl]
  by_cases hoffset : fitsColumn s.offset = true
  · rw [if_pos hoffset, h.statement_ok (by simp [Param.fault?_eq_none_iff, hlimit, hoffset])]
    rfl
  · rw [if_neg hoffset, h.statement_error (by simp [Param.fault?, Param.failure?, hlimit, hoffset]; rfl)]
    rfl

theorem detail_eq_ite (h : db.Available) (id : Int) :
    detail db id = if fitsColumn id = true then .ok (Detail.ofTables? db.tables id) else .error .integerRange := by
  rw [detail, h.statement_int]
  by_cases hid : fitsColumn id = true <;> simp [hid]

theorem ofRepository_eq (h : db.Available) (fullName : String) :
    ofRepository db fullName = .ok (latest repositoryLimit (db.tables.reviews.filter (·.repository == fullName))) := by
  rw [ofRepository, h.statement_ok rfl]
  rfl

theorem overview_eq (h : db.Available) (now : Moment) : overview db now = .ok (Overview.ofTables db.tables now) := by
  rw [overview, h.statement_ok rfl]
  rfl

theorem reviewCount_eq (h : db.Available) : reviewCount db = .ok db.tables.reviews.length := by
  rw [reviewCount, h.statement_ok rfl]
  rfl

end PullReview.Report

namespace PullReview.Web

namespace Site

variable {site : Site} {service : Service} {i : Incoming} {w : Wanted}

/-- What becomes of a request for a report whose parameters are accepted, and of the site: it only counts the
request. -/
theorem respond_of_report (fetch : Fetcher) {e : Endpoint} {result : Except Failure Answer} (hmethod : i.method = "GET")
    (hpath : Endpoint.ofPath? i.path = some e) (hreport : report? site.service i.query e = some (.ok result)) :
    site.respond fetch i =
      (site.finish i
        (if site.admits i = true then result.mapError .failure >>= Answer.encoded else .ok .tooManyRequests),
      site.counted i) := by
  have he : e.method = "GET" ∧ e ≠ .home ∧ e ≠ .health := by
    cases e with
    | home | health | webhook => cases hreport
    | _ => exact ⟨rfl, nofun, nofun⟩
  have hanswer : site.atEndpoint fetch i e = site.limited i (.ok result) := by
    unfold atEndpoint
    rw [hreport]
  rw [respond_of_path fetch hpath (hmethod.trans he.1.symm) he.2.1 he.2.2, hanswer]
  rfl

/-- A request for a report is routed to it and its parameters are accepted, and then the report is looked up. -/
theorem exists_report (h : Asks i w) (hdb : service.database.Available) :
    ∃ e, Endpoint.ofPath? i.path = some e ∧
      report? service i.query e = some (.ok
        (if w.fits = true then .ok (w.answer service.database.tables service.now) else .error .integerRange)) := by
  cases h with
  | @page s hpath hs =>
    refine ⟨.reviews, hpath ▸ Endpoint.ofPath?_reviews, ?_⟩
    rw [report?, selection_eq_ok_iff.2 hs, Checked.map, Report.page_eq_ite hdb hs.fits_limit, Wanted.fits]
    by_cases hfits : fitsColumn s.offset = true <;> simp only [hfits] <;> rfl
  | @review text id hpath hslash hid =>
    have hne : text ≠ [] := by
      rintro rfl
      cases hid
    refine ⟨.review (String.ofList text), hpath ▸ Endpoint.ofPath?_review hne hslash, ?_⟩
    rw [report?, reviewId, hid, Wanted.fits]
    simp only [Checked.under, Checked.map, Report.detail_eq_ite hdb]
    by_cases hfits : fitsColumn id = true <;> simp only [hfits] <;> rfl
  | @repositoryReviews owner name hpath howner hname hownerSlash hnameSlash =>
    refine ⟨.repositoryReviews (String.ofList owner) (String.ofList name),
      hpath ▸ Endpoint.ofPath?_repositoryReviews howner hname hownerSlash hnameSlash, ?_⟩
    rw [report?, Report.ofRepository_eq hdb]
    rfl
  | overview hpath =>
    refine ⟨.overview, hpath ▸ Endpoint.ofPath?_overview, ?_⟩
    rw [report?, Report.overview_eq hdb]
    rfl

/-- What a request for a report is answered with, as long as the database answers. -/
theorem respond_of_asks (fetch : Fetcher) (hmethod : i.method = "GET") (h : Asks i w)
    (hdb : site.service.database.Available) :
    site.respond fetch i =
      (site.finish i
        (if site.admits i = true then
          if w.fits = true then (w.answer site.service.database.tables site.service.now).encoded
          else .error (.failure .integerRange)
        else .ok .tooManyRequests),
      site.counted i) := by
  obtain ⟨e, hpath, hreport⟩ := exists_report h hdb
  rw [respond_of_report fetch hmethod hpath hreport]
  by_cases hfits : w.fits = true <;> simp only [hfits] <;> rfl

/-- **Reports are answered.** While the database answers, every request for a report that comes within the rate limit is
answered with 200, or with 404 if it asks for a review that is not there, exactly if the start of its page or the id
of its review fits a column and no text of the report has surrogates; otherwise it crashes. Over the rate limit it is
answered with 429. Nothing is changed by it but the requests counted. -/
theorem report_answered (site : Site) (fetch : Fetcher) {i : Incoming} {w : Wanted}
    (hdb : site.service.database.Available) (hmethod : i.method = "GET") (h : Asks i w) :
    (site.respond fetch i).2.service = site.service ∧
      (site.admits i = false → (site.respond fetch i).1.status = 429) ∧
      (site.admits i = true →
        ((site.respond fetch i).1.status = w.dueStatus site.service.database.tables ↔
            w.fits = true ∧ (w.answer site.service.database.tables site.service.now).body.isPlain = true) ∧
          ((site.respond fetch i).1.status = 500 ↔
            w.fits = false ∨ (w.answer site.service.database.tables site.service.now).body.isPlain = false)) := by
  rw [respond_of_asks fetch hmethod h hdb]
  refine ⟨rfl, fun hover => ?_, fun hadmits => ?_⟩
  · rw [hover]
    rfl
  · rw [if_pos hadmits]
    have hdue := w.status_answer site.service.database.tables site.service.now
    have hne : w.dueStatus site.service.database.tables ≠ 500 := by
      rcases w.dueStatus_cases site.service.database.tables with h | h <;> rw [h] <;> decide
    cases hfits : w.fits with
    | false => simp [finish, Answer.crashed, hne.symm]
    | true =>
      simp only [if_true, Answer.encoded]
      cases (w.answer site.service.database.tables site.service.now).body.isPlain with
      | false => simp [finish, Answer.crashed, hne.symm]
      | true => simp [finish, hdue, hne]

/-- A new site with a service. -/
def serving (service : Service) : Site := { service, limiter := fixedWindow, room := 1000 }

/-- A site where one review has been queued. -/
def queuedOnce : Site :=
  serving { now := 101, database := ((StoreCall.queue 12 "acme/widgets" 77 {}).perform 100 {}).2 }

/-- A request for a path with a query. -/
def asking (path query : String) : Incoming where
  method := "GET"
  address := { path := path.toList, query := some query.toList }
  headers := []
  body := []

theorem report_answered_queuedOnce :
    queuedOnce.service.database.Available ∧ (asking "/api/reviews/1" "").method = "GET" ∧
      Asks (asking "/api/reviews/1" "") (.review 1) ∧ queuedOnce.admits (asking "/api/reviews/1" "") = true ∧
      ((Wanted.review 1).fits = true ∧
        ((Wanted.review 1).answer queuedOnce.service.database.tables queuedOnce.service.now).body.isPlain = true) ∧
      (queuedOnce.respond (fun _ _ _ _ => .ok []) (asking "/api/reviews/1" "")).1.status = 200 := by
  have hdb : queuedOnce.service.database.Available := ⟨rfl, rfl⟩
  have hpath : (asking "/api/reviews/1" "").path = "/api/reviews/".toList ++ "1".toList := by decide +kernel
  have hid : Json.integerOfText (String.ofList "1".toList) = .ok 1 := by decide +kernel
  have hasks : Asks (asking "/api/reviews/1" "") (.review 1) := .review hpath (by decide) hid
  have hadmits : queuedOnce.admits (asking "/api/reviews/1" "") = true := by decide +kernel
  obtain ⟨-, -, hanswered⟩ := report_answered queuedOnce (fun _ _ _ _ => .ok []) hdb rfl hasks
  have hdue : (Wanted.review 1).dueStatus queuedOnce.service.database.tables = 200 := by decide +kernel
  have hgiven : (Wanted.review 1).fits = true ∧
      ((Wanted.review 1).answer queuedOnce.service.database.tables queuedOnce.service.now).body.isPlain = true :=
    ⟨by decide, by decide +kernel⟩
  exact ⟨hdb, rfl, hasks, hadmits, hgiven, hdue ▸ (hanswered hadmits).1.2 hgiven⟩

/-- A review with an id beyond 64 bits, and a page that starts there. -/
def askingHugeId : Incoming := asking "/api/reviews/9223372036854775808" ""

def askingHugePage : Incoming := asking "/api/reviews" "page=461168601842738791&limit=21"

theorem askingHugeId_asks : Asks askingHugeId (.review 9223372036854775808) := by
  have hpath : askingHugeId.path = "/api/reviews/".toList ++ "9223372036854775808".toList := by decide +kernel
  have hid : Json.integerOfText (String.ofList "9223372036854775808".toList) = .ok 9223372036854775808 := by
    decide +kernel
  exact .review hpath (by decide) hid

theorem askingHugePage_asks : Asks askingHugePage (.page ⟨461168601842738791, 21, none⟩) := by
  have hpath : askingHugePage.path = "/api/reviews".toList := by decide +kernel
  have hselected : selection askingHugePage.query = .ok ⟨461168601842738791, 21, none⟩ := by decide +kernel
  exact .page hpath (selection_eq_ok_iff.1 hselected)

/-- A site where nothing has been delivered crashes on both, where there is no such review and no review on the page. -/
theorem hugeNumbers_crash :
    let site : Site := serving { now := 0 }
    site.service.database.Available ∧
      (Asks askingHugeId (.review 9223372036854775808) ∧ site.admits askingHugeId = true ∧
        (Wanted.review 9223372036854775808).dueStatus site.service.database.tables = 404 ∧
        (site.respond (fun _ _ _ _ => .ok []) askingHugeId).1.status = 500) ∧
      Asks askingHugePage (.page ⟨461168601842738791, 21, none⟩) ∧ site.admits askingHugePage = true ∧
        (Wanted.page ⟨461168601842738791, 21, none⟩).dueStatus site.service.database.tables = 200 ∧
        (site.respond (fun _ _ _ _ => .ok []) askingHugePage).1.status = 500 :=
  ⟨⟨rfl, rfl⟩, ⟨askingHugeId_asks, by decide +kernel, by decide +kernel, by decide +kernel⟩, askingHugePage_asks,
    by decide +kernel, by decide +kernel, by decide +kernel⟩

end Site

end PullReview.Web
