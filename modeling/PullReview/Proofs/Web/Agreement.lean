import PullReview.Proofs.Report.Tally

/-!
# Reports that agree

The overview, the pages of the listing, the latest reviews of a repository and the home page come out of queries that
know nothing of one another. Read from one database, by any requests, in any order and at any moments, they agree: one
listing of the reviews and one list of counts explain them all (`reports_agree`).
-/

namespace PullReview

/-- The value under some keys, each within the object under the one before. -/
def Json.at? : List String → Json → Option Json
  | [], value => some value
  | key :: keys, .obj members => (Members.get? members key).bind (at? keys)
  | _ :: _, _ => none

namespace Web

/-- The value under some keys of the body. -/
def Answer.says? (answer : Answer) (keys : List String) : Option Json :=
  match answer.body with
  | .json value => value.at? keys
  | .text _ => none

namespace Site

variable {db : Database} {site : Site} {i : Incoming} {w : Wanted}

/-- A request for a report reads it from a database: the site has that database, the request is neither over the rate
limit nor for a page that starts beyond all columns, and no text of the report has surrogates. -/
structure Reads (db : Database) (site : Site) (i : Incoming) (w : Wanted) : Prop where
  database : site.service.database = db
  method : i.method = "GET"
  asks : Asks i w
  admitted : site.admits i = true
  fits : w.fits = true
  plain : (w.answer db.tables site.service.now).body.isPlain = true

theorem Reads.says?_eq (h : Reads db site i w) (hdb : db.Available) (fetch : Fetcher) (keys : List String) :
    (site.respond fetch i).1.says? keys = (w.answer db.tables site.service.now).says? keys := by
  obtain ⟨rfl, hmethod, hasks, hadmitted, hfits, hplain⟩ := h
  rw [respond_of_asks fetch hmethod hasks hdb, if_pos hadmitted, if_pos hfits, Answer.encoded, if_pos hplain]
  rfl

/-- A request for the home page of a site with a database, within the rate limit. -/
structure ReadsHome (db : Database) (site : Site) (i : Incoming) : Prop where
  database : site.service.database = db
  method : i.method = "GET"
  path : i.path = "/".toList
  admitted : site.admits i = true

theorem ReadsHome.says?_eq (h : ReadsHome db site i) (hdb : db.Available) (fetch : Fetcher) :
    (site.respond fetch i).1.says? ["total_reviews"] = some (.int db.tables.reviews.length) := by
  obtain ⟨rfl, hmethod, hpath, hadmitted⟩ := h
  have hroute : Endpoint.ofPath? i.path = some .home := hpath ▸ Endpoint.ofPath?_home
  have hfirst : isCountedFirst i = true := by
    simp [isCountedFirst, hroute, hmethod, Endpoint.method]
  have hanswer : (site.counted i).atEndpoint fetch i .home = (.ok (home site.service), site.counted i) := rfl
  rw [respond, if_pos hfirst, if_pos hadmitted, serve_of_path fetch hroute hmethod, hanswer, home,
    Report.reviewCount_eq hdb]
  rfl

end Site

end Web

/-! ## Counts -/

namespace Report

/-- The counts under the names of the statuses, after their sum. -/
def countsJson (counts : List (ReviewStatus × Nat)) : Members :=
  ("total", .int (totalOf counts)) :: counts.map fun c => (Named.name c.1, .int c.2)

/-- No status is called a total. -/
theorem nodup_keys (reviews : List Review) : ((countsJson (countByStatus reviews)).map (·.1)).Nodup := by
  have hkeys : (countsJson (countByStatus reviews)).map (·.1) =
      ("total" : Text) :: ((countByStatus reviews).map (·.1)).map fun s => (Named.name s : Text) := by
    simp only [countsJson, List.map_cons, List.map_map]
    rfl
  have htotal : ∀ s : ReviewStatus, (Named.name s : Text) ≠ "total" := by
    intro s
    cases s <;> decide
  rw [hkeys, List.nodup_cons]
  refine ⟨?_, (nodup_statuses reviews).map_on fun s _ t _ => ReviewStatus.eq_of_name_eq⟩
  rw [List.mem_map]
  rintro ⟨s, -, hs⟩
  exact htotal s hs

/-! ## Reports without surrogates -/

variable {t : Tables}

theorem all_isPlain_latest (h : ∀ r ∈ t.reviews, isPlain r = true) (count : Nat) (shown : Review → Bool) :
    (latest count (t.reviews.filter shown)).all isPlain = true := by
  refine List.all_eq_true.2 fun r hr => h r ?_
  exact List.mem_of_mem_filter ((List.mergeSort_perm _ _).subset (List.mem_of_mem_take hr))

theorem isPlain_page (h : ∀ r ∈ t.reviews, isPlain r = true) (s : Selection) :
    ((Page.ofReviews t.reviews s).toJson s).isPlain = true := by
  rw [isPlain_toJson]
  refine List.all_eq_true.2 fun r hr => h r ?_
  exact List.mem_of_mem_filter ((List.mergeSort_perm _ _).subset (List.mem_of_mem_drop (List.mem_of_mem_take hr)))

theorem isPlain_overview (h : ∀ r ∈ t.reviews, isPlain r = true) (now : Moment) :
    (Overview.ofTables t now).toJson.isPlain = true := by
  have hcounts (counts : List (ReviewStatus × Nat)) :
      Json.membersArePlain (counts.map fun c => (Named.name c.1, .int c.2)) = true := by
    induction counts with
    | nil => rfl
    | cons c counts ih => simp [Json.membersArePlain, Json.isPlain, ih]
  have hrecent (reviews : List Review) (hall : reviews.all isPlain = true) :
      Json.arePlain (reviews.map activityJson) = true := by
    induction reviews with
    | nil => rfl
    | cons r reviews ih =>
      rw [List.all_cons, Bool.and_eq_true, isPlain, Bool.and_eq_true] at hall
      simp [Json.arePlain, activityJson, Json.isPlain, Json.membersArePlain, momentJson, hall.1.1, ih hall.2]
  have hlatest := hrecent _ (all_isPlain_latest h recentLimit fun r => now - recentSpan ≤ r.createdAt)
  simp only [Overview.toJson, Overview.ofTables, Json.isPlain, Json.membersArePlain, Text.isPlain_ofString, hcounts,
    hlatest, Bool.and_self]

end Report

/-! ## Agreement -/

namespace Web

open Report Site

/-- Whether all that is read from a database is explained by one listing and one list of counts.

The listing has every review once, newest first, and the counts are of the statuses that occur, each once. -/
structure ReportsAgree (db : Database) (listing : List Review) (counts : List (ReviewStatus × Nat)) : Prop where
  listing_perm : listing.Perm db.tables.reviews
  newestFirst : NewestFirst listing
  nodup_keys : ((countsJson counts).map (·.1)).Nodup
  mem_statuses : ∀ s, s ∈ counts.map (·.1) ↔ ∃ r ∈ db.tables.reviews, r.status = s
  /-- The overview shows the counts. -/
  overview : ∀ {site fetch i}, Reads db site i .overview →
    (site.respond fetch i).1.says? ["reviews"] = some (.obj (countsJson counts))
  /-- A count is the number of reviews in all pages of its status. -/
  pagesOfStatus : ∀ {site fetch i s c}, c ∈ counts → s.status = some c.1 → Reads db site i (.page s) →
    (site.respond fetch i).1.says? ["pagination", "total"] = some (.int c.2)
  /-- The sum of the counts is the number of reviews in all pages of the listing. -/
  pages : ∀ {site fetch i s}, s.status = none → Reads db site i (.page s) →
    (site.respond fetch i).1.says? ["pagination", "total"] = some (.int (totalOf counts)) ∧
      (site.respond fetch i).1.says? ["reviews"] = some (reviewsJson ((listing.drop s.offset).take s.limit))
  home : ∀ {site fetch i}, ReadsHome db site i →
    (site.respond fetch i).1.says? ["total_reviews"] = some (.int (totalOf counts))
  /-- The recent reviews are the first 10 in the listing that are not older than a day. -/
  recent : ∀ {site fetch i}, (db.tables.reviews.map (·.createdAt)).Nodup → Reads db site i .overview →
    (site.respond fetch i).1.says? ["recent_activity"] =
      some (.arr (((listing.filter fun r => site.service.now - 86400 ≤ r.createdAt).take 10).map activityJson))
  /-- Of the reviews of a repository the latest 50 are shown. -/
  repository : ∀ {site fetch i owner name}, Reads db site i (.repositoryReviews owner name) →
    ∃ shown omitted, (site.respond fetch i).1.says? [] = some (reviewsJson shown) ∧
      (shown ++ omitted).Perm
        (db.tables.reviews.filter (·.repository == s!"{String.ofList owner}/{String.ofList name}")) ∧
      shown.length = min 50 (shown ++ omitted).length ∧ NewestFirst shown ∧
      ∀ r ∈ shown, ∀ o ∈ omitted, o.createdAt ≤ r.createdAt

variable {t : Tables}

theorem says?_page {s : Selection} (now : Moment) :
    ((Wanted.page s).answer t now).says? ["pagination", "total"] =
        some (.int (t.reviews.filter s.admits).length) ∧
      ((Wanted.page s).answer t now).says? ["reviews"] =
        some (reviewsJson ((((t.reviews.filter s.admits).mergeSort comesBefore).drop s.offset).take s.limit)) :=
  ⟨rfl, rfl⟩

/-- **Reports agree.** In every state of a database that answers, whatever is in its tables. -/
theorem reports_agree (db : Database) (h : db.Available) : ∃ listing counts, ReportsAgree db listing counts := by
  have hperm := List.mergeSort_perm db.tables.reviews comesBefore
  have hnewest := newestFirst_listing db.tables.reviews
  have htotal := totalOf_countByStatus db.tables.reviews
  refine ⟨db.tables.reviews.mergeSort comesBefore, countByStatus db.tables.reviews, {
    listing_perm := hperm
    newestFirst := hnewest
    nodup_keys := nodup_keys db.tables.reviews
    mem_statuses := fun s => mem_statuses
    overview := fun hreads => ?_
    pagesOfStatus := fun {site fetch i s c} hc hs hreads => ?_
    pages := fun {site fetch i s} hs hreads => ?_
    home := fun hreads => ?_
    recent := fun hmoments hreads => ?_
    repository := fun {site fetch i owner name} hreads => ?_ }⟩
  · rw [hreads.says?_eq h]
    rfl
  · have hadmits : db.tables.reviews.filter s.admits = db.tables.reviews.filter (·.status == c.1) :=
      List.filter_congr fun r _ => by rw [Selection.admits, hs]; rfl
    rw [hreads.says?_eq h, (says?_page _).1, hadmits, ← List.countP_eq_length_filter, (mem_countByStatus.1 hc).1]
  · have hadmits : db.tables.reviews.filter s.admits = db.tables.reviews :=
      List.filter_eq_self.2 fun r _ => by rw [Selection.admits, hs]; rfl
    rw [hreads.says?_eq h, hreads.says?_eq h, (says?_page _).1, (says?_page _).2, hadmits, htotal]
    exact ⟨rfl, rfl⟩
  · rw [hreads.says?_eq h, htotal]
  · rw [hreads.says?_eq h, ← latest_filter_eq hperm hnewest hmoments]
    rfl
  · obtain ⟨hshown, omitted, hall, holder⟩ := exists_omitted repositoryLimit
      (db.tables.reviews.filter (·.repository == s!"{String.ofList owner}/{String.ofList name}"))
    refine ⟨_, omitted, hreads.says?_eq h _ _, hall, ?_, hshown, holder⟩
    rw [hall.length_eq, length_latest]
    rfl

/-- A site where three reviews have been queued. -/
def queuedThrice : Site := serving { now := 101, database := Database.after {} threeQueued }

theorem reports_agree_queuedThrice :
    queuedThrice.service.database.Available ∧ ∃ listing counts,
      ReportsAgree queuedThrice.service.database listing counts ∧ listing.length = 3 ∧
      Reads queuedThrice.service.database queuedThrice (asking "/api/stats" "") .overview ∧
      Reads queuedThrice.service.database queuedThrice (asking "/api/reviews" "status=pending")
        (.page ⟨1, 20, some .pending⟩) ∧
      Reads queuedThrice.service.database queuedThrice (asking "/api/reviews" "limit=2") (.page ⟨1, 2, none⟩) ∧
      Reads queuedThrice.service.database queuedThrice (asking "/api/repos/acme/widgets/reviews" "")
        (.repositoryReviews "acme".toList "widgets".toList) ∧
      ReadsHome queuedThrice.service.database queuedThrice (asking "/" "") := by
  have hdb : queuedThrice.service.database.Available := ⟨rfl, rfl⟩
  obtain ⟨listing, counts, hagree⟩ := reports_agree queuedThrice.service.database hdb
  have hpending : selection (asking "/api/reviews" "status=pending").query = .ok ⟨1, 20, some .pending⟩ := by
    decide +kernel
  have htwo : selection (asking "/api/reviews" "limit=2").query = .ok ⟨1, 2, none⟩ := by decide +kernel
  have hplain : ∀ r ∈ queuedThrice.service.database.tables.reviews, Report.isPlain r = true := by decide +kernel
  have hrepository : (reviewsJson (latest repositoryLimit (queuedThrice.service.database.tables.reviews.filter
      (·.repository == ("acme/widgets" : String))))).isPlain = true :=
    (isPlain_reviewsJson _).trans (all_isPlain_latest hplain _ _)
  refine ⟨hdb, listing, counts, hagree, hagree.listing_perm.length_eq, ?_, ?_, ?_, ?_,
    ⟨rfl, rfl, by decide +kernel, by decide +kernel⟩⟩
  · exact ⟨rfl, rfl, .overview (by decide +kernel), by decide +kernel, rfl, isPlain_overview hplain _⟩
  · exact ⟨rfl, rfl, .page (by decide +kernel) (selection_eq_ok_iff.1 hpending), by decide +kernel, rfl,
      isPlain_page hplain _⟩
  · exact ⟨rfl, rfl, .page (by decide +kernel) (selection_eq_ok_iff.1 htwo), by decide +kernel, rfl,
      isPlain_page hplain _⟩
  · have hpath : (asking "/api/repos/acme/widgets/reviews" "").path =
        "/api/repos/".toList ++ ("acme".toList ++ '/' :: ("widgets".toList ++ "/reviews".toList)) := by decide +kernel
    exact ⟨rfl, rfl, .repositoryReviews hpath (by decide) (by decide) (by decide) (by decide), by decide +kernel, rfl,
      hrepository⟩

/-- Where a title has a surrogate, the overview counts its review and the listing says nothing. -/
theorem reports_agree_oddTitle :
    let site := serving { now := 101, database := Database.after {} oddTitle }
    site.service.database.Available ∧
      (site.respond (fun _ _ _ _ => .ok []) (asking "/api/stats" "")).1.says? ["reviews", "total"] = some (.int 1) ∧
      Asks (asking "/api/reviews" "page=1") (.page ⟨1, 20, none⟩) ∧
      (site.respond (fun _ _ _ _ => .ok []) (asking "/api/reviews" "page=1")).1.says? ["pagination", "total"] =
        none := by
  have hpath : (asking "/api/reviews" "page=1").path = "/api/reviews".toList := by decide +kernel
  have hselected : selection (asking "/api/reviews" "page=1").query = .ok ⟨1, 20, none⟩ := by decide +kernel
  have hoverview : Reads (Database.after {} oddTitle) (serving { now := 101, database := Database.after {} oddTitle })
      (asking "/api/stats" "") .overview :=
    ⟨rfl, rfl, .overview (by decide +kernel), by decide +kernel, rfl, by decide +kernel⟩
  exact ⟨⟨rfl, rfl⟩, hoverview.says?_eq ⟨rfl, rfl⟩ _ _, .page hpath (selection_eq_ok_iff.1 hselected),
    Option.isNone_iff_eq_none.1 (by decide +kernel)⟩

end Web

end PullReview
