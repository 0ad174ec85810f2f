import PullReview.Proofs.Pieces
import PullReview.Proofs.Store.Life
import PullReview.Proofs.Web.Reading

/-!
# The listing of reviews

The reviews that a listing asks for, newest first, are cut into pages of one size. Put together again, the pages
have every such review once, all but the last are full, and what lies beyond them is empty (`pages_partition`). A
page on which a review has a text with surrogates cannot be sent.
-/

namespace PullReview

namespace Report

/-! ## Newest first -/

/-- One review is listed before another: it is newer, or made at the same moment with a greater id. -/
def Precedes (a b : Review) : Prop := b.createdAt < a.createdAt ∨ a.createdAt = b.createdAt ∧ b.id < a.id

theorem comesBefore_iff {a b : Review} :
    comesBefore a b = true ↔ b.createdAt < a.createdAt ∨ a.createdAt = b.createdAt ∧ b.id ≤ a.id := by
  simp [comesBefore]

theorem comesBefore_trans (a b c : Review) :
    comesBefore a b = true → comesBefore b c = true → comesBefore a c = true := by
  intro hab hbc
  rw [comesBefore_iff] at hab hbc ⊢
  rcases hab with hab | ⟨hab, hid⟩
  · rcases hbc with hbc | ⟨hbc, -⟩
    · exact .inl (Int.lt_trans hbc hab)
    · exact .inl (hbc ▸ hab)
  · rcases hbc with hbc | ⟨hbc, hid'⟩
    · exact .inl (hab ▸ hbc)
    · exact .inr ⟨hab.trans hbc, Int.le_trans hid' hid⟩

theorem comesBefore_total (a b : Review) : (comesBefore a b || comesBefore b a) = true := by
  rw [Bool.or_eq_true, comesBefore_iff, comesBefore_iff]
  rcases Int.lt_trichotomy a.createdAt b.createdAt with hlt | heq | hgt
  · exact .inr (.inl hlt)
  · rcases Int.le_total b.id a.id with hle | hle
    · exact .inl (.inr ⟨heq, hle⟩)
    · exact .inr (.inr ⟨heq.symm, hle⟩)
  · exact .inl (.inl hgt)

/-- Without two reviews of one id there are no ties. -/
theorem precedes_mergeSort {reviews : List Review} (h : (reviews.map (·.id)).Nodup) :
    (reviews.mergeSort comesBefore).Pairwise Precedes := by
  have hsorted := List.pairwise_mergeSort comesBefore_trans comesBefore_total reviews
  have hids : ((reviews.mergeSort comesBefore).map (·.id)).Nodup :=
    ((List.mergeSort_perm reviews comesBefore).map (·.id)).nodup_iff.2 h
  refine hsorted.imp₂ (fun a b hab hne => ?_) (List.pairwise_map.1 hids)
  rcases comesBefore_iff.1 hab with hlt | ⟨heq, hle⟩
  · exact .inl hlt
  · exact .inr ⟨heq, by omega⟩

/-! ## Pages -/

/-- The reviews that count for a listing: all, or those with one status. -/
def listable (t : Tables) (status : Option ReviewStatus) : List Review :=
  t.reviews.filter fun r => status.all (r.status == ·)

/-- The reviews that count, newest first, in pages of one size. -/
def listed (t : Tables) (limit : Nat) (status : Option ReviewStatus) : List (List Review) :=
  pieces limit ((listable t status).mergeSort comesBefore)

variable {t : Tables} {limit : Nat} {status : Option ReviewStatus}

theorem length_listed (t : Tables) (limit : Nat) (status : Option ReviewStatus) :
    (listed t limit status).length = ((listable t status).length + limit - 1) / limit := by
  rw [listed, length_pieces, List.length_mergeSort]

theorem ofReviews_eq (hlimit : 0 < limit) (page : Nat) :
    Page.ofReviews t.reviews ⟨page, limit, status⟩ =
      ⟨(listed t limit status).getD (page - 1) [], (listable t status).length⟩ := by
  have hadmits : t.reviews.filter (Selection.admits ⟨page, limit, status⟩) = listable t status := by
    refine List.filter_congr fun r _ => ?_
    cases status <;> rfl
  rw [Page.ofReviews, hadmits, listed, getD_pieces hlimit]
  rfl

theorem page_eq {db : Database} (h : db.Available) {s : Selection} (hlimit : fitsColumn s.limit = true)
    (hoffset : fitsColumn s.offset = true) : page db s = .ok (Page.ofReviews db.tables.reviews s) := by
  rw [page_eq_ite h hlimit, if_pos hoffset]

/-! ## Texts on a page -/

/-- Whether no text that is shown of a review has surrogates. -/
def isPlain (r : Review) : Bool := r.repository.isPlain && Json.membersArePlain (Json.joinedMembers r.data)

theorem membersArePlain_reviewMembers (r : Review) : Json.membersArePlain (reviewMembers r) = isPlain r := by
  have hcompleted : (Json.ofOption momentJson r.completedAt).isPlain = true := by
    cases r.completedAt <;> rfl
  simp [reviewMembers, Json.membersArePlain, Json.isPlain, hcompleted, momentJson, isPlain]

theorem isPlain_reviewsJson (reviews : List Review) : (reviewsJson reviews).isPlain = reviews.all isPlain := by
  rw [reviewsJson, Json.isPlain]
  induction reviews with
  | nil => rfl
  | cons r reviews ih =>
    rw [List.map_cons, Json.arePlain, ih, Json.isPlain, membersArePlain_reviewMembers, List.all_cons]

theorem isPlain_toJson (p : Page) (s : Selection) : (p.toJson s).isPlain = p.reviews.all isPlain := by
  simp [Page.toJson, Json.isPlain, Json.membersArePlain, isPlain_reviewsJson]

end Report

/-! ## Asking for a page -/

namespace Web.Site

/-- A request asks the site for a selection of reviews, within the rate limit. -/
structure IsAsked (site : Site) (i : Incoming) (s : Report.Selection) : Prop where
  method : i.method = "GET"
  endpoint : Endpoint.ofPath? i.path = some .reviews
  selected : selection i.query = .ok s
  admitted : site.admits i = true

theorem IsAsked.respond_eq {site : Site} {i : Incoming} {s : Report.Selection} (h : site.IsAsked i s) (fetch : Fetcher)
    {page : Report.Page} (hpage : Report.page site.service.database s = .ok page) :
    site.respond fetch i = (site.finish i (Answer.encoded (.ofJson 200 (page.toJson s))), site.counted i) := by
  have hreport : report? site.service i.query .reviews = some (.ok (.ok (.ofJson 200 (page.toJson s)))) := by
    rw [report?, h.selected, Checked.map, hpage]
    rfl
  rw [respond_of_report fetch h.method h.endpoint hreport, h.admitted]
  rfl

end Web.Site

/-- **The pages make up the listing.** After any calls on an empty database, for every size of a page and every
status or none: the pages put together have each review that counts once, the newest first and of two made at one
moment the one with the greater id first. Every page but the last is full and the last is not empty; without reviews
there are no pages. A site with these tables answers every request for a page whose start fits a column, as the
starts of all pages do that there are if their number of reviews does, with the reviews of that page, none if it
lies beyond the last, and with the numbers of reviews and of pages; but it crashes if a review on the page has a text
with surrogates. -/
theorem pages_partition (calls : List TimedCall) {limit : Nat} (hlimit : 1 ≤ limit ∧ limit ≤ 100)
    (status : Option ReviewStatus) :
    ∃ pages : List (List Review),
      pages.flatten.Perm (Report.listable (Database.after {} calls).tables status) ∧
      pages.flatten.Pairwise Report.Precedes ∧
      (∀ reviews ∈ pages.dropLast, reviews.length = limit) ∧
      (∀ reviews ∈ pages.getLast?, 1 ≤ reviews.length ∧ reviews.length ≤ limit) ∧
      (pages.length = 0 ↔ (Report.listable (Database.after {} calls).tables status).length = 0) ∧
      (fitsColumn (Report.listable (Database.after {} calls).tables status).length = true →
        ∀ page, page - 1 < pages.length → fitsColumn ((page - 1) * limit : Nat) = true) ∧
      ∀ (site : Web.Site) fetch i page, site.service.database.Available →
        site.service.database.tables = (Database.after {} calls).tables → site.IsAsked i ⟨page, limit, status⟩ →
        fitsColumn ((page - 1) * limit : Nat) = true →
        (site.respond fetch i).2.service = site.service ∧
          ((∀ r ∈ pages.getD (page - 1) [], Report.isPlain r = true) →
            (site.respond fetch i).1.status = 200 ∧
              (site.respond fetch i).1.body = .json (.obj [
                ("reviews", Report.reviewsJson (pages.getD (page - 1) [])),
                ("pagination", .obj [("page", .int page), ("limit", .int limit),
                  ("total", .int (Report.listable (Database.after {} calls).tables status).length),
                  ("pages", .int pages.length)])])) ∧
          ((∃ r ∈ pages.getD (page - 1) [], Report.isPlain r = false) → (site.respond fetch i).1.status = 500) := by
  have hw := Database.after_wellFormed Tables.wellFormed_empty calls
  generalize (Database.after {} calls).tables = t at hw
  have hpos : 0 < limit := hlimit.1
  have hids : ((Report.listable t status).map (·.id)).Nodup :=
    hw.nodup_reviewIds.sublist (List.filter_sublist.map Review.id)
  have hflatten : (Report.listed t limit status).flatten = (Report.listable t status).mergeSort Report.comesBefore :=
    Report.flatten_pieces hpos _
  obtain ⟨hfull, hlast⟩ := Report.length_of_pieces hpos ((Report.listable t status).mergeSort Report.comesBefore)
  refine ⟨Report.listed t limit status, ?_, ?_, hfull, hlast, ?_, ?_, ?_⟩
  · rw [hflatten]
    exact List.mergeSort_perm _ _
  · rw [hflatten]
    exact Report.precedes_mergeSort hids
  · rw [Report.listed, Report.length_pieces_eq_zero_iff hpos, List.length_mergeSort]
  · intro hfits page hpage
    rw [Report.length_listed, Report.lt_pieceCount_iff hpos] at hpage
    simp only [fitsColumn, Bool.and_eq_true, decide_eq_true_eq] at hfits ⊢
    omega
  · intro site fetch i page havailable htables hasked hoffset
    have hfits : fitsColumn limit = true := by
      simp only [fitsColumn, Bool.and_eq_true, decide_eq_true_eq]
      omega
    have hpage := Report.page_eq havailable (s := ⟨page, limit, status⟩) hfits hoffset
    rw [htables, Report.ofReviews_eq hpos] at hpage
    rw [hasked.respond_eq fetch hpage, Web.Answer.encoded]
    have hplain := Report.isPlain_toJson
      ⟨(Report.listed t limit status).getD (page - 1) [], (Report.listable t status).length⟩ ⟨page, limit, status⟩
    refine ⟨rfl, fun hall => ?_, fun hsome => ?_⟩
    · rw [List.all_eq_true.2 hall] at hplain
      simp only [Web.Answer.ofJson, Web.Body.isPlain, hplain, if_true]
      refine ⟨rfl, ?_⟩
      rw [Report.length_listed]
      rfl
    · rw [List.all_eq_false.2 (by simpa using hsome)] at hplain
      simp only [Web.Answer.ofJson, Web.Body.isPlain, hplain]
      rfl

/-- Three pull requests, two of which are queued at one moment. -/
def threeQueued : List TimedCall :=
  [{ now := 100, call := .queue 12 "acme/widgets" 77 {} }, { now := 100, call := .queue 13 "acme/widgets" 77 {} },
    { now := 101, call := .queue 14 "acme/widgets" 77 {} }]

/-- A request for the second page of two. -/
def askingSecond : Web.Incoming where
  method := "GET"
  address := { path := "/api/reviews".toList, query := some "page=2&limit=2".toList }
  headers := []
  body := []

theorem pages_partition_threeQueued :
    ∃ (site : Web.Site) (pages : List (List Review)),
      site.service.database.Available ∧ site.IsAsked askingSecond ⟨2, 2, none⟩ ∧
      pages.flatten.Perm (Report.listable site.service.database.tables none) ∧
      (Report.listable site.service.database.tables none).length = 3 ∧
      (∀ r ∈ pages.getD 1 [], Report.isPlain r = true) ∧
      (site.respond (fun _ _ _ _ => .ok []) askingSecond).1.body = .json (.obj [
        ("reviews", Report.reviewsJson (pages.getD 1 [])),
        ("pagination", .obj [("page", .int 2), ("limit", .int 2), ("total", .int 3),
          ("pages", .int pages.length)])]) := by
  have hpath : Web.Endpoint.ofPath? askingSecond.path = some .reviews := by decide +kernel
  have hselected : Web.selection askingSecond.query = .ok ⟨2, 2, none⟩ := by decide +kernel
  obtain ⟨pages, hperm, -, -, -, -, -, hanswers⟩ := pages_partition threeQueued (show 1 ≤ 2 ∧ 2 ≤ 100 by decide) none
  have hanswer := hanswers (.serving { now := 0, database := Database.after {} threeQueued }) (fun _ _ _ _ => .ok [])
    askingSecond 2 ⟨rfl, rfl⟩ rfl ⟨rfl, hpath, hselected, rfl⟩ rfl
  have hall : ∀ r ∈ Report.listable (Database.after {} threeQueued).tables none, Report.isPlain r = true := by
    decide +kernel
  have hplain : ∀ r ∈ pages.getD 1 [], Report.isPlain r = true := by
    intro r hr
    rw [List.getD_eq_getElem?_getD] at hr
    cases hsecond : pages[1]? with
    | none => simp [hsecond] at hr
    | some page =>
      rw [hsecond] at hr
      exact hall r (hperm.subset (List.mem_flatten.2 ⟨page, List.mem_of_getElem? hsecond, hr⟩))
  exact ⟨.serving { now := 0, database := Database.after {} threeQueued }, pages, ⟨rfl, rfl⟩,
    ⟨rfl, hpath, hselected, rfl⟩, hperm, rfl, hplain, (hanswer.2.1 hplain).2⟩

/-- A pull request whose title is a single surrogate. -/
def oddTitle : List TimedCall := [{ now := 100, call := .queue 12 "acme/widgets" 77 { title := .unpaired } }]

/-- Its review makes a page that cannot be sent. -/
theorem pages_partition_oddTitle :
    let site : Web.Site := .serving { now := 0, database := Database.after {} oddTitle }
    let i : Web.Incoming := Web.Site.asking "/api/reviews" "page=1"
    site.IsAsked i ⟨1, 20, none⟩ ∧ (Report.listable site.service.database.tables none).length = 1 ∧
      (site.respond (fun _ _ _ _ => .ok []) i).1.status = 500 :=
  ⟨⟨rfl, by decide +kernel, by decide +kernel, by decide +kernel⟩, by decide +kernel, by decide +kernel⟩

end PullReview
