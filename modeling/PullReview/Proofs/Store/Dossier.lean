import PullReview.Store.Call
import Mathlib.Data.List.Nodup

/-!
# Dossiers

All that is kept about one review is its dossier: its row and the rows derived from it. Each store
call is described by what it does to the dossier of every review, so that nothing later has to look
into the tables again. The tables are well formed (`Tables.WellFormed`) when ids ascend, a pull
request has one review, and every derived row has its review; every store call keeps them so
(`StoreCall.transaction_turns`).
-/

namespace PullReview

/-- All that is kept about one review. -/
structure Dossier where
  review : Review
  fileChanges : List FileChange
  comments : List Comment

/-- What identifies the pull request of a review. -/
def Review.key (r : Review) : Int × Text := (r.number, r.repository)

namespace Tables

def fileChangesOf (t : Tables) (review : Int) : List FileChange := t.fileChanges.filter (·.review == review)

def commentsOf (t : Tables) (review : Int) : List Comment := t.comments.filter (·.review == review)

/-- The dossier of the review with an id. -/
def dossier? (t : Tables) (id : Int) : Option Dossier :=
  (t.review? id).map fun r => ⟨r, t.fileChangesOf id, t.commentsOf id⟩

structure WellFormed (t : Tables) : Prop where
  reviewIds : (t.reviews.map (·.id)).Pairwise (· < ·)
  reviewKeys : (t.reviews.map Review.key).Nodup
  fileChangeIds : (t.fileChanges.map (·.id)).Pairwise (· < ·)
  commentIds : (t.comments.map (·.id)).Pairwise (· < ·)
  fileChangesOwned : ∀ f ∈ t.fileChanges, f.review ∈ t.reviews.map (·.id)
  commentsOwned : ∀ c ∈ t.comments, c.review ∈ t.reviews.map (·.id)

theorem wellFormed_empty : ({} : Database).tables.WellFormed := by
  constructor <;> simp

/-! ## Ids -/

theorem le_foldl_max (ids : List Int) (a : Int) : a ≤ ids.foldl max a ∧ ∀ i ∈ ids, i ≤ ids.foldl max a := by
  induction ids generalizing a with
  | nil => simp
  | cons j js ih =>
    obtain ⟨h₁, h₂⟩ := ih (max a j)
    simp only [List.foldl_cons, List.mem_cons, forall_eq_or_imp]
    exact ⟨by omega, by omega, h₂⟩

theorem lt_nextId {ids : List Int} {i : Int} (h : i ∈ ids) : i < nextId ids := by
  have := (le_foldl_max ids 0).2 i h
  unfold nextId
  omega

theorem pairwise_append_next {ids new : List Int} (h : ids.Pairwise (· < ·)) (hn : new.Pairwise (· < ·))
    (hle : ∀ i ∈ new, nextId ids ≤ i) : (ids ++ new).Pairwise (· < ·) := by
  refine List.pairwise_append.2 ⟨h, hn, fun i hi j hj => ?_⟩
  have := lt_nextId hi
  have := hle j hj
  omega

theorem nextReviewId_not_mem (t : Tables) : t.nextReviewId ∉ t.reviews.map (·.id) := by
  intro h
  have := lt_nextId h
  unfold nextReviewId at this
  omega

/-! ## Reviews and dossiers -/

theorem review?_id {t : Tables} {id : Int} {r : Review} (h : t.review? id = some r) : r.id = id := by
  simpa using List.find?_some h

theorem review?_mem {t : Tables} {id : Int} {r : Review} (h : t.review? id = some r) : r ∈ t.reviews :=
  List.mem_of_find?_eq_some h

theorem review?_isSome_iff {t : Tables} {id : Int} : (t.review? id).isSome ↔ id ∈ t.reviews.map (·.id) := by
  simp only [review?, List.find?_isSome, List.mem_map, beq_iff_eq]

theorem WellFormed.nodup_reviewIds {t : Tables} (h : t.WellFormed) : (t.reviews.map (·.id)).Nodup :=
  h.reviewIds.imp fun hlt => by omega

theorem review?_of_mem {t : Tables} (h : t.WellFormed) {r : Review} (hr : r ∈ t.reviews) :
    t.review? r.id = some r := by
  obtain ⟨r', hr'⟩ := Option.isSome_iff_exists.1 (review?_isSome_iff.2 (List.mem_map_of_mem hr))
  rw [hr', List.inj_on_of_nodup_map h.nodup_reviewIds (review?_mem hr') hr (review?_id hr')]

theorem dossier?_eq_some_iff {t : Tables} {id : Int} {d : Dossier} :
    t.dossier? id = some d ↔
      t.review? id = some d.review ∧ d.fileChanges = t.fileChangesOf id ∧ d.comments = t.commentsOf id := by
  unfold dossier?
  obtain ⟨r, fs, cs⟩ := d
  rw [Option.map_eq_some_iff]
  constructor
  · rintro ⟨r', h, he⟩
    cases he
    exact ⟨h, rfl, rfl⟩
  · rintro ⟨h, rfl, rfl⟩
    exact ⟨r, h, rfl⟩

theorem dossier?_id {t : Tables} {id : Int} {d : Dossier} (h : t.dossier? id = some d) : d.review.id = id :=
  review?_id (dossier?_eq_some_iff.1 h).1

theorem review_mem {t : Tables} {id : Int} {d : Dossier} (h : t.dossier? id = some d) : d.review ∈ t.reviews :=
  review?_mem (dossier?_eq_some_iff.1 h).1

theorem dossier?_of_mem {t : Tables} (h : t.WellFormed) {r : Review} (hr : r ∈ t.reviews) :
    ∃ d, t.dossier? r.id = some d ∧ d.review = r := by
  refine ⟨⟨r, t.fileChangesOf r.id, t.commentsOf r.id⟩, ?_, rfl⟩
  simp [dossier?, review?_of_mem h hr]

/-- A pull request has one dossier. -/
theorem dossier?_key_inj {t : Tables} (h : t.WellFormed) {i j : Int} {d e : Dossier} (hd : t.dossier? i = some d)
    (he : t.dossier? j = some e) (hk : d.review.key = e.review.key) : i = j := by
  have hrs : d.review = e.review := List.inj_on_of_nodup_map h.reviewKeys (review_mem hd) (review_mem he) hk
  rw [← dossier?_id hd, ← dossier?_id he, hrs]

theorem dossier?_congr {t t' : Tables} (hr : t'.reviews = t.reviews) (hf : t'.fileChanges = t.fileChanges)
    (hc : t'.comments = t.comments) (v : Int) : t'.dossier? v = t.dossier? v := by
  simp [dossier?, review?, fileChangesOf, commentsOf, hr, hf, hc]

theorem WellFormed.congr {t t' : Tables} (h : t.WellFormed) (hr : t'.reviews = t.reviews)
    (hf : t'.fileChanges = t.fileChanges) (hc : t'.comments = t.comments) : t'.WellFormed := by
  obtain ⟨h₁, h₂, h₃, h₄, h₅, h₆⟩ := h
  exact ⟨by rwa [hr], by rwa [hr], by rwa [hf], by rwa [hc], by rwa [hf, hr], by rwa [hc, hr]⟩

theorem reviewOf?_eq_some {t : Tables} {number : Int} {repository : Text} {r : Review}
    (h : t.reviewOf? number repository = some r) : r ∈ t.reviews ∧ r.key = (number, repository) := by
  refine ⟨List.mem_of_find?_eq_some h, ?_⟩
  have := List.find?_some h
  simp only [Bool.and_eq_true, beq_iff_eq] at this
  rw [Review.key, this.1, this.2]

theorem reviewOf?_eq_none {t : Tables} {number : Int} {repository : Text}
    (h : t.reviewOf? number repository = none) {r : Review} (hr : r ∈ t.reviews) : r.key ≠ (number, repository) := by
  have := List.find?_eq_none.1 h r hr
  simp only [Bool.and_eq_true, beq_iff_eq] at this
  intro hk
  rw [Review.key, Prod.mk.injEq] at hk
  exact this hk

/-- A pull request has one review. -/
theorem reviewOf?_of_mem {t : Tables} (h : t.WellFormed) {r : Review} (hr : r ∈ t.reviews) :
    t.reviewOf? r.number r.repository = some r := by
  cases hs : t.reviewOf? r.number r.repository with
  | none => exact absurd rfl (reviewOf?_eq_none hs hr)
  | some s =>
    obtain ⟨hs, hk⟩ := reviewOf?_eq_some hs
    rw [List.inj_on_of_nodup_map h.reviewKeys hs hr hk]

/-! ## Changing reviews in place -/

/-- The tables with every review changed. -/
def mapReviews (t : Tables) (change : Review → Review) : Tables := { t with reviews := t.reviews.map change }

theorem updateReview_eq_mapReviews (t : Tables) (id : Int) (change : Review → Review) :
    t.updateReview id change = t.mapReviews fun r => if r.id = id then change r else r := rfl

theorem dossier?_mapReviews (t : Tables) {change : Review → Review} (hid : ∀ r, (change r).id = r.id) (v : Int) :
    (t.mapReviews change).dossier? v = (t.dossier? v).map fun d => { d with review := change d.review } := by
  have hp : ((fun r : Review => r.id == v) ∘ change) = fun r => r.id == v := by
    funext r
    simp [hid]
  simp only [dossier?, review?, mapReviews, List.find?_map, hp, Option.map_map]
  rfl

theorem WellFormed.mapReviews {t : Tables} (h : t.WellFormed) {change : Review → Review}
    (hid : ∀ r, (change r).id = r.id) (hkey : ∀ r, (change r).key = r.key) : (t.mapReviews change).WellFormed := by
  have hids : (t.mapReviews change).reviews.map (·.id) = t.reviews.map (·.id) := by
    simp [Tables.mapReviews, hid]
  have hkeys : (t.mapReviews change).reviews.map Review.key = t.reviews.map Review.key := by
    simp [Tables.mapReviews, hkey]
  obtain ⟨h₁, h₂, h₃, h₄, h₅, h₆⟩ := h
  exact ⟨by rwa [hids], by rwa [hkeys], h₃, h₄, by rwa [hids], by rwa [hids]⟩

/-! ## Discarding and adding derived rows -/

theorem filter_owned {α : Type} {rows : List α} {owner : α → Int} {id : Int} (h : ∀ a ∈ rows, owner a = id)
    (v : Int) : rows.filter (owner · == v) = if v = id then rows else [] := by
  split
  · subst_vars
    exact List.filter_eq_self.2 (by simpa using h)
  · rename_i hv
    exact List.filter_eq_nil_iff.2 fun a ha => by simpa [h a ha] using Ne.symm hv

theorem filter_not_owned {α : Type} (rows : List α) (owner : α → Int) (id v : Int) :
    (rows.filter (owner · != id)).filter (owner · == v) = if v = id then [] else rows.filter (owner · == v) := by
  rw [List.filter_filter]
  split
  · subst_vars
    exact List.filter_eq_nil_iff.2 (by simp)
  · rename_i hv
    refine List.filter_congr fun a _ => ?_
    by_cases ha : owner a = v <;> simp [ha, hv]

theorem dossier?_discardDerived (t : Tables) (id v : Int) :
    (t.discardDerived id).dossier? v =
      if v = id then (t.review? v).map fun r => ⟨r, [], []⟩ else t.dossier? v := by
  unfold dossier? fileChangesOf commentsOf discardDerived
  simp only [filter_not_owned, review?]
  split <;> rfl

theorem WellFormed.discardDerived {t : Tables} (h : t.WellFormed) (id : Int) : (t.discardDerived id).WellFormed where
  reviewIds := h.reviewIds
  reviewKeys := h.reviewKeys
  fileChangeIds := h.fileChangeIds.sublist (List.filter_sublist.map _)
  commentIds := h.commentIds.sublist (List.filter_sublist.map _)
  fileChangesOwned f hf := h.fileChangesOwned f (List.mem_of_mem_filter hf)
  commentsOwned c hc := h.commentsOwned c (List.mem_of_mem_filter hc)

/-- The tables with more derived rows. -/
def addRows (t : Tables) (fs : List FileChange) (cs : List Comment) : Tables :=
  { t with fileChanges := t.fileChanges ++ fs, comments := t.comments ++ cs }

theorem dossier?_addRows (t : Tables) {id : Int} {fs : List FileChange} {cs : List Comment}
    (hfs : ∀ f ∈ fs, f.review = id) (hcs : ∀ c ∈ cs, c.review = id) (v : Int) :
    (t.addRows fs cs).dossier? v =
      if v = id then (t.dossier? v).map fun d => ⟨d.review, d.fileChanges ++ fs, d.comments ++ cs⟩
      else t.dossier? v := by
  unfold dossier? fileChangesOf commentsOf addRows
  simp only [List.filter_append, filter_owned hfs, filter_owned hcs, review?, Option.map_map]
  split
  · rfl
  · simp

theorem WellFormed.addRows {t : Tables} (h : t.WellFormed) {id : Int} {fs : List FileChange} {cs : List Comment}
    (hid : id ∈ t.reviews.map (·.id)) (hfs : ∀ f ∈ fs, f.review = id) (hcs : ∀ c ∈ cs, c.review = id)
    (hfi : ((t.fileChanges ++ fs).map (·.id)).Pairwise (· < ·))
    (hci : ((t.comments ++ cs).map (·.id)).Pairwise (· < ·)) : (t.addRows fs cs).WellFormed where
  reviewIds := h.reviewIds
  reviewKeys := h.reviewKeys
  fileChangeIds := hfi
  commentIds := hci
  fileChangesOwned f hf := by
    rcases List.mem_append.1 hf with hf | hf
    · exact h.fileChangesOwned f hf
    · exact hfs f hf ▸ hid
  commentsOwned c hc := by
    rcases List.mem_append.1 hc with hc | hc
    · exact h.commentsOwned c hc
    · exact hcs c hc ▸ hid

/-! ## Adding a review -/

/-- The tables with one more review. -/
def addReview (t : Tables) (r : Review) : Tables := { t with reviews := t.reviews ++ [r] }

theorem dossier?_addReview (t : Tables) {r : Review} {v : Int} (hv : v ≠ r.id) :
    (t.addReview r).dossier? v = t.dossier? v := by
  have hr : (r.id == v) = false := by simpa using Ne.symm hv
  simp only [dossier?, review?, addReview, List.find?_append, List.find?_cons, hr, List.find?_nil, Option.or_none]
  rfl

theorem WellFormed.addReview {t : Tables} (h : t.WellFormed) {r : Review} (hid : r.id = t.nextReviewId)
    (hkey : ∀ s ∈ t.reviews, s.key ≠ r.key) : (t.addReview r).WellFormed where
  reviewIds := by
    rw [Tables.addReview, List.map_append]
    refine pairwise_append_next h.reviewIds (List.pairwise_singleton _ _) fun i hi => ?_
    rw [List.mem_singleton.1 hi]
    exact Int.le_of_eq hid.symm
  reviewKeys := by
    rw [Tables.addReview, List.map_append, List.nodup_append]
    refine ⟨h.reviewKeys, List.nodup_singleton _, fun k hk k' hk' => ?_⟩
    obtain ⟨s, hs, rfl⟩ := List.mem_map.1 hk
    rw [List.mem_singleton.1 hk']
    exact hkey s hs
  fileChangeIds := h.fileChangeIds
  commentIds := h.commentIds
  fileChangesOwned f hf := by
    rw [Tables.addReview, List.map_append]
    exact List.mem_append_left _ (h.fileChangesOwned f hf)
  commentsOwned c hc := by
    rw [Tables.addReview, List.map_append]
    exact List.mem_append_left _ (h.commentsOwned c hc)

end Tables

/-! ## What a move needs -/

namespace ReviewStatus

theorem ofName?_eq_some_iff {target : Text} {s : ReviewStatus} :
    (Named.ofName? target : Option ReviewStatus) = some s ↔ Named.name s = target := by
  constructor
  · intro h
    simpa using List.find?_some h
  · rintro rfl
    cases s <;> rfl

/-- Statuses have different names. -/
theorem eq_of_name_eq {s t : ReviewStatus} (h : (Named.name s : Text) = Named.name t) : s = t := by
  rw [← Option.some.injEq, ← ofName?_eq_some_iff.2 h, ofName?_eq_some_iff.2 rfl]

theorem contains_sources (s target : ReviewStatus) :
    (sources (Named.name target)).contains s = true ↔ target ∈ s.successors := by
  cases s <;> cases target <;> decide

theorem isTerminal_iff {s : ReviewStatus} : s.isTerminal = true ↔ s.successors = [] := by
  cases s <;> decide

theorem isActive_iff {s : ReviewStatus} : s.isActive = true ↔ .cancelled ∈ s.successors := by
  cases s <;> decide

theorem isActive_eq_false_iff {s : ReviewStatus} : s.isActive = false ↔ s.isTerminal = true := by
  cases s <;> decide

end ReviewStatus

/-- Whether a write names the run of a review, or none. -/
def Review.admits (r : Review) (run : Option Text) : Prop := ∀ named ∈ run, named = r.run

theorem Database.mayMove_iff {r : Review} {target : ReviewStatus} {run : Option Text} :
    Database.mayMove r (Named.name target) run = true ↔ target ∈ r.status.successors ∧ r.admits run := by
  rw [Database.mayMove, Bool.and_eq_true, ReviewStatus.contains_sources]
  cases run <;> simp [Review.admits]

/-! ## What store calls do to dossiers -/

namespace Dossier

/-- The dossier of a review that has just been queued. -/
def queued (ticket : Ticket) (now : Moment) (number : Int) (repository : Text) (installation : Int)
    (summary : PullRequestSummary) : Dossier where
  review :=
    { id := ticket.review, number, repository, installation, status := .pending, run := ticket.run
      data := summary.toMembers, createdAt := now, updatedAt := now, completedAt := none }
  fileChanges := []
  comments := []

/-- The dossier after its review has gone to a status. -/
def moved (d : Dossier) (now : Moment) (target : ReviewStatus) (written : Members) : Dossier :=
  { d with review := Database.moved d.review now target written }

/-- The dossier with the rows of one more file. -/
def extended (d : Dossier) (f : FileChange) (cs : List Comment) : Dossier :=
  ⟨d.review, d.fileChanges ++ [f], d.comments ++ cs⟩

/-- The dossier after a cancellation. -/
def cancelled (d : Dossier) (now : Moment) (reason : Text) : Dossier :=
  d.moved now .cancelled (Progress.cancelled reason).toMembers

end Dossier

/-- The active reviews that fit have been cancelled, and their ids told. -/
def Tables.CancelTurns (now : Moment) (t after : Tables) (reason : Text) (fits : Review → Prop) (ids : List Int) :
    Prop :=
  (∀ v, v ∈ ids ↔ ∃ d, t.dossier? v = some d ∧ fits d.review ∧ d.review.status.isActive = true) ∧
  ∀ v, after.dossier? v = if v ∈ ids then (t.dossier? v).map (·.cancelled now reason) else t.dossier? v

/-- What a successful call does to the dossiers, and what its reply tells about those before it. -/
def StoreCall.Turns (now : Moment) (db : Database) (after : Tables) : (call : StoreCall) → call.Reply → Prop
  | queue number repository installation summary, ticket =>
    ticket.run = db.nextRun ∧
    (∀ v d, db.tables.dossier? v = some d → (d.review.key = (number, repository) ↔ v = ticket.review)) ∧
    ∀ v, after.dossier? v =
      if v = ticket.review then some (.queued ticket now number repository installation summary)
      else db.tables.dossier? v
  | move review target progress run, true =>
    ∃ d status, db.tables.dossier? review = some d ∧ Named.name status = target ∧
      status ∈ d.review.status.successors ∧ d.review.admits run ∧
      ∀ v, after.dossier? v =
        if v = review then some (d.moved now status progress.written) else db.tables.dossier? v
  | move review target _ run, false =>
    after = db.tables ∧
    ∀ d status, db.tables.dossier? review = some d → Named.name status = target →
      d.review.admits run → status ∉ d.review.status.successors
  | addAnalysis review run status analysis complexity, true =>
    ∃ d id commentId, db.tables.dossier? review = some d ∧ d.review.run = run ∧ d.review.status.isActive = true ∧
      ∀ v, after.dossier? v =
        if v = review then
          some (d.extended (Database.rowOfAnalysis id review status analysis complexity)
            (Database.rowsOfIssues commentId review analysis.filename analysis.issues))
        else db.tables.dossier? v
  | addAnalysis review run _ _ _, false =>
    after = db.tables ∧
    ∀ d, db.tables.dossier? review = some d → d.review.run = run → d.review.status.isTerminal = true
  | cancel number repository reason, ids =>
    db.tables.CancelTurns now after reason (fun r => r.key = (number, repository)) ids
  | dropInstallation installation, removal =>
    db.tables.CancelTurns now after "installation_deleted" (fun r => r.installation = installation) removal.reviews
  | saveInstallation .., _ | saveRepositories .., _ | dropRepositories .., _ =>
    ∀ v, after.dossier? v = db.tables.dossier? v

namespace Database

open Tables

variable {db : Database} {now : Moment} {t : Tables}

theorem statement_bind_eq_ok {α : Type} {params : List Param} {f : Except Failure α} {a : α}
    (h : (do db.statement params; f) = .ok a) : f = .ok a := by
  cases hs : db.statement params with
  | ok u => simpa [hs, bind, Except.bind] using h
  | error e => simp [hs, bind, Except.bind] at h

/-- What queueing makes of the tables, derived rows aside: the review of the pull request has the given
id and is as queued, and no other review is touched. -/
structure PutAs (t : Tables) (s : Review) (after : Tables) : Prop where
  wellFormed : after.WellFormed
  reviewOf : after.reviewOf? s.number s.repository = some s
  key_iff : ∀ v d, t.dossier? v = some d → (d.review.key = s.key ↔ v = s.id)
  others : ∀ v, v ≠ s.id → after.dossier? v = t.dossier? v

theorem putAs_update (hw : t.WellFormed) {r s : Review} (hr : t.reviewOf? s.number s.repository = some r)
    (hid : s.id = r.id) (hkey : s.key = r.key) {change : Review → Review} (hs : change r = s)
    (hcid : ∀ r, (change r).id = r.id) (hckey : ∀ r, (change r).key = r.key) :
    PutAs t s (t.updateReview r.id change) := by
  have hmem := (reviewOf?_eq_some hr).1
  rw [updateReview_eq_mapReviews]
  have hid' : ∀ q : Review, (if q.id = r.id then change q else q).id = q.id := fun q => by split <;> simp [hcid]
  have hkey' : ∀ q : Review, (if q.id = r.id then change q else q).key = q.key := fun q => by
    split <;> simp [hckey]
  refine ⟨hw.mapReviews hid' hkey', ?_, fun v e he => ?_, fun v hv => ?_⟩
  · have hp : ((fun q : Review => q.number == s.number && q.repository == s.repository) ∘
        fun q => if q.id = r.id then change q else q) =
        fun q => q.number == s.number && q.repository == s.repository := by
      funext q
      have hq := hkey' q
      rw [Review.key, Review.key, Prod.mk.injEq] at hq
      simp only [Function.comp_apply, hq.1, hq.2]
    have hf : t.reviews.find? (fun q => q.number == s.number && q.repository == s.repository) = some r := hr
    simp only [Tables.reviewOf?, Tables.mapReviews, List.find?_map, hp, hf, Option.map_some, if_true, hs]
  · obtain ⟨f, hf, hfr⟩ := dossier?_of_mem hw hmem
    constructor
    · intro hk
      rw [dossier?_key_inj hw he hf (by rw [hk, hfr, hkey]), hid]
    · rintro rfl
      rw [hid, hf, Option.some.injEq] at he
      rw [← he, hfr, hkey]
  · rw [dossier?_mapReviews t hid']
    cases hd : t.dossier? v with
    | none => rfl
    | some d =>
      have hdv : d.review.id ≠ r.id := by
        rw [dossier?_id hd, ← hid]
        exact hv
      simp only [Option.map_some, if_neg hdv]

theorem putAs_add (hw : t.WellFormed) {s : Review} (hn : t.reviewOf? s.number s.repository = none)
    (hid : s.id = t.nextReviewId) : PutAs t s (t.addReview s) := by
  have hkey : ∀ r ∈ t.reviews, r.key ≠ s.key := fun r hr => reviewOf?_eq_none hn hr
  refine ⟨hw.addReview hid hkey, ?_, fun v e he => ?_, fun v hv => dossier?_addReview t hv⟩
  · have hf : t.reviews.find? (fun q => q.number == s.number && q.repository == s.repository) = none := hn
    simp [Tables.reviewOf?, Tables.addReview, List.find?_append, hf]
  · have hmem := review_mem he
    refine ⟨fun hk => absurd hk (hkey _ hmem), fun hv => ?_⟩
    refine absurd (List.mem_map_of_mem (f := (·.id)) hmem) ?_
    rw [dossier?_id he, hv, hid]
    exact t.nextReviewId_not_mem

theorem putReview_spec (hw : t.WellFormed) (now : Moment) (run : String) (number : Int) (repository : Text)
    (installation : Int) (summary : PullRequestSummary) :
    ∃ id, PutAs t (Dossier.queued ⟨id, run⟩ now number repository installation summary).review
      (putReview t now run number repository installation summary) := by
  unfold putReview
  cases hr : t.reviewOf? number repository with
  | some r =>
    have hk := (reviewOf?_eq_some hr).2
    rw [Review.key, Prod.mk.injEq] at hk
    refine ⟨r.id, putAs_update hw
      (s := (Dossier.queued ⟨r.id, run⟩ now number repository installation summary).review) hr rfl ?_ ?_
      (fun _ => rfl) fun _ => rfl⟩
    · simp only [Dossier.queued, Review.key, hk.1, hk.2]
    · simp only [Dossier.queued, ← hk.1, ← hk.2]
  | none =>
    exact ⟨t.nextReviewId, putAs_add hw
      (s := (Dossier.queued ⟨_, run⟩ now number repository installation summary).review) hr rfl⟩

/-! ### Each call -/

theorem queue_turns (hw : db.tables.WellFormed) {run : String} {number : Int} {repository : Text}
    {installation : Int} {summary : PullRequestSummary} {ticket : Ticket}
    (h : db.queue now run number repository installation summary = .ok (ticket, t)) :
    t.WellFormed ∧ ticket.run = run ∧
    (∀ v d, db.tables.dossier? v = some d → (d.review.key = (number, repository) ↔ v = ticket.review)) ∧
    ∀ v, t.dossier? v =
      if v = ticket.review then some (.queued ticket now number repository installation summary)
      else db.tables.dossier? v := by
  have h := statement_bind_eq_ok h
  obtain ⟨id, hput⟩ := putReview_spec hw now run number repository installation summary
  have hof := hput.reviewOf
  simp only [Dossier.queued] at hof
  simp only [hof, Option.map_some, Option.getD_some, pure, Except.pure, Except.ok.injEq, Prod.mk.injEq] at h
  obtain ⟨rfl, rfl⟩ := h
  refine ⟨hput.wellFormed.discardDerived id, rfl, hput.key_iff, fun v => ?_⟩
  rw [dossier?_discardDerived]
  split
  · subst_vars
    have hmem := (reviewOf?_eq_some hput.reviewOf).1
    rw [show v = (Dossier.queued ⟨v, run⟩ now number repository installation summary).review.id from rfl,
      review?_of_mem hput.wellFormed hmem]
    rfl
  · rename_i hv
    exact hput.others v hv

theorem dossier?_of_review? {v : Int} {r : Review} (h : t.review? v = some r) :
    t.dossier? v = some ⟨r, t.fileChangesOf v, t.commentsOf v⟩ :=
  dossier?_eq_some_iff.2 ⟨h, rfl, rfl⟩

/-- Moving one review moves its dossier. -/
theorem dossier?_moved {review : Int} {d : Dossier} (hd : t.dossier? review = some d) (status : ReviewStatus)
    (written : Members) (v : Int) :
    (t.updateReview review fun r => moved r now status written).dossier? v =
      if v = review then some (d.moved now status written) else t.dossier? v := by
  rw [updateReview_eq_mapReviews, dossier?_mapReviews t fun r => by split <;> rfl]
  split
  · subst_vars
    simp [hd, dossier?_id hd, Dossier.moved]
  · rename_i hv
    cases he : t.dossier? v with
    | none => rfl
    | some e => simp [dossier?_id he, hv]

theorem move_cases {review : Int} {target : Text} {progress : Progress} {run : Option Text} {b : Bool}
    (h : db.move now review target progress run = .ok (b, t)) :
    (∃ r status, db.tables.review? review = some r ∧ Named.name status = target ∧ mayMove r target run = true ∧
      b = true ∧ t = db.tables.updateReview review fun r => moved r now status progress.written) ∨
    (b = false ∧ t = db.tables ∧ ∀ r (status : ReviewStatus), db.tables.review? review = some r →
      Named.name status = target → ¬ mayMove r target run = true) := by
  have h := statement_bind_eq_ok h
  simp only [← ReviewStatus.ofName?_eq_some_iff]
  split at h
  · rename_i hnone
    cases h
    exact .inr ⟨rfl, rfl, fun r _ hr => by rw [hnone] at hr; cases hr⟩
  · rename_i r hr
    have h := statement_bind_eq_ok h
    split at h
    · rename_i hnone
      cases h
      exact .inr ⟨rfl, rfl, fun _ status _ hs => by rw [hnone] at hs; cases hs⟩
    · rename_i status hs
      split at h
      · rename_i hm
        cases h
        exact .inl ⟨r, status, hr, hs, hm, rfl, by rw [review?_id hr]⟩
      · rename_i hm
        cases h
        refine .inr ⟨rfl, rfl, fun r' _ hr' _ => ?_⟩
        rw [hr, Option.some.injEq] at hr'
        exact hr' ▸ hm

theorem move_turns (hw : db.tables.WellFormed) {review : Int} {target : Text} {progress : Progress}
    {run : Option Text} {b : Bool} (h : db.move now review target progress run = .ok (b, t)) :
    t.WellFormed ∧ (StoreCall.move review target progress run).Turns now db t b := by
  obtain ⟨r, status, hr, rfl, hm, rfl, rfl⟩ | ⟨rfl, rfl, hno⟩ := move_cases h
  · obtain ⟨hsucc, hadmits⟩ := mayMove_iff.1 hm
    have hd := dossier?_of_review? hr
    refine ⟨hw.mapReviews (fun r => by split <;> rfl) fun r => by split <;> rfl, ?_⟩
    exact ⟨_, status, hd, rfl, hsucc, hadmits, fun v => dossier?_moved hd status _ v⟩
  · refine ⟨hw, rfl, fun d status hd hn hadmits hsucc => hno d.review status (dossier?_eq_some_iff.1 hd).1 hn ?_⟩
    exact hn ▸ mayMove_iff.2 ⟨hsucc, hadmits⟩

theorem rowsOfIssues_review {id review : Int} {filename : Text} {issues : List Issue} :
    ∀ c ∈ rowsOfIssues id review filename issues, c.review = review := by
  induction issues generalizing id with
  | nil => simp [rowsOfIssues]
  | cons i is ih =>
    intro c hc
    rcases List.mem_cons.1 hc with rfl | hc
    · rfl
    · exact ih c hc

theorem rowsOfIssues_ids (id review : Int) (filename : Text) (issues : List Issue) :
    ((rowsOfIssues id review filename issues).map (·.id)).Pairwise (· < ·) ∧
      ∀ i ∈ (rowsOfIssues id review filename issues).map (·.id), id ≤ i := by
  induction issues generalizing id with
  | nil => simp [rowsOfIssues]
  | cons i is ih =>
    obtain ⟨h₁, h₂⟩ := ih (id + 1)
    simp only [rowsOfIssues, List.map_cons, List.pairwise_cons, List.mem_cons, forall_eq_or_imp]
    refine ⟨⟨fun j hj => ?_, h₁⟩, Int.le_refl _, fun j hj => ?_⟩
    · have := h₂ j hj
      omega
    · have := h₂ j hj
      omega

theorem addAnalysis_cases {review : Int} {run status : Text} {analysis : Analysis} {complexity : Int} {b : Bool}
    (h : db.addAnalysis review run status analysis complexity = .ok (b, t)) :
    (∃ r, db.tables.review? review = some r ∧ r.run = run ∧ r.status.isActive = true ∧ b = true ∧
      t = db.tables.addRows [rowOfAnalysis db.tables.nextFileChangeId review status analysis complexity]
        (rowsOfIssues db.tables.nextCommentId review analysis.filename analysis.issues)) ∨
    (b = false ∧ t = db.tables ∧
      ∀ r, db.tables.review? review = some r → r.run = run → r.status.isTerminal = true) := by
  have h := statement_bind_eq_ok h
  split at h
  · rename_i hmay
    have h := statement_bind_eq_ok h
    cases h
    obtain ⟨r, hr, hm⟩ := (Option.any_eq_true _ _).1 hmay
    rw [mayRecord, Bool.and_eq_true, beq_iff_eq] at hm
    exact .inl ⟨r, hr, hm.1, hm.2, rfl, rfl⟩
  · rename_i hmay
    cases h
    refine .inr ⟨rfl, rfl, fun r hr hrun => ?_⟩
    simpa [hr, mayRecord, hrun, ReviewStatus.isActive_eq_false_iff] using hmay

theorem addAnalysis_turns (hw : db.tables.WellFormed) {review : Int} {run status : Text} {analysis : Analysis}
    {complexity : Int} {b : Bool} (h : db.addAnalysis review run status analysis complexity = .ok (b, t)) :
    t.WellFormed ∧ (StoreCall.addAnalysis review run status analysis complexity).Turns now db t b := by
  obtain ⟨r, hr, hrun, hactive, rfl, rfl⟩ | ⟨rfl, rfl, hno⟩ := addAnalysis_cases h
  · have hd := dossier?_of_review? hr
    have hfs : ∀ f ∈ [rowOfAnalysis db.tables.nextFileChangeId review status analysis complexity],
        f.review = review := fun f hf => by rw [List.mem_singleton.1 hf]; rfl
    have hcs := @rowsOfIssues_review db.tables.nextCommentId review analysis.filename analysis.issues
    obtain ⟨hci, hcn⟩ := rowsOfIssues_ids db.tables.nextCommentId review analysis.filename analysis.issues
    constructor
    · refine hw.addRows (review?_isSome_iff.1 (by rw [hr]; rfl)) hfs hcs ?_ ?_
      · rw [List.map_append]
        refine pairwise_append_next hw.fileChangeIds (List.pairwise_singleton _ _) fun i hi => ?_
        rw [List.mem_singleton.1 hi]
        exact Int.le_refl _
      · rw [List.map_append]
        exact pairwise_append_next hw.commentIds hci hcn
    · refine ⟨_, db.tables.nextFileChangeId, db.tables.nextCommentId, hd, hrun, hactive, fun v => ?_⟩
      refine (dossier?_addRows db.tables hfs hcs v).trans ?_
      split
      · subst_vars
        rw [hd]
        rfl
      · rfl
  · exact ⟨hw, rfl, fun d hd hrun => hno d.review (dossier?_eq_some_iff.1 hd).1 hrun⟩

theorem mem_cancelAll (hw : t.WellFormed) (now : Moment) (reason : Text) (fits : Review → Bool) (v : Int) :
    v ∈ (cancelAll t now reason fits).1 ↔
      ∃ d, t.dossier? v = some d ∧ fits d.review = true ∧ d.review.status.isActive = true := by
  simp only [cancelAll, List.mem_map, List.mem_filter, Bool.and_eq_true, ReviewStatus.contains_sources,
    ← ReviewStatus.isActive_iff]
  constructor
  · rintro ⟨r, ⟨hr, hf⟩, rfl⟩
    obtain ⟨d, hd, rfl⟩ := dossier?_of_mem hw hr
    exact ⟨d, hd, hf⟩
  · rintro ⟨d, hd, hf⟩
    exact ⟨d.review, ⟨review_mem hd, hf⟩, dossier?_id hd⟩

theorem cancelAll_turns (hw : t.WellFormed) (now : Moment) (reason : Text) (fits : Review → Bool) :
    (cancelAll t now reason fits).2.WellFormed ∧
      ∀ v, (cancelAll t now reason fits).2.dossier? v =
        if v ∈ (cancelAll t now reason fits).1 then (t.dossier? v).map (·.cancelled now reason)
        else t.dossier? v := by
  refine ⟨hw.mapReviews (fun r => by split <;> rfl) fun r => by split <;> rfl, fun v => ?_⟩
  refine (dossier?_mapReviews t (fun r => by split <;> rfl) v).trans ?_
  simp only [mem_cancelAll hw now]
  cases hd : t.dossier? v with
  | none => simp
  | some d =>
    simp only [Option.map_some, Option.some.injEq, exists_eq_left', Bool.and_eq_true,
      ReviewStatus.contains_sources, ← ReviewStatus.isActive_iff]
    split
    · rfl
    · rfl

/-- Nothing about any review has changed. -/
def SameReviews (t t' : Tables) : Prop :=
  t'.reviews = t.reviews ∧ t'.fileChanges = t.fileChanges ∧ t'.comments = t.comments

theorem SameReviews.trans {t₁ t₂ t₃ : Tables} (h : SameReviews t₁ t₂) (g : SameReviews t₂ t₃) : SameReviews t₁ t₃ :=
  ⟨g.1.trans h.1, g.2.1.trans h.2.1, g.2.2.trans h.2.2⟩

theorem putInstallation_frame (t : Tables) (now : Moment) (installation : Int) (login kind : Text) :
    SameReviews t (putInstallation t now installation login kind) := by
  unfold putInstallation
  split <;> exact ⟨rfl, rfl, rfl⟩

theorem putRepository_frame (t : Tables) (installation : Int) (r : Event.Repository) :
    SameReviews t (putRepository t installation r) := by
  unfold putRepository
  split <;> exact ⟨rfl, rfl, rfl⟩

theorem putRepositories_frame {installation : Int} {rs : List Event.Repository} {t t' : Tables}
    (h : putRepositories db installation rs t = .ok t') : SameReviews t t' := by
  induction rs generalizing t with
  | nil =>
    cases h
    exact ⟨rfl, rfl, rfl⟩
  | cons r rs ih =>
    exact (putRepository_frame t installation r).trans (ih (statement_bind_eq_ok h))

theorem bind_eq_ok {α β : Type} {x : Except Failure α} {f : α → Except Failure β} {b : β} (h : x >>= f = .ok b) :
    ∃ a, x = .ok a ∧ f a = .ok b := by
  cases x with
  | ok a => exact ⟨a, rfl, h⟩
  | error e => cases h

theorem saveInstallation_frame {installation : Int} {login kind : Text} {rs : List Event.Repository} {n : Nat}
    (h : db.saveInstallation now installation login kind rs = .ok (n, t)) : SameReviews db.tables t := by
  obtain ⟨t', ht, h⟩ := bind_eq_ok (statement_bind_eq_ok h)
  cases h
  exact (putInstallation_frame ..).trans (putRepositories_frame ht)

theorem saveRepositories_frame {installation : Int} {login : Option Text} {kind : Text}
    {rs : List Event.Repository} {n : Nat} (h : db.saveRepositories now installation rs login kind = .ok (n, t)) :
    SameReviews db.tables t := by
  -- the owner is recorded first or not at all, and the repositories are added either way
  have hput : ∀ {t₁}, SameReviews db.tables t₁ →
      (putRepositories db installation rs t₁ >>= fun t => .ok (rs.length, t)) = .ok (n, t) →
      SameReviews db.tables t := by
    intro t₁ hinst h
    obtain ⟨t₂, ht₂, h⟩ := bind_eq_ok h
    cases h
    exact hinst.trans (putRepositories_frame ht₂)
  unfold saveRepositories at h
  split at h
  · split at h
    · exact hput ⟨rfl, rfl, rfl⟩ h
    · exact hput (putInstallation_frame ..) (statement_bind_eq_ok h)
  · exact hput ⟨rfl, rfl, rfl⟩ h

theorem dropRepositories_frame {installation : Int} {ids : List Int} {n : Nat}
    (h : db.dropRepositories installation ids = .ok (n, t)) : SameReviews db.tables t := by
  unfold dropRepositories at h
  split at h
  · cases h
    exact ⟨rfl, rfl, rfl⟩
  · have h := statement_bind_eq_ok h
    cases h
    exact ⟨rfl, rfl, rfl⟩

end Database

namespace StoreCall

variable {call : StoreCall} {now : Moment} {db db' : Database}

theorem perform_ok {reply : call.Reply} (h : call.perform now db = (.ok reply, db')) :
    call.transaction db now = .ok (reply, db'.tables) ∧ db'.runs = db.runs.draw call.runsDrawn := by
  unfold perform at h
  split at h
  · rename_i r t ht
    rw [Prod.mk.injEq, Except.ok.injEq] at h
    obtain ⟨rfl, rfl⟩ := h
    exact ⟨ht, rfl⟩
  · rw [Prod.mk.injEq] at h
    cases h.1

/-- A call that fails leaves the tables as they were. -/
theorem perform_error {failure : Failure} (h : call.perform now db = (.error failure, db')) :
    db'.tables = db.tables ∧ db'.runs = db.runs.draw call.runsDrawn := by
  unfold perform at h
  split at h
  · rw [Prod.mk.injEq] at h
    cases h.1
  · rw [Prod.mk.injEq] at h
    obtain ⟨-, rfl⟩ := h
    exact ⟨rfl, rfl⟩

/-- **What a successful call does.** The tables stay well formed, and each dossier goes over as
`Turns` says. -/
theorem transaction_turns (hw : db.tables.WellFormed) {t : Tables} :
    ∀ {call : StoreCall} {reply : call.Reply}, call.transaction db now = .ok (reply, t) →
      t.WellFormed ∧ call.Turns now db t reply
  | queue .., ticket, h => by
    obtain ⟨hw', hrun, hkey, hd⟩ := Database.queue_turns hw h
    exact ⟨hw', hrun, hkey, hd⟩
  | move .., _, h => Database.move_turns hw h
  | addAnalysis .., _, h => Database.addAnalysis_turns hw h
  | cancel number repository reason, ids, h => by
    have h := Database.statement_bind_eq_ok h
    cases h
    obtain ⟨hw', hd⟩ :=
      Database.cancelAll_turns hw now reason fun r => r.number == number && r.repository == repository
    refine ⟨hw', fun v => (Database.mem_cancelAll hw now reason _ v).trans ?_, hd⟩
    simp only [Review.key, Prod.mk.injEq, Bool.and_eq_true, beq_iff_eq]
  | dropInstallation installation, removal, h => by
    have h := Database.statement_bind_eq_ok h
    cases h
    obtain ⟨hw', hd⟩ :=
      Database.cancelAll_turns hw now "installation_deleted" fun r => r.installation == installation
    refine ⟨hw'.congr rfl rfl rfl, fun v => ?_, fun v => ?_⟩
    · refine (Database.mem_cancelAll hw now "installation_deleted" _ v).trans ?_
      simp only [beq_iff_eq]
    · exact (Tables.dossier?_congr rfl rfl rfl v).trans (hd v)
  | saveInstallation .., _, h => by
    obtain ⟨hr, hf, hc⟩ := Database.saveInstallation_frame h
    exact ⟨hw.congr hr hf hc, Tables.dossier?_congr hr hf hc⟩
  | saveRepositories .., _, h => by
    obtain ⟨hr, hf, hc⟩ := Database.saveRepositories_frame h
    exact ⟨hw.congr hr hf hc, Tables.dossier?_congr hr hf hc⟩
  | dropRepositories .., _, h => by
    obtain ⟨hr, hf, hc⟩ := Database.dropRepositories_frame h
    exact ⟨hw.congr hr hf hc, Tables.dossier?_congr hr hf hc⟩

end StoreCall

end PullReview
