import PullReview.Proofs.Store.Dossier

/-!
# Placing dossiers

As long as the database answers, all that a run does to the tables is to replace one dossier by another:
`Tables.place` puts a dossier in the place of the one with its id, its derived rows behind all others.
Queueing a review places its first dossier, and a write on behalf of its run places what the dossier
becomes (`queue_place`, `move_place`, `addAnalysis_place`). Only the last dossier placed is seen
(`place_place`).
-/

namespace PullReview

/-- The derived rows of a dossier name its review. -/
structure Dossier.Coherent (d : Dossier) : Prop where
  fileChanges : ∀ f ∈ d.fileChanges, f.review = d.review.id
  comments : ∀ c ∈ d.comments, c.review = d.review.id

theorem Dossier.Coherent.queued (ticket : Ticket) (now : Moment) (number : Int) (repository : Text)
    (installation : Int) (summary : PullRequestSummary) :
    (Dossier.queued ticket now number repository installation summary).Coherent :=
  ⟨List.forall_mem_nil _, List.forall_mem_nil _⟩

theorem Dossier.Coherent.moved {d : Dossier} (h : d.Coherent) (now : Moment) (target : ReviewStatus)
    (written : Members) : (d.moved now target written).Coherent :=
  ⟨h.fileChanges, h.comments⟩

theorem Dossier.Coherent.extended {d : Dossier} (h : d.Coherent) {f : FileChange} {cs : List Comment}
    (hf : f.review = d.review.id) (hcs : ∀ c ∈ cs, c.review = d.review.id) : (d.extended f cs).Coherent := by
  constructor
  · intro g hg
    rcases List.mem_append.1 hg with hg | hg
    · exact h.fileChanges g hg
    · exact List.mem_singleton.1 hg ▸ hf
  · intro c hc
    exact (List.mem_append.1 hc).elim (h.comments c) (hcs c)

namespace Tables

/-! ## Reviews in place -/

/-- The reviews with one put in the place of that with its id, or behind all others. -/
def putAmong (r : Review) (reviews : List Review) : List Review :=
  if reviews.any (·.id == r.id) then reviews.map fun s => if s.id = r.id then r else s else reviews ++ [r]

section PutAmong

variable {r s : Review} {reviews : List Review}

/-- A change of reviews that are not there changes nothing. -/
theorem map_of_not_any {v : Int} (h : ¬ reviews.any (·.id == v) = true) (change : Review → Review) :
    (reviews.map fun r => if r.id = v then change r else r) = reviews := by
  rw [List.any_eq_true, not_exists] at h
  calc reviews.map (fun r => if r.id = v then change r else r)
      = reviews.map id := List.map_congr_left fun r hr => if_neg fun hv => h r ⟨hr, by simpa using hv⟩
    _ = reviews := List.map_id reviews

theorem any_putAmong (r : Review) (reviews : List Review) : (putAmong r reviews).any (·.id == r.id) = true := by
  unfold putAmong
  by_cases h : reviews.any (·.id == r.id) = true
  · obtain ⟨s, hs, hid⟩ := List.any_eq_true.1 h
    rw [if_pos h]
    exact List.any_eq_true.2 ⟨r, List.mem_map.2 ⟨s, hs, if_pos (by simpa using hid)⟩, by simp⟩
  · simp [h]

/-- Changing the review that was put in. -/
theorem map_putAmong (change : Review → Review) (hid : (change r).id = r.id) :
    ((putAmong r reviews).map fun s => if s.id = r.id then change s else s) = putAmong (change r) reviews := by
  unfold putAmong
  rw [hid]
  by_cases h : reviews.any (·.id == r.id) = true
  · rw [if_pos h, if_pos h, List.map_map]
    refine List.map_congr_left fun s _ => ?_
    by_cases hs : s.id = r.id <;> simp [hs]
  · rw [if_neg h, if_neg h, List.map_append, map_of_not_any h]
    simp

/-- Only the last one put in is seen. -/
theorem putAmong_putAmong (h : s.id = r.id) : putAmong s (putAmong r reviews) = putAmong s reviews := by
  have hany := any_putAmong r reviews
  rw [← h] at hany
  rw [putAmong, if_pos hany, h]
  exact map_putAmong (fun _ => s) h

theorem find?_putAmong (r : Review) (reviews : List Review) : (putAmong r reviews).find? (·.id == r.id) = some r := by
  unfold putAmong
  by_cases h : reviews.any (·.id == r.id) = true
  · rw [if_pos h]
    induction reviews with
    | nil => cases h
    | cons s reviews ih =>
      by_cases hs : s.id = r.id
      · simp [hs]
      · have hrest : reviews.any (·.id == r.id) = true := by simpa [hs] using h
        rw [List.map_cons, if_neg hs, List.find?_cons_of_neg (by simpa using hs), ih hrest]
  · have hnone : reviews.find? (·.id == r.id) = none := by simpa using h
    simp [h, List.find?_append, hnone]

theorem find?_putAmong_of_ne {v : Int} (h : v ≠ r.id) :
    (putAmong r reviews).find? (·.id == v) = reviews.find? (·.id == v) := by
  have hr : (r.id == v) = false := by simpa using Ne.symm h
  unfold putAmong
  split
  · clear * - h hr
    induction reviews with
    | nil => rfl
    | cons s reviews ih =>
      by_cases hs : s.id = r.id
      · have hsv : (s.id == v) = false := hs ▸ hr
        rw [List.map_cons, if_pos hs, List.find?_cons, List.find?_cons, hr, hsv, ih]
      · rw [List.map_cons, if_neg hs, List.find?_cons, List.find?_cons, ih]
  · simp [List.find?_append, hr]

theorem filter_putAmong {p : Review → Bool} (hr : p r = false) (h : ∀ s ∈ reviews, s.id = r.id → p s = false) :
    (putAmong r reviews).filter p = reviews.filter p := by
  unfold putAmong
  split
  · clear * - hr h
    induction reviews with
    | nil => rfl
    | cons s reviews ih =>
      have hrest := ih fun s hs => h s (List.mem_cons_of_mem _ hs)
      by_cases hs : s.id = r.id
      · have hps : p s = false := h s List.mem_cons_self hs
        simp [hs, hr, hps, hrest]
      · simp [hs, List.filter_cons, hrest]
  · simp [hr]

end PutAmong

/-! ## Dossiers in place -/

/-- The tables with a dossier in the place of the one with its id; its derived rows come last. -/
def place (t : Tables) (d : Dossier) : Tables :=
  { t with
    reviews := putAmong d.review t.reviews
    fileChanges := t.fileChanges.filter (·.review != d.review.id) ++ d.fileChanges
    comments := t.comments.filter (·.review != d.review.id) ++ d.comments }

variable {t : Tables} {d e : Dossier}

theorem dossier?_place (t : Tables) (h : d.Coherent) (v : Int) :
    (t.place d).dossier? v = if v = d.review.id then some d else t.dossier? v := by
  unfold dossier? review? fileChangesOf commentsOf place
  rw [List.filter_append, List.filter_append, filter_not_owned, filter_not_owned, filter_owned h.fileChanges,
    filter_owned h.comments]
  by_cases hv : v = d.review.id
  · subst hv
    simp [find?_putAmong]
  · simp [hv, find?_putAmong_of_ne hv]

/-- Of rows some of which were put last for an owner, those of all other owners. -/
theorem filter_not_owned_append {α : Type} {owner : α → Int} {rows new : List α} {id : Int}
    (h : ∀ a ∈ new, owner a = id) :
    (rows.filter (owner · != id) ++ new).filter (owner · != id) = rows.filter (owner · != id) := by
  have hnew : new.filter (owner · != id) = [] := List.filter_eq_nil_iff.2 fun a ha => by simp [h a ha]
  rw [List.filter_append, hnew, List.append_nil, List.filter_filter]
  simp

/-- Only the last dossier placed is seen. -/
theorem place_place (t : Tables) (h : d.Coherent) (hid : e.review.id = d.review.id) :
    (t.place d).place e = t.place e := by
  unfold place
  rw [putAmong_putAmong hid, hid, filter_not_owned_append h.fileChanges, filter_not_owned_append h.comments]

theorem updateReview_place (t : Tables) (d : Dossier) {change : Review → Review}
    (hid : (change d.review).id = d.review.id) :
    (t.place d).updateReview d.review.id change = t.place { d with review := change d.review } := by
  unfold updateReview place
  rw [map_putAmong change hid, hid]

theorem addRows_place (t : Tables) (d : Dossier) (fs : List FileChange) (cs : List Comment) :
    (t.place d).addRows fs cs = t.place ⟨d.review, d.fileChanges ++ fs, d.comments ++ cs⟩ := by
  simp [addRows, place, List.append_assoc]

/-- The id that the review of a pull request has or is going to have. -/
def idFor (t : Tables) (number : Int) (repository : Text) : Int :=
  ((t.reviewOf? number repository).map (·.id)).getD t.nextReviewId

theorem idFor_of_reviewOf? {number : Int} {repository : Text} {r : Review}
    (h : t.reviewOf? number repository = some r) : t.idFor number repository = r.id := by
  rw [idFor, h]
  rfl

theorem idFor_of_none {number : Int} {repository : Text} (h : t.reviewOf? number repository = none) :
    t.idFor number repository = t.nextReviewId := by
  rw [idFor, h]
  rfl

theorem eq_of_id_eq (hw : t.WellFormed) {r s : Review} (hr : r ∈ t.reviews) (hs : s ∈ t.reviews) (h : s.id = r.id) :
    s = r := by
  have hfound := review?_of_mem hw hs
  rwa [h, review?_of_mem hw hr, Option.some.injEq, eq_comm] at hfound

theorem not_any_nextReviewId (t : Tables) : ¬ t.reviews.any (·.id == t.nextReviewId) = true := by
  intro h
  obtain ⟨s, hs, hid⟩ := List.any_eq_true.1 h
  exact t.nextReviewId_not_mem (List.mem_map.2 ⟨s, hs, by simpa using hid⟩)

/-- Only the review of a pull request has the id that it is going to have. -/
theorem key_of_id_eq_idFor (hw : t.WellFormed) {number : Int} {repository : Text} {s : Review} (hs : s ∈ t.reviews)
    (h : s.id = t.idFor number repository) : s.key = (number, repository) := by
  cases hr : t.reviewOf? number repository with
  | some r =>
    obtain ⟨hmem, hkey⟩ := reviewOf?_eq_some hr
    rw [idFor_of_reviewOf? hr] at h
    rw [eq_of_id_eq hw hmem hs h, hkey]
  | none =>
    rw [idFor_of_none hr] at h
    exact absurd (List.any_eq_true.2 ⟨s, hs, by simpa using h⟩) t.not_any_nextReviewId

end Tables

/-! ## Calls while the database answers -/

namespace Database

open Tables

structure Available (db : Database) : Prop where
  isUp : db.isUp = true
  hasTables : db.hasTables = true

variable {db : Database} {t : Tables} {d : Dossier}

/-- Only a value that cannot be bound makes a statement fail. -/
theorem Available.statement_ok (h : db.Available) {params : List Param} (hparams : Param.fault? params = none) :
    db.statement params = .ok () :=
  statement_eq_ok_iff.2 ⟨h.isUp, h.hasTables, Param.fault?_eq_none_iff.1 hparams⟩

theorem Available.statement_error (h : db.Available) {params : List Param} {e : Failure}
    (hparams : Param.fault? params = some e) : db.statement params = .error e := by
  simp [Database.statement, h.isUp, h.hasTables, hparams]

/-- An integer that fits no column fails the statement that carries it alone. -/
theorem Available.statement_int (h : db.Available) (i : Int) :
    db.statement [.int i] = if fitsColumn i = true then .ok () else .error .integerRange := by
  split
  · rename_i hi
    exact h.statement_ok (by simp [Param.fault?_eq_none_iff, hi])
  · rename_i hi
    exact h.statement_error (by simp [Param.fault?, Param.failure?, hi])

theorem putReview_eq (hw : t.WellFormed) (now : Moment) (run : String) (number : Int) (repository : Text)
    (installation : Int) (summary : PullRequestSummary) :
    putReview t now run number repository installation summary =
      { t with
        reviews :=
          putAmong (Dossier.queued ⟨t.idFor number repository, run⟩ now number repository installation summary).review
            t.reviews } := by
  have hid : ∀ id, (Dossier.queued ⟨id, run⟩ now number repository installation summary).review.id = id :=
    fun _ => rfl
  unfold putReview putAmong idFor
  simp only [hid]
  cases hr : t.reviewOf? number repository with
  | some r =>
    obtain ⟨hmem, hkey⟩ := reviewOf?_eq_some hr
    rw [Review.key, Prod.mk.injEq] at hkey
    have hany : t.reviews.any (·.id == r.id) = true := List.any_eq_true.2 ⟨r, hmem, by simp⟩
    have hmap : t.reviews.map (fun s => if s.id = r.id then
          { s with
            installation, status := .pending, run, data := summary.toMembers
            createdAt := now, updatedAt := now, completedAt := none } else s) =
        t.reviews.map fun s => if s.id = r.id then
          (Dossier.queued ⟨r.id, run⟩ now number repository installation summary).review else s := by
      refine List.map_congr_left fun s hs => ?_
      by_cases hsr : s.id = r.id
      · obtain rfl : s = r := eq_of_id_eq hw hmem hs hsr
        rw [if_pos rfl, if_pos rfl, ← hkey.1, ← hkey.2]
        rfl
      · rw [if_neg hsr, if_neg hsr]
    simp only [Option.map_some, Option.getD_some, hany, if_true, updateReview, hmap]
  | none =>
    simp only [Option.map_none, Option.getD_none, t.not_any_nextReviewId]
    rfl

/-- Queueing a review places its first dossier. -/
theorem queue_place (h : db.Available) (hw : db.tables.WellFormed) (now : Moment) (run : String) {number : Int}
    {repository : Text} {installation : Int} (hparams : Param.fault? [number, repository, installation] = none)
    (summary : PullRequestSummary) :
    db.queue now run number repository installation summary =
      .ok (⟨db.tables.idFor number repository, run⟩, db.tables.place
        (.queued ⟨db.tables.idFor number repository, run⟩ now number repository installation summary)) := by
  obtain ⟨_, hput⟩ := putReview_spec hw now run number repository installation summary
  have hw' := hput.wellFormed
  rw [putReview_eq hw] at hw'
  have hof := reviewOf?_of_mem hw' (List.mem_of_find?_eq_some (find?_putAmong _ _))
  unfold queue
  rw [h.statement_ok hparams, putReview_eq hw]
  simp only [Dossier.queued] at hof
  simp only [Dossier.queued, hof]
  simp [bind, Except.bind, pure, Except.pure, discardDerived, place]

theorem queue_error (h : db.Available) (now : Moment) (run : String) {number : Int} {repository : Text}
    {installation : Int} {e : Failure} (hparams : Param.fault? [number, repository, installation] = some e)
    (summary : PullRequestSummary) : db.queue now run number repository installation summary = .error e := by
  unfold queue
  rw [h.statement_error hparams]
  rfl

/-- A move on behalf of the run of the dossier in place. -/
theorem move_place (h : db.Available) (ht : db.tables = t.place d) (hfits : fitsColumn d.review.id = true)
    {status : ReviewStatus} (hs : status ∈ d.review.status.successors) (now : Moment) (progress : Progress) :
    db.move now d.review.id (Named.name status) progress (some d.review.run) =
      .ok (true, t.place (d.moved now status progress.written)) := by
  have hmay : mayMove d.review (Named.name status) (some d.review.run) = true :=
    mayMove_iff.2 ⟨hs, fun _ hrun => (Option.some.inj hrun).symm⟩
  have hreview : (t.place d).review? d.review.id = some d.review := find?_putAmong d.review t.reviews
  have hname : (Named.ofName? (Named.name status) : Option ReviewStatus) = some status :=
    ReviewStatus.ofName?_eq_some_iff.2 rfl
  have hguard : db.statement [.text (Named.name status), .int d.review.id, .text d.review.run] = .ok () :=
    h.statement_ok (by simp [Param.fault?_eq_none_iff, hfits])
  unfold move
  rw [h.statement_int, if_pos hfits, ht, hreview]
  simp only [Option.toList_some, List.map_cons, List.map_nil, hguard, hname, hmay, if_true, bind, Except.bind]
  rw [updateReview_place t d rfl]
  rfl

/-- Whether the rows of an analysis can be written does not depend on the review, as long as its id fits. -/
theorem fault?_paramsOfRows {id : Int} (hid : fitsColumn id = true) (status : Text) (analysis : Analysis)
    (complexity : Int) :
    Param.fault? (paramsOfRows id status analysis complexity) =
      Param.fault? (paramsOfRows 0 status analysis complexity) := by
  have hint : Param.failure? id = none := by simp [Param.failure?, hid]
  have hzero : Param.failure? (.int 0) = none := rfl
  have hissues (is : List Issue) :
      Param.fault? (is.flatMap (paramsOfIssue id analysis.filename)) =
        Param.fault? (is.flatMap (paramsOfIssue 0 analysis.filename)) := by
    unfold Param.fault?
    induction is with
    | nil => rfl
    | cons i is ih =>
      rw [List.flatMap_cons, List.flatMap_cons, List.findSome?_append, List.findSome?_append, ih]
      simp [paramsOfIssue, hint, hzero]
  unfold Param.fault? at hissues ⊢
  rw [paramsOfRows, paramsOfRows, List.findSome?_append, List.findSome?_append, hissues]
  simp [paramsOfAnalysis, hint, hzero]

/-- Recording an analysis on behalf of the run of the dossier in place. -/
theorem addAnalysis_place (h : db.Available) (ht : db.tables = t.place d) (hfits : fitsColumn d.review.id = true)
    (ha : d.review.status.isActive = true) {status : Text} {analysis : Analysis} {complexity : Int}
    (hparams : Param.fault? (paramsOfRows d.review.id status analysis complexity) = none) :
    db.addAnalysis d.review.id d.review.run status analysis complexity =
      .ok (true, t.place (d.extended
        (rowOfAnalysis db.tables.nextFileChangeId d.review.id status analysis complexity)
        (rowsOfIssues db.tables.nextCommentId d.review.id analysis.filename analysis.issues))) := by
  have hreview : (t.place d).review? d.review.id = some d.review := find?_putAmong d.review t.reviews
  unfold addAnalysis
  rw [h.statement_int, if_pos hfits, h.statement_ok hparams, ht, hreview]
  simp only [if_true, Option.any_some, mayRecord, beq_self_eq_true, ha, Bool.and_self]
  exact congrArg (fun t => Except.ok (true, t)) (addRows_place t d _ _)

theorem addAnalysis_error (h : db.Available) (ht : db.tables = t.place d) (hfits : fitsColumn d.review.id = true)
    (ha : d.review.status.isActive = true) {status : Text} {analysis : Analysis} {complexity : Int} {e : Failure}
    (hparams : Param.fault? (paramsOfRows d.review.id status analysis complexity) = some e) :
    db.addAnalysis d.review.id d.review.run status analysis complexity = .error e := by
  have hreview : (t.place d).review? d.review.id = some d.review := find?_putAmong d.review t.reviews
  unfold addAnalysis
  rw [h.statement_int, if_pos hfits, h.statement_error hparams, ht, hreview]
  simp only [if_true, Option.any_some, mayRecord, beq_self_eq_true, ha, Bool.and_self]
  rfl

end Database

end PullReview
