import PullReview.Proofs.Run.Arrival

/-!
# Pull requests do not interfere

What is kept about a pull request follows from the deliveries that concern it, whatever else comes in
between, as long as its review has an id that fits a column (`no_interference`). Deliveries about others
may well give the review another id, its run another number and its rows others; so two services are
compared by what stands for the pull request (`Tables.standing?`) and by how far their ids have come
(`Service.Agrees`).
-/

namespace PullReview

/-! ## What stands for a pull request -/

/-- What is kept about a pull request, whatever the ids, the run and the times. -/
def Tables.standing? (t : Tables) (key : Int × Text) : Option Dossier :=
  (t.reviewOf? key.1 key.2).bind fun r => (t.dossier? r.id).map Dossier.bare

namespace Tables

variable {t : Tables} {key : Int × Text} {v : Int} {d : Dossier}

theorem mem_ids_iff : v ∈ t.reviews.map (·.id) ↔ ∃ d, t.dossier? v = some d := by
  rw [← review?_isSome_iff, Option.isSome_iff_exists, dossier?]
  simp only [Option.map_eq_some_iff]
  constructor
  · rintro ⟨r, hr⟩
    exact ⟨_, r, hr, rfl⟩
  · rintro ⟨_, r, hr, -⟩
    exact ⟨r, hr⟩

/-- Either the pull request has its review, or the next one is going to be its own. -/
theorem standing?_cases (hw : t.WellFormed) (key : Int × Text) :
    (∃ d, t.dossier? (t.idFor key.1 key.2) = some d ∧ d.review.key = key ∧ t.standing? key = some d.bare) ∨
      ((∀ v d, t.dossier? v = some d → d.review.key ≠ key) ∧ t.standing? key = none ∧
        t.idFor key.1 key.2 = t.nextReviewId) := by
  unfold standing? idFor
  cases hr : t.reviewOf? key.1 key.2 with
  | some r =>
    obtain ⟨hmem, hkey⟩ := reviewOf?_eq_some hr
    obtain ⟨d, hd, rfl⟩ := dossier?_of_mem hw hmem
    exact .inl ⟨d, hd, hkey, by simp [hd]⟩
  | none =>
    refine .inr ⟨fun v d hd => reviewOf?_eq_none hr (review_mem hd), rfl, rfl⟩

theorem standing?_of_dossier? (hw : t.WellFormed) (hd : t.dossier? v = some d) :
    t.standing? d.review.key = some d.bare ∧ t.idFor d.review.key.1 d.review.key.2 = v := by
  obtain ⟨e, he, hkey, hstanding⟩ | ⟨hnone, -, -⟩ := standing?_cases hw d.review.key
  · have hv := dossier?_key_inj hw he hd hkey
    rw [hv, hd, Option.some.injEq] at he
    exact ⟨he ▸ hstanding, hv⟩
  · exact absurd rfl (hnone v d hd)

theorem standing?_eq_none (hw : t.WellFormed) (h : ∀ v d, t.dossier? v = some d → d.review.key ≠ key) :
    t.standing? key = none := by
  obtain ⟨d, hd, hkey, -⟩ | ⟨-, hnone, -⟩ := standing?_cases hw key
  · exact absurd hkey (h _ d hd)
  · exact hnone

theorem one_le_nextReviewId (t : Tables) : 1 ≤ t.nextReviewId := by
  have := (le_foldl_max (t.reviews.map (·.id)) 0).1
  unfold nextReviewId nextId
  omega

theorem lt_nextReviewId (hd : t.dossier? v = some d) : v < t.nextReviewId := lt_nextId (mem_ids_iff.2 ⟨d, hd⟩)

theorem foldl_max_le {ids : List Int} {a n : Int} (ha : a ≤ n) (h : ∀ i ∈ ids, i ≤ n) : ids.foldl max a ≤ n := by
  induction ids generalizing a with
  | nil => exact ha
  | cons i ids ih =>
    exact ih (Int.max_le.2 ⟨ha, h i List.mem_cons_self⟩) fun j hj => h j (List.mem_cons_of_mem i hj)

theorem nextReviewId_le {n : Int} (hn : 1 ≤ n) (h : ∀ v d, t.dossier? v = some d → v < n) : t.nextReviewId ≤ n := by
  have hle : (t.reviews.map (·.id)).foldl max 0 ≤ n - 1 := by
    refine foldl_max_le (by omega) fun i hi => ?_
    obtain ⟨d, hd⟩ := mem_ids_iff.1 hi
    have := h i d hd
    omega
  unfold nextReviewId nextId
  omega

end Tables

/-! ## What a delivery does to what stands -/

namespace Event

/-- The delivery is about the pull request, or it takes away an installation. -/
def concerns (key : Int × Text) : Event → Bool
  | reviewDue _ pullRequest repository _ | pullRequestClosed pullRequest repository _ =>
    (pullRequest.number, repository.fullName) == key
  | installationDeleted _ => true
  | installationCreated .. | repositoriesAdded .. | repositoriesRemoved .. => false

/-- A delivery makes the review of one pull request due. -/
theorem concerns_inj {e : Event} (hdue : e.isDue = true) {key key' : Int × Text} (h : e.concerns key = true)
    (h' : e.concerns key' = true) : key = key' := by
  cases e with
  | reviewDue => exact (beq_iff_eq.1 h).symm.trans (beq_iff_eq.1 h')
  | _ => cases hdue

/-- The reviews that a delivery cancels if they are active. -/
def cancels : Event → Review → Bool
  | pullRequestClosed pullRequest repository _, r =>
    fitsColumn pullRequest.number && repository.fullName.isPlain &&
      (r.number == pullRequest.number && r.repository == repository.fullName)
  | installationDeleted installation, r => fitsColumn installation.id && r.installation == installation.id
  | _, _ => false

/-- The reason that a delivery gives for cancelling. -/
def reason : Event → Text
  | installationDeleted _ => "installation_deleted"
  | _ => Progress.closedReason

/-- A dossier after a delivery that makes no review due. -/
def passed (e : Event) (now : Moment) (d : Dossier) : Dossier :=
  if e.cancels d.review && d.review.status.isActive then d.cancelled now e.reason else d

theorem passed_bare (e : Event) (now : Moment) (d : Dossier) : (e.passed now d).bare = e.passed 0 d.bare := by
  have hcancels : e.cancels d.bare.review = e.cancels d.review := by cases e <;> rfl
  unfold passed
  rw [hcancels]
  show _ = if (e.cancels d.review && d.review.status.isActive) = true then _ else _
  split
  · exact d.bare_moved ..
  · rfl

theorem passed_key (e : Event) (now : Moment) (d : Dossier) : (e.passed now d).review.key = d.review.key := by
  unfold passed
  split <;> rfl

theorem passed_of_not_concerns {e : Event} (h : e.concerns key = false) {d : Dossier} (hkey : d.review.key = key)
    (now : Moment) : e.passed now d = d := by
  refine if_neg ?_
  cases e with
  | pullRequestClosed pullRequest repository _ =>
    subst hkey
    simp only [concerns, Review.key, beq_eq_false_iff_ne, ne_eq, Prod.mk.injEq, not_and] at h
    simp only [cancels, Bool.and_eq_true, beq_iff_eq]
    rintro ⟨⟨-, hnumber, hrepository⟩, -⟩
    exact h hnumber.symm hrepository.symm
  | installationDeleted => cases h
  | _ => simp [cancels]

/-- What a delivery makes of what stands for a pull request, of which a review is queued under an id that fits
or does not. -/
def leaves (fetch : Fetcher) (key : Int × Text) (idFits : Bool) (b : Option Dossier) : Event → Option Dossier
  | reviewDue _ pullRequest repository installation =>
    if (pullRequest.number, repository.fullName) = key ∧ pullRequest.Fits repository installation then
      some (pullRequest.reviewed repository installation idFits (pullRequest.fetched repository installation fetch))
    else b
  | e => b.map (e.passed 0)

theorem leaves_of_not_due {e : Event} (h : e.isDue = false) (fetch : Fetcher) (key : Int × Text) (idFits : Bool)
    (b : Option Dossier) : e.leaves fetch key idFits b = b.map (e.passed 0) := by
  cases e with
  | reviewDue => cases h
  | _ => rfl

theorem leaves_of_not_concerns {e : Event} (h : e.concerns key = false) (fetch : Fetcher) (idFits : Bool)
    {b : Option Dossier} (hb : ∀ d ∈ b, d.review.key = key) : e.leaves fetch key idFits b = b := by
  cases hdue : e.isDue with
  | true =>
    cases e with
    | reviewDue => exact if_neg fun hk => by simp [concerns, hk.1] at h
    | _ => cases hdue
  | false =>
    rw [leaves_of_not_due hdue]
    cases b with
    | none => rfl
    | some d => exact congrArg some (passed_of_not_concerns h (hb d rfl) 0)

end Event

/-! ## One delivery -/

namespace StoreCall

variable {call : StoreCall} {now : Moment} {db : Database}

theorem perform_tables {result : call.Reply × Tables} (h : call.transaction db now = .ok result) :
    (call.perform now db).2.tables = result.2 := by
  rw [perform, h]

theorem perform_tables_of_error {e : Failure} (h : call.transaction db now = .error e) :
    (call.perform now db).2.tables = db.tables := by
  rw [perform, h]

end StoreCall

namespace Service

open Database

variable {s : Service} {key : Int × Text} (fetch : Fetcher) (worker : Nat) (now : Moment)

/-- Cancelling what fits, dossier by dossier. -/
theorem cancelAll_dossier? (t : Tables) (reason : Text) (fits : Review → Bool) (v : Int) :
    (cancelAll t now reason fits).2.dossier? v =
      (t.dossier? v).map fun d =>
        if (fits d.review && d.review.status.isActive) = true then d.cancelled now reason else d := by
  refine (Tables.dossier?_mapReviews t (fun r => by split <;> rfl) v).trans (congrArg (Option.map · _) ?_)
  funext d
  simp only [Bool.and_eq_true, ReviewStatus.contains_sources, ← ReviewStatus.isActive_iff]
  split <;> rfl

/-- A call that cancels what fits where it can bind its values, and fails where it cannot, dossier by dossier. -/
theorem perform_cancelling {call : StoreCall} {db : Database} {binds : Bool} {v : Int} (reason : Text)
    (fits : Review → Bool)
    (hok : binds = true → ∃ result, call.transaction db now = .ok result ∧
      result.2.dossier? v = (cancelAll db.tables now reason fits).2.dossier? v)
    (hno : binds = false → ∃ e, call.transaction db now = .error e) :
    (call.perform now db).2.tables.dossier? v =
      (db.tables.dossier? v).map fun d =>
        if (binds && fits d.review && d.review.status.isActive) = true then d.cancelled now reason else d := by
  cases binds with
  | true =>
    obtain ⟨result, hresult, hv⟩ := hok rfl
    rw [StoreCall.perform_tables hresult, hv, cancelAll_dossier?]
    simp only [Bool.true_and]
  | false =>
    obtain ⟨e, he⟩ := hno rfl
    rw [StoreCall.perform_tables_of_error he]
    simp

/-- The review of a pull request is cancelled if its key can be bound. -/
theorem perform_cancel {db : Database} (ha : db.Available) (number : Int) (repository reason : Text) (v : Int) :
    ((StoreCall.cancel number repository reason).perform now db).2.tables.dossier? v =
      (db.tables.dossier? v).map fun d =>
        if (fitsColumn number && repository.isPlain &&
          (d.review.number == number && d.review.repository == repository) && d.review.status.isActive) = true then
          d.cancelled now reason else d := by
  have hbinds : Param.fault? [number, repository] = none ↔ (fitsColumn number && repository.isPlain) = true := by
    simp [Param.fault?_eq_none_iff]
  refine perform_cancelling now reason (fun r => r.number == number && r.repository == repository) (fun h => ?_)
    fun h => ?_
  · refine ⟨cancelAll db.tables now reason fun r => r.number == number && r.repository == repository, ?_, rfl⟩
    rw [StoreCall.transaction, cancel, ha.statement_ok (hbinds.2 h)]
    rfl
  · cases hparams : Param.fault? [number, repository] with
    | none => simp [hbinds.1 hparams] at h
    | some e =>
      refine ⟨e, ?_⟩
      rw [StoreCall.transaction, cancel, ha.statement_error hparams]
      rfl

/-- The reviews of an installation are cancelled if its id can be bound. -/
theorem perform_dropInstallation {db : Database} (ha : db.Available) (installation v : Int) :
    ((StoreCall.dropInstallation installation).perform now db).2.tables.dossier? v =
      (db.tables.dossier? v).map fun d =>
        if (fitsColumn installation && d.review.installation == installation && d.review.status.isActive) = true then
          d.cancelled now "installation_deleted" else d := by
  have hstatement := ha.statement_int installation
  refine perform_cancelling now "installation_deleted" (·.installation == installation) (fun h => ?_) fun h => ?_
  · rw [if_pos h] at hstatement
    rw [StoreCall.transaction, dropInstallation, hstatement]
    exact ⟨_, rfl, rfl⟩
  · rw [if_neg (by simp [h])] at hstatement
    refine ⟨.integerRange, ?_⟩
    rw [StoreCall.transaction, dropInstallation, hstatement]
    rfl

/-- A call that leaves the reviews as they are whenever it succeeds. -/
theorem perform_frame (call : StoreCall) {db : Database} (hw : db.tables.WellFormed)
    (h : ∀ {t : Tables} {reply : call.Reply}, call.Turns now db t reply → ∀ v, t.dossier? v = db.tables.dossier? v)
    (v : Int) : (call.perform now db).2.tables.dossier? v = db.tables.dossier? v := by
  cases hcall : call.perform now db with
  | mk reply db' =>
    cases reply with
    | ok reply => exact h (StoreCall.transaction_turns hw (StoreCall.perform_ok hcall).1).2 v
    | error e => rw [(StoreCall.perform_error hcall).1]

/-- A delivery that makes no review due passes over every dossier. -/
theorem handled_dossier? (hw : s.database.tables.WellFormed) (ha : s.database.Available) {event : Event}
    (h : event.isDue = false) (v : Int) :
    (s.handled fetch ⟨worker, now, event⟩).database.tables.dossier? v =
      (s.database.tables.dossier? v).map (event.passed now) := by
  have hkept : (∀ r, event.cancels r = false) → event.passed now = id := by
    intro hno
    funext d
    exact if_neg (by simp [hno])
  rw [handled_sole fetch worker now h s]
  cases event with
  | reviewDue => cases h
  | pullRequestClosed pullRequest repository _ =>
    exact perform_cancel now ha pullRequest.number repository.fullName Progress.closedReason v
  | installationDeleted installation => exact perform_dropInstallation now ha installation.id v
  | installationCreated installation repositories =>
    rw [hkept fun r => rfl, Option.map_id, id_eq]
    obtain ⟨id, account⟩ := installation
    cases account with
    | none => rfl
    | some account => exact perform_frame now (.saveInstallation ..) hw (fun h => h) v
  | repositoriesAdded =>
    rw [hkept fun r => rfl, Option.map_id, id_eq]
    exact perform_frame now (.saveRepositories ..) hw (fun h => h) v
  | repositoriesRemoved =>
    rw [hkept fun r => rfl, Option.map_id, id_eq]
    exact perform_frame now (.dropRepositories ..) hw (fun h => h) v

section Due

variable (action : QueueAction) (pullRequest : Event.PullRequest) (repository : Event.Repository)
  (installation : Event.Installation)

/-- A delivery that makes a review due replaces the dossier of its pull request. -/
theorem handled_due_dossier? (hw : s.database.tables.WellFormed) (ha : s.database.Available)
    (hfits : pullRequest.Fits repository installation) :
    let id := s.database.tables.idFor pullRequest.number repository.fullName
    ∃ d, d.review.key = (pullRequest.number, repository.fullName) ∧
      d.bare = pullRequest.reviewed repository installation (fitsColumn id)
        (pullRequest.fetched repository installation fetch) ∧
      ∀ v,
        (s.handled fetch ⟨worker, now, .reviewDue action pullRequest repository installation⟩).database.tables.dossier?
            v = if v = id then some d else s.database.tables.dossier? v := by
  obtain ⟨d, ht, hd, hid, -, hbare⟩ :=
    handled_due fetch worker now action pullRequest repository installation hw ha hfits
  refine ⟨d, ?_, hbare, fun v => ?_⟩
  · rw [show d.review.key = d.bare.review.key from rfl, hbare]
    exact pullRequest.reviewed_key ..
  · rw [ht, Tables.dossier?_place s.database.tables hd, hid]

end Due

/-- A delivery passes over every dossier or puts that of a pull request in place. -/
theorem handled_cases (hw : s.database.tables.WellFormed) (ha : s.database.Available) (a : Arrival) :
    (∀ v, (s.handled fetch a).database.tables.dossier? v =
      (s.database.tables.dossier? v).map (a.event.passed a.now)) ∨
    ∃ d, a.event.isDue = true ∧ a.event.concerns d.review.key = true ∧
      ∀ v, (s.handled fetch a).database.tables.dossier? v =
        if v = s.database.tables.idFor d.review.key.1 d.review.key.2 then some d
        else s.database.tables.dossier? v := by
  obtain ⟨worker, now, event⟩ := a
  cases hdue : event.isDue with
  | false => exact .inl (handled_dossier? fetch worker now hw ha hdue)
  | true =>
    cases event with
    | reviewDue action pullRequest repository installation =>
      by_cases hfits : pullRequest.Fits repository installation
      · obtain ⟨d, hkey, -, ht⟩ :=
          handled_due_dossier? fetch worker now action pullRequest repository installation hw ha hfits
        exact .inr ⟨d, rfl, by rw [hkey]; exact beq_self_eq_true _, by rw [hkey]; exact ht⟩
      · refine .inl fun v => ?_
        rw [handled_refused fetch worker now action pullRequest repository installation ha hfits]
        cases s.database.tables.dossier? v <;> rfl
    | _ => cases hdue

/-- The review under the id for a pull request is of that pull request. -/
theorem dossier?_idFor_key {t : Tables} (hw : t.WellFormed) {key : Int × Text} {d : Dossier}
    (hd : t.dossier? (t.idFor key.1 key.2) = some d) : d.review.key = key :=
  Tables.key_of_id_eq_idFor hw (Tables.review_mem hd) (Tables.dossier?_id hd)

/-- A review stays with its pull request. -/
theorem handled_keeps (hw : s.database.tables.WellFormed) (ha : s.database.Available) (a : Arrival) {v : Int}
    {d : Dossier} (hd : s.database.tables.dossier? v = some d) :
    ∃ e, (s.handled fetch a).database.tables.dossier? v = some e ∧ e.review.key = d.review.key := by
  obtain ht | ⟨e, -, -, ht⟩ := handled_cases fetch hw ha a
  · exact ⟨_, (ht v).trans (congrArg _ hd), a.event.passed_key a.now d⟩
  · rw [ht]
    split
    · rename_i hv
      exact ⟨e, rfl, (dossier?_idFor_key hw (hv ▸ hd)).symm⟩
    · exact ⟨d, hd, rfl⟩

/-- A review that is new is due, and it has the id that was next for its pull request. -/
theorem handled_new (hw : s.database.tables.WellFormed) (ha : s.database.Available) (a : Arrival) {v : Int}
    {e : Dossier} (he : (s.handled fetch a).database.tables.dossier? v = some e) :
    (∃ d, s.database.tables.dossier? v = some d) ∨
      a.event.isDue = true ∧ a.event.concerns e.review.key = true ∧
        v = s.database.tables.idFor e.review.key.1 e.review.key.2 := by
  obtain ht | ⟨d, hdue, hconcerns, ht⟩ := handled_cases fetch hw ha a
  · rw [ht] at he
    obtain ⟨d, hd, -⟩ := Option.map_eq_some_iff.1 he
    exact .inl ⟨d, hd⟩
  · rw [ht] at he
    split at he
    · rename_i hv
      cases he
      exact .inr ⟨hdue, hconcerns, hv⟩
    · exact .inl ⟨e, he⟩

/-- What stands for a pull request whose dossier is passed over. -/
theorem standing?_passed {t t' : Tables} (hw : t.WellFormed) (hw' : t'.WellFormed) {event : Event}
    (ht : ∀ v, t'.dossier? v = (t.dossier? v).map (event.passed now)) (key : Int × Text) :
    t'.standing? key = (t.standing? key).map (event.passed 0) := by
  obtain ⟨d, hd, hkey, hstanding⟩ | ⟨hnone, hstanding, -⟩ := t.standing?_cases hw key
  · have hstanding' := (t'.standing?_of_dossier? hw' ((ht _).trans (congrArg _ hd))).1
    rw [event.passed_key now d, hkey] at hstanding'
    rw [hstanding', hstanding, event.passed_bare now d]
    rfl
  · rw [hstanding]
    refine t'.standing?_eq_none hw' fun v e he => ?_
    rw [ht] at he
    obtain ⟨d, hd, rfl⟩ := Option.map_eq_some_iff.1 he
    exact event.passed_key now d ▸ hnone v d hd

/-- What stands for a pull request when the dossier of one is put in place. -/
theorem standing?_put {t t' : Tables} (hw : t.WellFormed) (hw' : t'.WellFormed) {d : Dossier}
    (ht : ∀ v, t'.dossier? v = if v = t.idFor d.review.key.1 d.review.key.2 then some d else t.dossier? v)
    (key : Int × Text) : t'.standing? key = if d.review.key = key then some d.bare else t.standing? key := by
  split
  · subst_vars
    exact (t'.standing?_of_dossier? hw' ((ht _).trans (if_pos rfl))).1
  · rename_i hne
    obtain ⟨e, he, hkey, hstanding⟩ | ⟨hnone, hstanding, -⟩ := t.standing?_cases hw key
    · have hother : t.idFor key.1 key.2 ≠ t.idFor d.review.key.1 d.review.key.2 := by
        intro h
        exact hne ((dossier?_idFor_key hw (h ▸ he)).symm.trans hkey)
      rw [hstanding, ← (t'.standing?_of_dossier? hw' ((ht _).trans ((if_neg hother).trans he))).1, hkey]
    · rw [hstanding]
      refine t'.standing?_eq_none hw' fun v e he => ?_
      rw [ht] at he
      split at he
      · cases he
        exact hne
      · exact hnone v e he

/-- The step: what stands for a pull request after a delivery follows from what stood before. -/
theorem handled_standing? (hw : s.database.tables.WellFormed) (ha : s.database.Available) (a : Arrival)
    (key : Int × Text) :
    (s.handled fetch a).database.tables.standing? key =
      a.event.leaves fetch key (fitsColumn (s.database.tables.idFor key.1 key.2))
        (s.database.tables.standing? key) := by
  have hw' := handled_wellFormed fetch hw a
  obtain ⟨worker, now, event⟩ := a
  cases hdue : event.isDue with
  | false =>
    rw [Event.leaves_of_not_due hdue]
    exact standing?_passed now hw hw' (handled_dossier? fetch worker now hw ha hdue) key
  | true =>
    cases event with
    | reviewDue action pullRequest repository installation =>
      simp only [Event.leaves]
      by_cases hfits : pullRequest.Fits repository installation
      · obtain ⟨d, hkey, hbare, ht⟩ :=
          handled_due_dossier? fetch worker now action pullRequest repository installation hw ha hfits
        rw [standing?_put hw hw' (by rw [hkey]; exact ht), hkey, hbare]
        by_cases hk : (pullRequest.number, repository.fullName) = key
        · subst hk
          rw [if_pos rfl, if_pos ⟨rfl, hfits⟩]
        · rw [if_neg hk, if_neg fun h => hk h.1]
      · rw [handled_refused fetch worker now action pullRequest repository installation ha hfits,
          if_neg fun h => hfits h.2]
    | _ => cases hdue

/-! ## Ids -/

theorem nextReviewId_le_handled (hw : s.database.tables.WellFormed) (ha : s.database.Available) (a : Arrival) :
    s.database.tables.nextReviewId ≤ (s.handled fetch a).database.tables.nextReviewId := by
  refine Tables.nextReviewId_le (Tables.one_le_nextReviewId _) fun v d hd => ?_
  obtain ⟨e, he, -⟩ := handled_keeps fetch hw ha a hd
  exact Tables.lt_nextReviewId he

/-- The review of a pull request is under the id it had or was to have. -/
theorem idFor_handled (hw : s.database.tables.WellFormed) (ha : s.database.Available) (a : Arrival)
    (h : (s.handled fetch a).database.tables.standing? key ≠ none) :
    (s.handled fetch a).database.tables.idFor key.1 key.2 = s.database.tables.idFor key.1 key.2 := by
  obtain ⟨e, he, hkey, -⟩ | ⟨-, hnone, -⟩ := Tables.standing?_cases (handled_wellFormed fetch hw a) key
  · obtain ⟨d, hd⟩ | ⟨-, -, hid⟩ := handled_new fetch hw ha a he
    · obtain ⟨e', he', hkey'⟩ := handled_keeps fetch hw ha a hd
      rw [he, Option.some.injEq] at he'
      subst he'
      rw [← hkey, hkey']
      exact ((Tables.standing?_of_dossier? hw hd).2.trans (by rw [← hkey', hkey])).symm
    · rw [hid, hkey]
  · exact absurd hnone h

/-! ## Two services -/

/-- The same stands for a pull request in two services that answer, and in the second the ids have come no
further. -/
structure Agrees (key : Int × Text) (s₁ s₂ : Service) : Prop where
  tables₁ : s₁.database.tables.WellFormed
  tables₂ : s₂.database.tables.WellFormed
  available₁ : s₁.database.Available
  available₂ : s₂.database.Available
  standing : s₂.database.tables.standing? key = s₁.database.tables.standing? key
  next : s₂.database.tables.nextReviewId ≤ s₁.database.tables.nextReviewId
  ids : s₂.database.tables.idFor key.1 key.2 = s₁.database.tables.idFor key.1 key.2 ∨
    1 ≤ s₂.database.tables.idFor key.1 key.2 ∧
      s₂.database.tables.idFor key.1 key.2 ≤ s₁.database.tables.idFor key.1 key.2

namespace Agrees

variable {s₁ s₂ : Service}

theorem refl (hw : s.database.tables.WellFormed) (ha : s.database.Available) : Agrees key s s :=
  ⟨hw, hw, ha, ha, rfl, Int.le_refl _, .inl rfl⟩

/-- While there is no review of the pull request, its id is the next one. -/
theorem ids_of_none {t₁ t₂ : Tables} (hw₁ : t₁.WellFormed) (hw₂ : t₂.WellFormed)
    (hstanding : t₂.standing? key = t₁.standing? key) (hnone : t₁.standing? key = none)
    (hnext : t₂.nextReviewId ≤ t₁.nextReviewId) :
    1 ≤ t₂.idFor key.1 key.2 ∧ t₂.idFor key.1 key.2 ≤ t₁.idFor key.1 key.2 := by
  obtain ⟨_, -, -, h⟩ | ⟨-, -, hid₁⟩ := t₁.standing?_cases hw₁ key
  · rw [hnone] at h
    cases h
  obtain ⟨_, -, -, h⟩ | ⟨-, -, hid₂⟩ := t₂.standing?_cases hw₂ key
  · rw [hstanding, hnone] at h
    cases h
  rw [hid₁, hid₂]
  exact ⟨t₂.one_le_nextReviewId, hnext⟩

/-- The step of a delivery about something else, which the second service does not get. -/
theorem step_left (h : Agrees key s₁ s₂) (a : Arrival) (hc : a.event.concerns key = false) :
    Agrees key (s₁.handled fetch a) s₂ := by
  have hw := handled_wellFormed fetch h.tables₁ a
  have hkept : (s₁.handled fetch a).database.tables.standing? key = s₁.database.tables.standing? key := by
    rw [handled_standing? fetch h.tables₁ h.available₁ a key]
    refine Event.leaves_of_not_concerns hc fetch _ fun d hd => ?_
    obtain ⟨e, -, hkey, he⟩ | ⟨-, hnone, -⟩ := Tables.standing?_cases h.tables₁ key
    · rw [he, Option.mem_some_iff] at hd
      exact hd ▸ hkey
    · rw [hnone] at hd
      cases hd
  have hstanding := h.standing.trans hkept.symm
  have hnext := Int.le_trans h.next (nextReviewId_le_handled fetch h.tables₁ h.available₁ a)
  refine ⟨hw, h.tables₂, handled_available fetch h.available₁ a, h.available₂, hstanding, hnext, ?_⟩
  by_cases hnone : (s₁.handled fetch a).database.tables.standing? key = none
  · exact .inr (ids_of_none hw h.tables₂ hstanding hnone hnext)
  · rw [idFor_handled fetch h.tables₁ h.available₁ a hnone]
    exact h.ids

/-- A smaller id fits as well. -/
theorem fits_of_fits (h : Agrees key s₁ s₂) (hfits : fitsColumn (s₁.database.tables.idFor key.1 key.2) = true) :
    fitsColumn (s₂.database.tables.idFor key.1 key.2) = true := by
  obtain heq | ⟨hone, hle⟩ := h.ids
  · rw [heq, hfits]
  · simp only [fitsColumn, Bool.and_eq_true, decide_eq_true_eq] at hfits ⊢
    omega

/-- The same is left by a delivery that both services get, the ids being no hindrance. -/
theorem leaves_eq (h : Agrees key s₁ s₂) (a : Arrival)
    (hfits : (s₁.handled fetch a).database.tables.standing? key ≠ none →
      fitsColumn (s₁.database.tables.idFor key.1 key.2) = true) :
    (s₂.handled fetch a).database.tables.standing? key = (s₁.handled fetch a).database.tables.standing? key := by
  have hleft := handled_standing? fetch h.tables₁ h.available₁ a key
  rw [handled_standing? fetch h.tables₂ h.available₂ a key, h.standing]
  by_cases hid : fitsColumn (s₁.database.tables.idFor key.1 key.2) = true
  · rw [hleft, hid, h.fits_of_fits hid]
  · have hnone : (s₁.handled fetch a).database.tables.standing? key = none := not_not.1 (mt hfits hid)
    rw [hnone] at hleft ⊢
    -- nothing is left of any review, so none is queued, and its id does not matter
    obtain ⟨worker, now, event⟩ := a
    cases event with
    | reviewDue =>
      simp only [Event.leaves] at hleft ⊢
      split at hleft
      · cases hleft
      · rename_i hno
        rw [if_neg hno, ← hleft]
    | _ => exact hleft.symm

/-- The step of a delivery that both services get. -/
theorem step_both (h : Agrees key s₁ s₂) (a : Arrival) (hc : a.event.concerns key = true)
    (hfits : (s₁.handled fetch a).database.tables.standing? key ≠ none →
      fitsColumn (s₁.database.tables.idFor key.1 key.2) = true) :
    Agrees key (s₁.handled fetch a) (s₂.handled fetch a) := by
  have hw₁ := handled_wellFormed fetch h.tables₁ a
  have hw₂ := handled_wellFormed fetch h.tables₂ a
  have hstanding := h.leaves_eq fetch a hfits
  have hnext : (s₂.handled fetch a).database.tables.nextReviewId ≤
      (s₁.handled fetch a).database.tables.nextReviewId := by
    have hgrows := nextReviewId_le_handled fetch h.tables₁ h.available₁ a
    have hbefore := h.next
    refine Tables.nextReviewId_le (Tables.one_le_nextReviewId _) fun v e he => ?_
    have hold : ∀ d, s₂.database.tables.dossier? v = some d → v < s₂.database.tables.nextReviewId :=
      fun d hd => Tables.lt_nextReviewId hd
    obtain ⟨d, hd⟩ | ⟨hdue, hconcerns, hv⟩ := handled_new fetch h.tables₂ h.available₂ a he
    · have := hold d hd
      omega
    · -- the review is new in the second service; its id is no greater than in the first, where it is taken
      obtain rfl := Event.concerns_inj hdue hc hconcerns
      have hsome : (s₁.handled fetch a).database.tables.standing? e.review.key ≠ none := by
        rw [← hstanding, (Tables.standing?_of_dossier? hw₂ he).1]
        nofun
      obtain ⟨d, hd, -, -⟩ | ⟨-, hnone, -⟩ := Tables.standing?_cases hw₁ e.review.key
      · have htaken := Tables.lt_nextReviewId hd
        rw [idFor_handled fetch h.tables₁ h.available₁ a hsome] at htaken
        obtain heq | ⟨-, hle⟩ := h.ids <;> omega
      · exact absurd hnone hsome
  refine ⟨hw₁, hw₂, handled_available fetch h.available₁ a, handled_available fetch h.available₂ a, hstanding, hnext,
    ?_⟩
  by_cases hnone : (s₁.handled fetch a).database.tables.standing? key = none
  · exact .inr (ids_of_none hw₁ hw₂ hstanding hnone hnext)
  · rw [idFor_handled fetch h.tables₁ h.available₁ a hnone,
      idFor_handled fetch h.tables₂ h.available₂ a (hstanding ▸ hnone)]
    exact h.ids

end Agrees

/-! ## Many deliveries -/

/-- The service after some deliveries have been handled one after the other. -/
def handledAll (fetch : Fetcher) (s : Service) (arrivals : List Arrival) : Service := arrivals.foldl (handled fetch) s

theorem handledAll_keeps (hw : s.database.tables.WellFormed) (ha : s.database.Available) (arrivals : List Arrival)
    {v : Int} {d : Dossier} (hd : s.database.tables.dossier? v = some d) :
    ∃ e, (s.handledAll fetch arrivals).database.tables.dossier? v = some e ∧ e.review.key = d.review.key := by
  induction arrivals generalizing s d with
  | nil => exact ⟨d, hd, rfl⟩
  | cons a arrivals ih =>
    obtain ⟨e, he, hkey⟩ := handled_keeps fetch hw ha a hd
    obtain ⟨e', he', hkey'⟩ := ih (handled_wellFormed fetch hw a) (handled_available fetch ha a) he
    exact ⟨e', he', hkey'.trans hkey⟩

/-- The run lemma: two services that agree on a pull request go on to agree when the second gets only the
deliveries that concern it. -/
theorem Agrees.handledAll {s₁ s₂ : Service} (h : Agrees key s₁ s₂) (arrivals : List Arrival)
    (hfits : ∀ r ∈ (s₁.handledAll fetch arrivals).database.tables.reviews, r.key = key → fitsColumn r.id = true) :
    Agrees key (s₁.handledAll fetch arrivals) (s₂.handledAll fetch (arrivals.filter (·.event.concerns key))) := by
  induction arrivals generalizing s₁ s₂ with
  | nil => exact h
  | cons a arrivals ih =>
    by_cases hc : a.event.concerns key = true
    · rw [List.filter_cons_of_pos (p := fun a : Arrival => a.event.concerns key) hc]
      refine ih (h.step_both fetch a hc fun hsome => ?_) hfits
      -- the review that stands after this delivery is still there in the end
      have hw := handled_wellFormed fetch h.tables₁ a
      obtain ⟨d, hd, hkey, -⟩ | ⟨-, hnone, -⟩ := Tables.standing?_cases hw key
      · obtain ⟨e, he, hkey'⟩ := handledAll_keeps fetch hw (handled_available fetch h.available₁ a) arrivals hd
        have hid := hfits e.review (Tables.review_mem he) (hkey'.trans hkey)
        rwa [Tables.dossier?_id he, idFor_handled fetch h.tables₁ h.available₁ a hsome] at hid
      · exact absurd hnone hsome
    · rw [List.filter_cons_of_neg (p := fun a : Arrival => a.event.concerns key) hc]
      exact ih (h.step_left fetch a (Bool.eq_false_iff.2 hc)) hfits

end Service

/-- **Pull requests do not interfere.** In any pool whose database answers, what stands for a pull request after
some deliveries stands for it after those of them that concern it, its review having an id that fits a
column. -/
theorem no_interference {p : Pool} (h : p.Reachable Service.Drifts) (ha : p.service.database.Available)
    (fetch : Fetcher) (key : Int × Text) (arrivals : List Arrival)
    (hfits : ∀ r ∈ (p.service.handledAll fetch arrivals).database.tables.reviews,
      r.key = key → fitsColumn r.id = true) :
    (p.service.handledAll fetch arrivals).database.tables.standing? key =
      (p.service.handledAll fetch (arrivals.filter (·.event.concerns key))).database.tables.standing? key :=
  ((Service.Agrees.refl h.history.owned.tables ha).handledAll fetch arrivals hfits).standing.symm

/-- Two pull requests are opened, repositories come in, another installation goes, and the pull request that
was opened first is closed. -/
def mixedArrivals : List Arrival :=
  let gadgets : Event.Repository := { id := 6, fullName := "acme/gadgets" }
  [⟨0, 1, .reviewDue .opened { number := 7 } gadgets { id := 77 }⟩, ⟨1, 2, dueReview .opened⟩,
    ⟨0, 3, .repositoriesAdded { id := 77 } [gadgets]⟩, ⟨0, 4, .installationDeleted { id := 78 }⟩,
    ⟨1, 5, .pullRequestClosed { number := 7 } gadgets none⟩]

/-- Every pull request has changed the same two files. -/
def sameFiles : Fetcher := fun _ _ _ _ => .ok twoFiles

/-- By itself, the pull request that was opened last has its review under another id. -/
theorem mixedArrivals_apart :
    let s := (Pool.play sameFiles []).service
    let own := mixedArrivals.filter (·.event.concerns (12, "acme/widgets"))
    (Pool.play sameFiles []).Reachable Service.Drifts ∧ s.database.Available ∧
      (∀ r ∈ (s.handledAll sameFiles mixedArrivals).database.tables.reviews,
        r.key = ((12, "acme/widgets") : Int × Text) → fitsColumn r.id = true) ∧
      (s.handledAll sameFiles mixedArrivals).database.tables.idFor 12 "acme/widgets" = 2 ∧
      (s.handledAll sameFiles own).database.tables.idFor 12 "acme/widgets" = 1 ∧
      (s.handledAll sameFiles mixedArrivals).database.tables.standing? (12, "acme/widgets") =
        (s.handledAll sameFiles own).database.tables.standing? (12, "acme/widgets") := by
  have hp := Pool.reachable_play Service.Drifts sameFiles []
  have ha : (Pool.play sameFiles []).service.database.Available := ⟨rfl, rfl⟩
  have hfits : ∀ r ∈ ((Pool.play sameFiles []).service.handledAll sameFiles mixedArrivals).database.tables.reviews,
      r.key = ((12, "acme/widgets") : Int × Text) → fitsColumn r.id = true := by decide +kernel
  exact ⟨hp, ha, hfits, by decide +kernel, by decide +kernel,
    no_interference hp ha sameFiles (12, "acme/widgets") mixedArrivals hfits⟩

end PullReview
