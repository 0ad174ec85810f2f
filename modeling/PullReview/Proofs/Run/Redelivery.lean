import PullReview.Proofs.Store.Repetition
import PullReview.Proofs.Run.Arrival

/-!
# Deliveries that come in again

Handling a delivery twice in a row leaves the tables that handling it once leaves, but for runs, times and
the ids of derived rows (`redelivery_idempotent`). Closing, uninstalling and removing repositories leave
the very same database.
-/

namespace PullReview

/-! ## What the tables hold -/

namespace Tables

/-- What the tables hold whatever the runs, the times and the ids of derived rows. -/
def content (t : Tables) : Tables :=
  { t with
    reviews := t.reviews.map Review.content
    fileChanges := t.fileChanges.map FileChange.content
    comments := t.comments.map Comment.content
    installations := t.installations.map Installation.content }

theorem SameButTimes.content_eq {t t' : Tables} (h : t.SameButTimes t') : t'.content = t.content := by
  rw [h.eq, content, content, h.installations]

end Tables

namespace Dossier

variable {d e : Dossier}

/-- Where the derived rows name their review, only their own ids are lost. -/
theorem Coherent.map_content (h : d.Coherent) :
    d.fileChanges.map FileChange.content = d.bare.fileChanges.map ({ · with review := d.review.id }) ∧
      d.comments.map Comment.content = d.bare.comments.map ({ · with review := d.review.id }) := by
  simp only [bare, List.map_map]
  constructor
  · refine List.map_congr_left fun f hf => ?_
    simp only [Function.comp_apply, FileChange.content, h.fileChanges f hf]
  · refine List.map_congr_left fun c hc => ?_
    simp only [Function.comp_apply, Comment.content, h.comments c hc]

theorem content_review_eq (hid : d.review.id = e.review.id) (hbare : d.bare = e.bare) :
    d.review.content = e.review.content := by
  have hreview := congrArg (fun b => { b.review with id := d.review.id }) hbare
  refine Eq.trans ?_ (hreview.trans ?_)
  · rfl
  · rw [hid]
    rfl

end Dossier

theorem Tables.map_content_putAmong {r s : Review} (hid : r.id = s.id) (hcontent : r.content = s.content)
    (reviews : List Review) :
    (putAmong r reviews).map Review.content = (putAmong s reviews).map Review.content := by
  unfold putAmong
  rw [hid]
  split
  · rw [List.map_map, List.map_map]
    refine List.map_congr_left fun q _ => ?_
    by_cases hq : q.id = s.id
    · simp only [Function.comp_apply, hq, if_true, hcontent]
    · simp only [Function.comp_apply, hq, if_false]
  · simp [hcontent]

/-- Placing one dossier or another of which the same is known. -/
theorem Tables.content_place {d e : Dossier} (hd : d.Coherent) (he : e.Coherent) (hid : d.review.id = e.review.id)
    (hbare : d.bare = e.bare) (t : Tables) : (t.place d).content = (t.place e).content := by
  obtain ⟨hdf, hdc⟩ := hd.map_content
  obtain ⟨hef, hec⟩ := he.map_content
  simp only [content, place, List.map_append, hdf, hdc, hef, hec, hid, hbare,
    map_content_putAmong hid (Dossier.content_review_eq hid hbare)]

/-! ## The same review carried twice -/

namespace Tables.Carries

variable {t t₁ t₂ : Tables} {ticket ticket' : Ticket} {b : Dossier}

theorem content_eq (h₁ : t₁.Carries t ticket b) (h₂ : t₂.Carries t₁ ticket' b)
    (hid : ticket'.review = ticket.review) :
    t₂.content = t₁.content := by
  obtain ⟨d, rfl, hd, hdid, -, hdb⟩ := h₁
  obtain ⟨e, rfl, he, heid, -, heb⟩ := h₂
  have hide : e.review.id = d.review.id := heid.trans (hid.trans hdid.symm)
  rw [place_place t hd hide]
  exact content_place he hd hide (heb.trans hdb.symm) t

theorem idFor_eq (h : t₁.Carries t ticket b) (hw : t₁.WellFormed) {number : Int} {repository : Text}
    (hkey : b.review.key = (number, repository)) : t₁.idFor number repository = ticket.review := by
  obtain ⟨r, hr, hid, -⟩ := h.reviewOf? hw hkey
  exact (idFor_of_reviewOf? hr).trans hid

end Tables.Carries

/-! ## Deliveries -/

namespace Event

/-- Whether a delivery takes something away. -/
def isRemoval : Event → Bool
  | pullRequestClosed .. | installationDeleted .. | repositoriesRemoved .. => true
  | reviewDue .. | installationCreated .. | repositoriesAdded .. => false

/-- The same review is due again. -/
theorem due_again {s : Service} (hw : s.database.tables.WellFormed) (ha : s.database.Available) (fetch : Fetcher)
    (action : QueueAction) (pullRequest : PullRequest) (repository : Repository) (installation : Installation)
    (worker worker' : Nat) (now now' : Moment) :
    let once := s.handled fetch ⟨worker, now, .reviewDue action pullRequest repository installation⟩
    let twice := once.handled fetch ⟨worker', now', .reviewDue action pullRequest repository installation⟩
    twice.database.tables.content = once.database.tables.content := by
  intro once twice
  have hw₁ : once.database.tables.WellFormed := Service.handled_wellFormed fetch hw _
  have ha₁ : once.database.Available := Service.handled_available fetch ha _
  by_cases hfits : pullRequest.Fits repository installation
  · have hcarries := Service.handled_due fetch worker now action pullRequest repository installation hw ha hfits
    have hcarries' := Service.handled_due fetch worker' now' action pullRequest repository installation hw₁ ha₁ hfits
    have hid := hcarries.idFor_eq hw₁ (pullRequest.reviewed_key ..)
    dsimp only at hcarries'
    rw [hid] at hcarries'
    exact hcarries.content_eq hcarries' rfl
  · exact congrArg Tables.content (Service.handled_refused fetch _ _ _ _ _ _ ha₁ hfits)

/-- A delivery of one store call comes in again. -/
theorem sole_again {event : Event} (h : event.isDue = false) (s : Service) (fetch : Fetcher) (worker worker' : Nat)
    (now now' : Moment) :
    let once := s.handled fetch ⟨worker, now, event⟩
    let twice := once.handled fetch ⟨worker', now', event⟩
    once.database.tables.SameButTimes twice.database.tables ∧
      (event.isRemoval = true → twice.database = once.database) := by
  intro once twice
  have honce : once.database = _ := Service.handled_sole fetch worker now h s
  have htwice : twice.database = _ := Service.handled_sole fetch worker' now' h once
  cases event with
  | reviewDue => cases h
  | pullRequestClosed pullRequest repository _ =>
    have hsame : twice.database = once.database := by
      rw [htwice, honce]
      exact StoreCall.perform_cancel_again ..
    exact ⟨hsame ▸ ⟨rfl, rfl⟩, fun _ => hsame⟩
  | installationCreated installation repositories =>
    refine ⟨?_, nofun⟩
    obtain ⟨id, account⟩ := installation
    cases account with
    | none =>
      rw [htwice]
      exact ⟨rfl, rfl⟩
    | some account =>
      rw [htwice, honce]
      exact (StoreCall.saveInstallation_comes ..).perform_sameButTimes rfl ..
  | installationDeleted installation =>
    have hsame : twice.database = once.database := by
      rw [htwice, honce]
      exact StoreCall.perform_dropInstallation_again ..
    exact ⟨hsame ▸ ⟨rfl, rfl⟩, fun _ => hsame⟩
  | repositoriesAdded installation repositories =>
    refine ⟨?_, nofun⟩
    rw [htwice, honce]
    exact (StoreCall.saveRepositories_comes ..).perform_sameButTimes rfl ..
  | repositoriesRemoved installation repositories =>
    have hsame : twice.database = once.database := by
      rw [htwice, honce]
      exact StoreCall.perform_dropRepositories_again ..
    exact ⟨hsame ▸ ⟨rfl, rfl⟩, fun _ => hsame⟩

end Event

/-- **Redelivery is idempotent.** In any pool whose database answers, a delivery that is handled twice in a
row leaves what it leaves the first time; one that takes something away leaves the same database. -/
theorem redelivery_idempotent {p : Pool} (h : p.Reachable Service.Drifts) (ha : p.service.database.Available)
    (fetch : Fetcher) (event : Event) (worker worker' : Nat) (now now' : Moment) :
    let once := p.service.handled fetch ⟨worker, now, event⟩
    let twice := once.handled fetch ⟨worker', now', event⟩
    twice.database.tables.content = once.database.tables.content ∧
      (event.isRemoval = true → twice.database = once.database) := by
  cases hdue : event.isDue with
  | false =>
    obtain ⟨htimes, hsame⟩ := Event.sole_again hdue p.service fetch worker worker' now now'
    exact ⟨htimes.content_eq, hsame⟩
  | true =>
    cases event with
    | reviewDue action pullRequest repository installation =>
      exact ⟨Event.due_again h.history.owned.tables ha fetch .., nofun⟩
    | _ => cases hdue

/-- A pull request is pushed to when its review is completed, and the delivery comes in twice. -/
theorem overlapping_redelivered :
    (overlapping 20).Reachable Service.Drifts ∧ (overlapping 20).service.database.Available ∧
      let once := (overlapping 20).service.handled (fun _ _ _ _ => .ok twoFiles) ⟨0, 50, dueReview .synchronize⟩
      let twice := once.handled (fun _ _ _ _ => .ok twoFiles) ⟨1, 60, dueReview .synchronize⟩
      once.database.tables.reviews.map (·.run) = ["run-3"] ∧ twice.database.tables.reviews.map (·.run) = ["run-4"] ∧
        twice.database.tables.content = once.database.tables.content ∧
        ((dueReview .synchronize).isRemoval = true → twice.database = once.database) :=
  have h : (overlapping 20).Reachable Service.Drifts := Pool.reachable_play ..
  have ha : (overlapping 20).service.database.Available := ⟨by decide +kernel, by decide +kernel⟩
  ⟨h, ha, by decide +kernel, by decide +kernel, redelivery_idempotent h ha _ (dueReview .synchronize) 0 1 50 60⟩

end PullReview
