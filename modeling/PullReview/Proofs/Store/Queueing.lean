import PullReview.Proofs.Run.Superseded
import PullReview.Proofs.Store.Holdings
import PullReview.Proofs.Store.Placement

/-!
# One review for a pull request

A pull request has one review, and the review keeps its id. The ids count from one in the order in which the
pull requests were first queued, whatever else is called and however often the queueing fails in between
(`review_identity`). Queueing a pull request again makes its review what it would be in an empty database, but
for its id and its run, and touches nothing else (`queued_afresh`).
-/

namespace PullReview

/-! ## What the calls tell -/

/-- The pull request that was queued. -/
def AnsweredCall.key? (a : AnsweredCall) : Option (Int × Text) := a.ticket?.bind fun _ => a.made.call.queued?

/-- The pull requests that were queued, in the order in which each was first queued. -/
def firstQueued (made : List AnsweredCall) : List (Int × Text) := (made.filterMap AnsweredCall.key?).eraseDups

/-- Pull requests with the ids from one on. -/
def enumerated (keys : List (Int × Text)) : List ((Int × Text) × Int) :=
  keys.zipIdx.map fun e => (e.1, (e.2 : Int) + 1)

/-- Pull requests with one more behind them, unless it is one of them. -/
def enlist (keys : List (Int × Text)) : Option (Int × Text) → List (Int × Text)
  | none => keys
  | some key => if key ∈ keys then keys else keys ++ [key]

/-- The pull requests that have reviews, with the ids of these. -/
def Tables.identities (t : Tables) : List ((Int × Text) × Int) := t.reviews.map fun r => (r.key, r.id)

/-- The runs that calls draw, whether or not the calls succeed. -/
def Database.runsIssued : Database → List TimedCall → List String
  | _, [] => []
  | db, c :: calls => (if c.call.queued?.isSome then [db.nextRun] else []) ++ runsIssued (db.performed c) calls

theorem eraseDups_concat (keys : List (Int × Text)) (key : Int × Text) :
    (keys ++ [key]).eraseDups = enlist keys.eraseDups (some key) := by
  have hremove : [key].removeAll keys = if key ∈ keys then [] else [key] := by
    by_cases h : key ∈ keys <;> simp [List.removeAll, h]
  have hmem : key ∈ keys.eraseDups ↔ key ∈ keys := List.mem_eraseDups
  rw [List.eraseDups_append, hremove, enlist]
  by_cases h : key ∈ keys
  · rw [if_pos h, if_pos (hmem.2 h)]
    exact List.append_nil _
  · rw [if_neg h, if_neg (mt hmem.1 h)]
    rfl

theorem firstQueued_concat (made : List AnsweredCall) (a : AnsweredCall) :
    firstQueued (made ++ [a]) = enlist (firstQueued made) a.key? := by
  rw [firstQueued, List.filterMap_append]
  cases hkey : a.key? with
  | none =>
    have hnone : [a].filterMap AnsweredCall.key? = [] := by simp [hkey]
    rw [hnone, List.append_nil]
    rfl
  | some key =>
    have hone : [a].filterMap AnsweredCall.key? = [key] := by simp [hkey]
    rw [hone]
    exact eraseDups_concat _ key

theorem enumerated_concat (keys : List (Int × Text)) (key : Int × Text) :
    enumerated (keys ++ [key]) = enumerated keys ++ [(key, (keys.length : Int) + 1)] := by
  simp [enumerated, List.zipIdx_append]

/-! ## Reviews and their ids -/

namespace Tables

variable {t t' : Tables} {keys : List (Int × Text)}

theorem map_key_of_identities (h : t.identities = enumerated keys) : t.reviews.map Review.key = keys := by
  have hfst := congrArg (List.map Prod.fst) h
  simpa [identities, enumerated, Function.comp_def] using hfst

/-- Ids that count from one leave the next number for the next review. -/
theorem nextReviewId_of_identities (h : t.identities = enumerated keys) :
    t.nextReviewId = (keys.length : Int) + 1 := by
  have hids : t.reviews.map (·.id) = (enumerated keys).map Prod.snd := by
    rw [← h, identities, List.map_map]
    rfl
  rw [nextReviewId, hids]
  clear h hids
  induction keys using List.reverseRecOn with
  | nil => rfl
  | append_singleton keys key ih =>
    rw [enumerated_concat, List.map_append, List.map_singleton, ← ih, Database.nextId_concat, ih]
    simp

theorem mem_identities_iff (hw : t.WellFormed) {key : Int × Text} {v : Int} :
    (key, v) ∈ t.identities ↔ (t.dossier? v).map (·.review.key) = some key := by
  simp only [identities, List.mem_map, Prod.mk.injEq, Option.map_eq_some_iff]
  constructor
  · rintro ⟨r, hr, rfl, rfl⟩
    obtain ⟨d, hd, rfl⟩ := dossier?_of_mem hw hr
    exact ⟨d, hd, rfl⟩
  · rintro ⟨d, hd, rfl⟩
    exact ⟨d.review, review_mem hd, rfl, dossier?_id hd⟩

theorem WellFormed.pairwise_identities (hw : t.WellFormed) : t.identities.Pairwise fun a b => a.2 < b.2 := by
  have hids := hw.reviewIds
  rw [List.pairwise_map] at hids
  exact List.pairwise_map.2 hids

theorem WellFormed.nodup_identities (hw : t.WellFormed) : t.identities.Nodup := by
  refine hw.pairwise_identities.imp fun {a b} hlt heq => ?_
  rw [heq] at hlt
  omega

/-- Tables whose dossiers are of the same pull requests have the same reviews, in the same order. -/
theorem identities_congr (hw : t.WellFormed) (hw' : t'.WellFormed)
    (h : ∀ v, (t'.dossier? v).map (·.review.key) = (t.dossier? v).map (·.review.key)) :
    t'.identities = t.identities := by
  have hmem : ∀ e, e ∈ t'.identities ↔ e ∈ t.identities := by
    rintro ⟨key, v⟩
    rw [mem_identities_iff hw', mem_identities_iff hw, h]
  have hperm : t'.identities.Perm t.identities :=
    (List.perm_ext_iff_of_nodup hw'.nodup_identities hw.nodup_identities).2 hmem
  refine hperm.eq_of_pairwise (fun a b _ _ hab hba => ?_) hw'.pairwise_identities hw.pairwise_identities
  omega

end Tables

/-! ## Queueing -/

/-- A step leaves a review with its pull request. -/
theorem Dossier.Step.map_key_of_rel {o o' : Option Dossier} (h : Option.Rel Step o o') :
    o'.map (·.review.key) = o.map (·.review.key) := by
  cases h with
  | none => rfl
  | some hstep => exact congrArg some hstep.key_eq

namespace Database

open Tables

variable {db : Database} {now : Moment} {run : String} {number : Int} {repository : Text} {installation : Int}
  {summary : PullRequestSummary} {ticket : Ticket} {t : Tables}

/-- A queueing that succeeds has placed the first dossier of the review. -/
theorem queue_placed (hw : db.tables.WellFormed)
    (h : db.queue now run number repository installation summary = .ok (ticket, t)) :
    Param.fault? [number, repository, installation] = none ∧
      ticket = ⟨db.tables.idFor number repository, run⟩ ∧
      t = db.tables.place (.queued ticket now number repository installation summary) := by
  obtain ⟨_, hstatement, -⟩ := bind_eq_ok h
  obtain ⟨hup, htables, -⟩ := statement_eq_ok_iff.1 hstatement
  cases hparams : Param.fault? [number, repository, installation] with
  | none =>
    rw [queue_place ⟨hup, htables⟩ hw now run hparams] at h
    cases h
    exact ⟨rfl, rfl, rfl⟩
  | some e =>
    rw [queue_error ⟨hup, htables⟩ now run hparams] at h
    cases h

/-- A pull request that has a review keeps it, another one gets the next. -/
theorem queue_identities (hw : db.tables.WellFormed) {keys : List (Int × Text)}
    (hkeys : db.tables.identities = enumerated keys)
    (h : db.queue now run number repository installation summary = .ok (ticket, t)) :
    t.identities = enumerated (enlist keys (some (number, repository))) := by
  obtain ⟨-, rfl, rfl⟩ := queue_placed hw h
  have hmem : (number, repository) ∈ keys ↔ ∃ r ∈ db.tables.reviews, r.key = (number, repository) := by
    rw [← Tables.map_key_of_identities hkeys, List.mem_map]
  cases hr : db.tables.reviewOf? number repository with
  | some r =>
    obtain ⟨hr', hkey⟩ := reviewOf?_eq_some hr
    have hold : (number, repository) ∈ keys := hmem.2 ⟨r, hr', hkey⟩
    have hany : db.tables.reviews.any (·.id == r.id) = true := List.any_eq_true.2 ⟨r, hr', by simp⟩
    rw [enlist, if_pos hold, ← hkeys]
    simp only [identities, place, putAmong, Dossier.queued, idFor_of_reviewOf? hr]
    rw [if_pos hany, List.map_map]
    refine List.map_congr_left fun s hs => ?_
    by_cases hid : s.id = r.id
    · have hskey : s.key = (number, repository) := eq_of_id_eq hw hr' hs hid ▸ hkey
      rw [Function.comp, if_pos hid, hskey, hid]
      rfl
    · rw [Function.comp, if_neg hid]
  | none =>
    have hnew : (number, repository) ∉ keys := by
      intro hold
      obtain ⟨s, hs, hkey⟩ := hmem.1 hold
      exact reviewOf?_eq_none hr hs hkey
    rw [enlist, if_neg hnew, enumerated_concat, ← hkeys, ← Tables.nextReviewId_of_identities hkeys]
    simp only [identities, place, putAmong, Dossier.queued, idFor_of_none hr]
    rw [if_neg db.tables.not_any_nextReviewId, List.map_append]
    rfl

/-! ## Calls one after the other -/

theorem answers_concat (db : Database) (calls : List TimedCall) (c : TimedCall) :
    db.answers (calls ++ [c]) = db.answers calls ++ [⟨c, (c.perform (db.after calls)).1⟩] := by
  induction calls generalizing db with
  | nil => rfl
  | cons b calls ih => exact congrArg (List.cons _) (ih (db.performed b))

/-- Every answer was given after some of the calls and before the others. -/
theorem mem_answers {calls : List TimedCall} {a : AnsweredCall} (h : a ∈ db.answers calls) :
    ∃ before c rest, calls = before ++ c :: rest ∧ a = ⟨c, (c.perform (db.after before)).1⟩ := by
  induction calls generalizing db with
  | nil => cases h
  | cons b calls ih =>
    rcases List.mem_cons.1 h with rfl | h
    · exact ⟨[], b, calls, rfl, rfl⟩
    · obtain ⟨before, c, rest, rfl, ha⟩ := ih h
      exact ⟨b :: before, c, rest, rfl, ha⟩

/-- The step of one call: only one that queues another pull request adds to the reviews, and it adds the next. -/
theorem performed_identities (hw : db.tables.WellFormed) {keys : List (Int × Text)}
    (hkeys : db.tables.identities = enumerated keys) (c : TimedCall) :
    (db.performed c).tables.identities = enumerated (enlist keys (AnsweredCall.mk c (c.perform db).1).key?) := by
  have hw' := performed_wellFormed hw c
  obtain ⟨e, he, hsame⟩ | ⟨reply, hreply, htransaction⟩ := performed_cases db c
  · have hnone : (AnsweredCall.mk c (c.perform db).1).key? = none := by
      rw [he]
      obtain ⟨now, isUp, call⟩ := c
      cases call <;> rfl
    rw [hnone, hsame]
    exact hkeys
  · have hw : (c.finds db).tables.WellFormed := hw
    rw [hreply]
    cases hq : c.call.queued? with
    | none =>
      have hnone : (AnsweredCall.mk c (.ok reply)).key? = none := by
        simp [AnsweredCall.key?, hq]
      rw [hnone]
      refine Eq.trans (identities_congr hw hw' fun v => ?_) hkeys
      obtain ⟨_, -, hkey, -⟩ | hrel := (StoreCall.transaction_turns hw htransaction).2.cases v
      · rw [hq] at hkey
        cases hkey
      · exact Dossier.Step.map_key_of_rel hrel
    | some key =>
      obtain ⟨now, isUp, call⟩ := c
      cases call with
      | queue number repository installation summary => exact queue_identities hw hkeys htransaction
      | _ => cases hq

/-- The run lemma: the reviews are those of the pull requests queued so far, with the ids from one on. -/
theorem after_identities (calls : List TimedCall) :
    (after {} calls).tables.identities = enumerated (firstQueued (answers {} calls)) := by
  induction calls using List.reverseRecOn with
  | nil => rfl
  | append_singleton calls c ih =>
    rw [after_append, answers_concat, firstQueued_concat]
    exact performed_identities (after_wellFormed Tables.wellFormed_empty calls) ih c

/-- Whatever is called, a review stays and stays with its pull request. -/
theorem after_keeps (hw : db.tables.WellFormed) (calls : List TimedCall) {r : Review} (hr : r ∈ db.tables.reviews) :
    ∃ s ∈ (db.after calls).tables.reviews, s.id = r.id ∧ s.key = r.key := by
  induction calls generalizing db r with
  | nil => exact ⟨r, hr, rfl, rfl⟩
  | cons c calls ih =>
    obtain ⟨d, hd, rfl⟩ := Tables.dossier?_of_mem hw hr
    obtain ⟨e, he, hkey, -⟩ := performed_keeps hw c hd
    obtain ⟨s, hs, hid, hkey'⟩ := ih (performed_wellFormed hw c) (Tables.review_mem he)
    exact ⟨s, hs, hid.trans (Tables.dossier?_id he), hkey'.trans hkey⟩

/-! ## Runs are drawn once -/

theorem runsIssued_not_issued (calls : List TimedCall) : ∀ run ∈ db.runsIssued calls, ¬ db.Issued run := by
  induction calls generalizing db with
  | nil => nofun
  | cons c calls ih =>
    intro run hrun hissued
    rcases List.mem_append.1 hrun with hrun | hrun
    · split at hrun
      · rw [List.mem_singleton.1 hrun] at hissued
        exact db.not_issued_nextRun hissued
      · cases hrun
    · exact ih run hrun (hissued.mono ⟨_, (performed_frame db c).1⟩)

theorem runsIssued_nodup (calls : List TimedCall) : (db.runsIssued calls).Nodup := by
  induction calls generalizing db with
  | nil => exact List.nodup_nil
  | cons c calls ih =>
    rw [runsIssued]
    split
    · rename_i hq
      have hone : (db.performed c).runs = db.runs.draw 1 := by
        have hdrawn := (performed_frame db c).1
        obtain ⟨now, isUp, call⟩ := c
        cases call with
        | queue => exact hdrawn
        | _ => cases hq
      rw [List.singleton_append, List.nodup_cons]
      exact ⟨fun hmem => runsIssued_not_issued calls _ hmem (issued_nextRun hone), ih⟩
    · exact ih

/-- Every run that is told was drawn by its call. -/
theorem tickets_sublist_runsIssued (hw : db.tables.WellFormed) (calls : List TimedCall) :
    (((db.answers calls).filterMap AnsweredCall.ticket?).map (·.run)).Sublist (db.runsIssued calls) := by
  induction calls generalizing db with
  | nil => exact List.Sublist.slnil
  | cons c calls ih =>
    have hrest := ih (performed_wellFormed hw c)
    rw [answers, List.filterMap_cons, runsIssued]
    cases ht : AnsweredCall.ticket? ⟨c, (c.perform db).1⟩ with
    | none => exact hrest.trans (List.sublist_append_right _ _)
    | some ticket =>
      obtain ⟨hrun, -, ⟨d, -, hq, -⟩, -⟩ := performed_ticket hw ht
      have hsome : c.call.queued?.isSome = true := by rw [hq]; rfl
      rw [if_pos hsome, List.map_cons, hrun]
      exact hrest.cons_cons db.nextRun

end Database

/-- **One review for a pull request.** After any calls on an empty database: no two reviews are of one pull
request; the ids of the reviews are the numbers from one on, in the order in which the pull requests were first
queued, and whatever is called next a review keeps its id and its pull request; a call that queued a pull request
was told the id of its review; no run is drawn twice; and every derived row names a review. -/
theorem review_identity (calls : List TimedCall) :
    ((Database.after {} calls).tables.reviews.map Review.key).Nodup ∧
    (Database.after {} calls).tables.identities = enumerated (firstQueued (Database.answers {} calls)) ∧
    (∀ more, ∀ r ∈ (Database.after {} calls).tables.reviews,
      ∃ s ∈ (Database.after {} (calls ++ more)).tables.reviews, s.id = r.id ∧ s.key = r.key) ∧
    (∀ a ∈ Database.answers {} calls, ∀ ticket, a.ticket? = some ticket →
      ∃ r ∈ (Database.after {} calls).tables.reviews, a.key? = some r.key ∧ r.id = ticket.review) ∧
    (((Database.answers {} calls).filterMap AnsweredCall.ticket?).map (·.run)).Sublist
      (Database.runsIssued {} calls) ∧
    (Database.runsIssued {} calls).Nodup ∧
    (∀ f ∈ (Database.after {} calls).tables.fileChanges,
      ∃ r ∈ (Database.after {} calls).tables.reviews, r.id = f.review) ∧
    ∀ c ∈ (Database.after {} calls).tables.comments,
      ∃ r ∈ (Database.after {} calls).tables.reviews, r.id = c.review := by
  have hw := Database.after_wellFormed Tables.wellFormed_empty calls
  refine ⟨hw.reviewKeys, Database.after_identities calls, fun more r hr => ?_, ?_,
    Database.tickets_sublist_runsIssued Tables.wellFormed_empty calls, Database.runsIssued_nodup calls,
    fun f hf => List.mem_map.1 (hw.fileChangesOwned f hf), fun c hc => List.mem_map.1 (hw.commentsOwned c hc)⟩
  · rw [Database.after_append]
    exact Database.after_keeps hw more hr
  · intro a ha ticket ht
    obtain ⟨before, c, rest, rfl, rfl⟩ := Database.mem_answers ha
    have hwb := Database.after_wellFormed Tables.wellFormed_empty before
    obtain ⟨-, -, ⟨d, hd, hq, -⟩, -⟩ := Database.performed_ticket hwb ht
    obtain ⟨r, hr, hid, hkey⟩ :=
      Database.after_keeps (Database.performed_wellFormed hwb c) rest (Tables.review_mem hd)
    refine ⟨r, ?_, ?_, hid.trans (Tables.dossier?_id hd)⟩
    · rw [Database.after_append]
      exact hr
    · rw [AnsweredCall.key?, ht, hkey]
      exact hq

/-- Two pull requests are queued, the second on the second try, and a file is analyzed for each. -/
def twoQueued : List TimedCall :=
  [queueing, { now := 101, isUp := false, call := .queue 13 "acme/widgets" 77 {} },
    { now := 102, call := .queue 13 "acme/widgets" 77 {} },
    { now := 103, call := .addAnalysis 1 "run-1" "modified" ⟨"a.py", "python", 1, 0, "", false, []⟩ 0 },
    { now := 104
      call := .addAnalysis 2 "run-3" "added"
        ⟨"b.py", "python", 1, 0, "", false, [⟨3, .low, .style, "Tab", none, none⟩]⟩ 0 }]

def queueingAgain : TimedCall := { now := 105, call := .queue 12 "acme/widgets" 78 {} }

theorem review_identity_twoQueued :
    (Database.after {} twoQueued).tables.identities =
      ([((12, "acme/widgets"), 1), ((13, "acme/widgets"), 2)] : List ((Int × Text) × Int)) ∧
    (∃ r ∈ (Database.after {} twoQueued).tables.reviews,
      some ((12, "acme/widgets") : Int × Text) = some r.key ∧ r.id = 1 ∧
      ∃ s ∈ (Database.after {} (twoQueued ++ [queueingAgain])).tables.reviews, s.id = r.id ∧ s.key = r.key) ∧
    (∃ f ∈ (Database.after {} twoQueued).tables.fileChanges,
      ∃ r ∈ (Database.after {} twoQueued).tables.reviews, r.id = f.review) ∧
    ∃ c ∈ (Database.after {} twoQueued).tables.comments,
      ∃ r ∈ (Database.after {} twoQueued).tables.reviews, r.id = c.review := by
  have hfirst : firstQueued (Database.answers {} twoQueued) =
      ([(12, "acme/widgets"), (13, "acme/widgets")] : List (Int × Text)) := by
    decide +kernel
  have hmem : AnsweredCall.mk queueing (queueing.perform {}).1 ∈ Database.answers {} twoQueued := List.mem_cons_self
  have hticket : AnsweredCall.ticket? ⟨queueing, (queueing.perform {}).1⟩ = some ⟨1, "run-1"⟩ := by decide +kernel
  have hfiles : (Database.after {} twoQueued).tables.fileChanges ≠ [] := by decide +kernel
  have hcomments : (Database.after {} twoQueued).tables.comments ≠ [] := by decide +kernel
  obtain ⟨-, hidentities, hstays, htold, -, -, hfilesOwned, hcommentsOwned⟩ := review_identity twoQueued
  obtain ⟨r, hr, hkey, hid⟩ := htold _ hmem _ hticket
  obtain ⟨f, hf⟩ := List.exists_mem_of_ne_nil _ hfiles
  obtain ⟨c, hc⟩ := List.exists_mem_of_ne_nil _ hcomments
  refine ⟨?_, ⟨r, hr, hkey, hid, hstays [queueingAgain] r hr⟩, ⟨f, hf, hfilesOwned f hf⟩, c, hc, hcommentsOwned c hc⟩
  rw [hidentities, hfirst]
  rfl

end PullReview
