import PullReview.Proofs.Store.Holdings
import Mathlib.Data.List.DropRight

/-!
# Times

Store calls made by a clock that does not go back leave times that agree with each other and with the calls
(`timestamps_coherent`). A review is as old as the last queueing of its pull request, and it has a time of
completion exactly while it is completed, which then is the time of its last change. An installation is as
old as its first recording since it was last removed.
-/

namespace PullReview

/-! ## What was done when -/

namespace Database

/-- Those of some calls that succeed when they are made one after the other. -/
def committed : Database → List TimedCall → List TimedCall
  | _, [] => []
  | db, c :: calls =>
    if (c.perform db).1.isOk then c :: committed (db.performed c) calls else committed (db.performed c) calls

theorem committed_concat (db : Database) (calls : List TimedCall) (c : TimedCall) :
    db.committed (calls ++ [c]) = db.committed calls ++ if (c.perform (db.after calls)).1.isOk then [c] else [] := by
  induction calls generalizing db with
  | nil => rfl
  | cons d calls ih =>
    have hafter : db.after (d :: calls) = (db.performed d).after calls := rfl
    rw [List.cons_append, committed, committed, ih, hafter]
    split
    · rfl
    · rfl

end Database

/-- When a pull request was queued last. -/
def lastQueued (key : Int × Text) (made : List TimedCall) : Option Moment :=
  (made.filter (·.call.queued? == some key)).getLast?.map (·.now)

/-- The calls since an installation was last removed. -/
def sinceRemoved (installation : Int) (made : List TimedCall) : List TimedCall :=
  made.rtakeWhile (·.call.uninstalled? != some installation)

/-- When an installation was recorded for the first time since it was last removed. -/
def firstRecorded (installation : Int) (made : List TimedCall) : Option Moment :=
  ((sinceRemoved installation made).find? (·.call.recorded? == some installation)).map (·.now)

theorem lastQueued_concat (key : Int × Text) (made : List TimedCall) (c : TimedCall) :
    lastQueued key (made ++ [c]) = if c.call.queued? = some key then some c.now else lastQueued key made := by
  unfold lastQueued
  rw [List.filter_append]
  split
  · rename_i hkey
    simp [hkey]
  · rename_i hkey
    simp [hkey]

theorem firstRecorded_concat (installation : Int) (made : List TimedCall) (c : TimedCall) :
    firstRecorded installation (made ++ [c]) =
      if c.call.uninstalled? = some installation then none
      else if c.call.recorded? = some installation then (firstRecorded installation made).or (some c.now)
      else firstRecorded installation made := by
  by_cases hremoved : c.call.uninstalled? = some installation
  · have hkept : sinceRemoved installation (made ++ [c]) = [] :=
      List.rtakeWhile_concat_neg _ _ _ (by simp [hremoved])
    rw [if_pos hremoved, firstRecorded, hkept]
    rfl
  · have hkept : sinceRemoved installation (made ++ [c]) = sinceRemoved installation made ++ [c] :=
      List.rtakeWhile_concat_pos _ _ _ (by simp [hremoved])
    rw [if_neg hremoved, firstRecorded, hkept, List.find?_append, Option.map_or, ← firstRecorded]
    split
    · rename_i hrecorded
      simp [hrecorded]
    · rename_i hother
      simp [hother]

/-! ## Reviews -/

/-- The times of a review agree with each other and lie before a moment. -/
structure Review.Dated (now : Moment) (r : Review) : Prop where
  created : r.createdAt ≤ r.updatedAt
  updated : r.updatedAt ≤ now
  completed : r.completedAt = if r.status = .completed then some r.updatedAt else none

/-- What a call may make of a review other than queueing it: it leaves it, or moves it on at its own moment. -/
inductive Review.Turned (now : Moment) (r : Review) : Review → Prop
  | kept : Turned now r r
  | moved (status : ReviewStatus) (written : Members) (h : status ∈ r.status.successors) :
      Turned now r (Database.moved r now status written)

namespace Review

variable {now later : Moment} {r s : Review}

theorem Dated.mono (h : r.Dated now) (hle : now ≤ later) : r.Dated later :=
  ⟨h.created, Int.le_trans h.updated hle, h.completed⟩

/-- A review that goes on to another status was not completed, so it has a time of completion only from there. -/
theorem Dated.moved (h : r.Dated now) {status : ReviewStatus} (hsucc : status ∈ r.status.successors)
    (written : Members) : (Database.moved r now status written).Dated now := by
  have hopen : r.completedAt = none := by
    rw [h.completed, if_neg]
    intro hdone
    rw [hdone] at hsucc
    cases hsucc
  constructor
  case created => exact Int.le_trans h.created h.updated
  case updated => exact Int.le_refl now
  case completed => simp only [Database.moved, hopen]

theorem Dated.turned (h : r.Dated now) (hturned : r.Turned now s) : s.Dated now := by
  cases hturned with
  | kept => exact h
  | moved status written hsucc => exact h.moved hsucc written

theorem Turned.key_eq (h : r.Turned now s) : s.key = r.key := by
  cases h <;> rfl

theorem Turned.createdAt_eq (h : r.Turned now s) : s.createdAt = r.createdAt := by
  cases h <;> rfl

end Review

theorem Tables.CancelTurns.turned {now : Moment} {t after : Tables} {reason : Text} {fits : Review → Prop}
    {ids : List Int} (h : t.CancelTurns now after reason fits ids) {v : Int} {e : Dossier}
    (he : after.dossier? v = some e) : ∃ d, t.dossier? v = some d ∧ d.review.Turned now e.review := by
  obtain ⟨hids, hafter⟩ := h
  rw [hafter] at he
  split at he
  · rename_i hv
    obtain ⟨d, hd, -, hactive⟩ := (hids v).1 hv
    rw [hd] at he
    cases he
    exact ⟨d, hd, .moved .cancelled _ (ReviewStatus.isActive_iff.1 hactive)⟩
  · exact ⟨e, he, .kept⟩

/-- After a successful call a review has just been queued, or the call is not about its pull request or turns it. -/
theorem StoreCall.Turns.turned {now : Moment} {db : Database} {t : Tables} {v : Int} {e : Dossier}
    (he : t.dossier? v = some e) {call : StoreCall} {reply : call.Reply} (h : call.Turns now db t reply) :
    (∃ ticket number repository installation summary, call.queued? = some (number, repository) ∧
      e = .queued ticket now number repository installation summary) ∨
    call.queued? ≠ some e.review.key ∧ ∃ d, db.tables.dossier? v = some d ∧ d.review.Turned now e.review := by
  cases call with
  | queue number repository installation summary =>
    obtain ⟨-, hkey, hafter⟩ := h
    rw [hafter] at he
    split at he
    · cases he
      exact .inl ⟨reply, number, repository, installation, summary, rfl, rfl⟩
    · rename_i hv
      refine .inr ⟨fun hq => hv ((hkey v e he).1 ?_), e, he, .kept⟩
      exact (Option.some.inj hq).symm
  | move review target progress run =>
    refine .inr ⟨nofun, ?_⟩
    cases reply with
    | true =>
      obtain ⟨d, status, hd, -, hsucc, -, hafter⟩ := h
      rw [hafter] at he
      split at he
      · rename_i hv
        cases he
        exact ⟨d, hv ▸ hd, .moved status _ hsucc⟩
      · exact ⟨e, he, .kept⟩
    | false =>
      obtain ⟨rfl, -⟩ := h
      exact ⟨e, he, .kept⟩
  | addAnalysis review run status analysis complexity =>
    refine .inr ⟨nofun, ?_⟩
    cases reply with
    | true =>
      obtain ⟨d, i, j, hd, -, -, hafter⟩ := h
      rw [hafter] at he
      split at he
      · rename_i hv
        cases he
        exact ⟨d, hv ▸ hd, .kept⟩
      · exact ⟨e, he, .kept⟩
    | false =>
      obtain ⟨rfl, -⟩ := h
      exact ⟨e, he, .kept⟩
  | cancel number repository reason =>
    have h : db.tables.CancelTurns now t reason (fun r => r.key = (number, repository)) reply := h
    exact .inr ⟨nofun, h.turned he⟩
  | dropInstallation installation =>
    have h : db.tables.CancelTurns now t "installation_deleted" (fun r => r.installation = installation)
        reply.reviews := h
    exact .inr ⟨nofun, h.turned he⟩
  | saveInstallation installation login kind repositories => exact .inr ⟨nofun, e, (h v).symm.trans he, .kept⟩
  | saveRepositories installation repositories login kind => exact .inr ⟨nofun, e, (h v).symm.trans he, .kept⟩
  | dropRepositories installation ids => exact .inr ⟨nofun, e, (h v).symm.trans he, .kept⟩

theorem Dossier.Step.createdAt_eq {d e : Dossier} (h : d.Step e) : e.review.createdAt = d.review.createdAt := by
  cases h <;> rfl

/-! ## Installations -/

namespace Installation

variable {installation : Int} {login kind : Text} {now : Moment} {rows : List Installation} {i : Installation}

/-- A row that has been kept as it was, or whose owner has been recorded again at a moment. -/
def KeptFrom (now : Moment) (i row : Installation) : Prop :=
  i.id = row.id ∧ i.createdAt = row.createdAt ∧ (i.updatedAt = row.updatedAt ∨ i.updatedAt = now)

/-- A row after a recording is kept from one before, or it is new. -/
theorem mem_put (hi : i ∈ put installation login kind now rows) :
    (∃ row ∈ rows, KeptFrom now i row) ∨
    installation ∉ rows.map (·.id) ∧ i = ⟨installation, login, kind, now, now⟩ := by
  unfold put at hi
  split at hi
  · obtain ⟨row, hrow, rfl⟩ := List.mem_map.1 hi
    refine .inl ⟨row, hrow, ?_⟩
    split
    · exact ⟨rfl, rfl, .inr rfl⟩
    · exact ⟨rfl, rfl, .inl rfl⟩
  · rename_i hnew
    have hnone : installation ∉ rows.map (·.id) := fun hid => hnew (List.mem_map.1 hid)
    rcases mem_insertInstallation.1 hi with rfl | hi
    · exact .inr ⟨hnone, rfl⟩
    · exact .inl ⟨i, hi, rfl, rfl, .inl rfl⟩

end Installation

theorem StoreCall.uninstalled?_of_recorded {call : StoreCall} {installation : Int}
    (h : call.recorded? = some installation) : call.uninstalled? = none := by
  cases call <;> first | rfl | cases h

/-- A row after a call is kept from one before, or the call has recorded its installation, which was not there. -/
theorem StoreCall.mem_owners {call : StoreCall} {now : Moment} {rows : List Installation} {i : Installation}
    (hi : i ∈ call.owners now rows) :
    call.uninstalled? ≠ some i.id ∧ (∃ row ∈ rows, i.KeptFrom now row) ∨
    call.recorded? = some i.id ∧ i.id ∉ rows.map (·.id) ∧ i.createdAt = now ∧ i.updatedAt = now := by
  have hkept : i ∈ rows → ∃ row ∈ rows, i.KeptFrom now row := fun hi => ⟨i, hi, rfl, rfl, .inl rfl⟩
  have hstays : none ≠ some i.id := (Option.some_ne_none i.id).symm
  cases call with
  | saveInstallation installation login kind repositories =>
    rcases Installation.mem_put hi with hrow | ⟨hnew, rfl⟩
    · exact .inl ⟨hstays, hrow⟩
    · exact .inr ⟨rfl, hnew, rfl, rfl⟩
  | saveRepositories installation repositories login kind =>
    rw [owners] at hi
    rw [recorded?]
    cases hlogin : login.filter fun name : Text => name ≠ "" with
    | none =>
      rw [hlogin] at hi
      exact .inl ⟨hstays, hkept hi⟩
    | some name =>
      rw [hlogin] at hi
      rcases Installation.mem_put hi with hrow | ⟨hnew, rfl⟩
      · exact .inl ⟨hstays, hrow⟩
      · exact .inr ⟨rfl, hnew, rfl, rfl⟩
  | dropInstallation installation =>
    obtain ⟨hi, hid⟩ := List.mem_filter.1 hi
    refine .inl ⟨fun hsame => ?_, hkept hi⟩
    rw [uninstalled?, Option.some.injEq] at hsame
    simp [hsame] at hid
  | _ => exact .inl ⟨hstays, hkept hi⟩

/-! ## Calls one after the other -/

/-- The times in the rows agree with each other and with the calls that have been made, up to a moment. -/
structure Tables.Timely (t : Tables) (now : Moment) (made : List TimedCall) : Prop where
  reviews : ∀ r ∈ t.reviews, r.Dated now ∧ lastQueued r.key made = some r.createdAt
  installations : ∀ i ∈ t.installations, i.createdAt ≤ i.updatedAt ∧ i.updatedAt ≤ now
  recorded : ∀ i ∈ t.installations, firstRecorded i.id made = some i.createdAt
  installed : ∀ id, (firstRecorded id made).isSome → id ∈ t.installations.map (·.id)

namespace Tables.Timely

variable {now later : Moment} {made : List TimedCall}

theorem empty (now : Moment) : Tables.Timely {} now [] :=
  ⟨nofun, nofun, nofun, nofun⟩

theorem mono {t : Tables} (h : t.Timely now made) (hle : now ≤ later) : t.Timely later made := by
  constructor
  case reviews =>
    intro r hr
    obtain ⟨hdated, hqueued⟩ := h.reviews r hr
    exact ⟨hdated.mono hle, hqueued⟩
  case installations =>
    intro i hi
    obtain ⟨hcreated, hupdated⟩ := h.installations i hi
    exact ⟨hcreated, Int.le_trans hupdated hle⟩
  case recorded => exact h.recorded
  case installed => exact h.installed

/-- The step: a call that succeeds at the moment up to which the times agree. -/
theorem concat {db : Database} (hw : db.tables.WellFormed) {c : TimedCall} (h : db.tables.Timely c.now made)
    {reply : c.call.Reply} {t : Tables} (hok : c.call.transaction db c.now = .ok (reply, t)) :
    t.Timely c.now (made ++ [c]) := by
  obtain ⟨hw', hturns⟩ := StoreCall.transaction_turns hw hok
  obtain ⟨-, howners⟩ := StoreCall.transaction_books hok
  constructor
  case reviews =>
    intro r hr
    obtain ⟨e, he, rfl⟩ := Tables.dossier?_of_mem hw' hr
    rw [lastQueued_concat]
    obtain ⟨ticket, number, repository, installation, summary, hq, rfl⟩ | ⟨hq, d, hd, hturned⟩ := hturns.turned he
    · rw [Dossier.queued, Review.key, if_pos hq]
      exact ⟨⟨Int.le_refl _, Int.le_refl _, rfl⟩, rfl⟩
    · obtain ⟨hdated, hqueued⟩ := h.reviews d.review (Tables.review_mem hd)
      rw [if_neg hq, hturned.key_eq, hturned.createdAt_eq]
      exact ⟨hdated.turned hturned, hqueued⟩
  case installations =>
    intro i hi
    rw [howners] at hi
    rcases StoreCall.mem_owners hi with ⟨-, row, hrow, -, hcreated, hupdated⟩ | ⟨-, -, hcreated, hupdated⟩
    · obtain ⟨hle, hbound⟩ := h.installations row hrow
      rw [hcreated]
      rcases hupdated with hupdated | hupdated
      · rw [hupdated]
        exact ⟨hle, hbound⟩
      · rw [hupdated]
        exact ⟨Int.le_trans hle hbound, Int.le_refl _⟩
    · rw [hcreated, hupdated]
      exact ⟨Int.le_refl _, Int.le_refl _⟩
  case recorded =>
    intro i hi
    rw [howners] at hi
    rw [firstRecorded_concat]
    rcases StoreCall.mem_owners hi with ⟨hstays, row, hrow, hid, hcreated, -⟩ | ⟨hrecords, hnew, hcreated, -⟩
    · have hfirst : firstRecorded i.id made = some i.createdAt := by rw [hid, hcreated, h.recorded row hrow]
      rw [if_neg hstays, hfirst, Option.some_or, ite_self]
    · have hnone : firstRecorded i.id made = none := by
        rw [← Option.not_isSome_iff_eq_none]
        exact fun hsome => hnew (h.installed i.id hsome)
      have hstays : c.call.uninstalled? = none := StoreCall.uninstalled?_of_recorded hrecords
      rw [hstays, if_neg (Option.some_ne_none i.id).symm, if_pos hrecords, hnone, Option.none_or, hcreated]
  case installed =>
    intro id hsome
    rw [howners, StoreCall.mem_id_owners]
    rw [firstRecorded_concat] at hsome
    by_cases hrecords : c.call.recorded? = some id
    · exact .inl hrecords
    · rw [if_neg hrecords] at hsome
      split at hsome
      · cases hsome
      · rename_i hstays
        exact .inr ⟨h.installed id hsome, hstays⟩

end Tables.Timely

namespace Database

/-- The run lemma: calls by a clock that does not go back. -/
theorem after_timely {now : Moment} {calls : List TimedCall} (hclock : (calls.map (·.now)).Pairwise (· ≤ ·))
    (hnow : ∀ c ∈ calls, c.now ≤ now) :
    (after {} calls).tables.Timely now (committed {} calls) := by
  induction calls using List.reverseRecOn generalizing now with
  | nil => exact .empty now
  | append_singleton calls c ih =>
    rw [List.map_append, List.pairwise_append] at hclock
    obtain ⟨hclock, -, hlast⟩ := hclock
    have hbefore : ∀ d ∈ calls, d.now ≤ c.now := by
      intro d hd
      exact hlast d.now (List.mem_map_of_mem hd) c.now List.mem_cons_self
    have hlater : c.now ≤ now := hnow c (List.mem_append_right _ List.mem_cons_self)
    have htimely := ih hclock hbefore
    have hw : (c.finds (after {} calls)).tables.WellFormed := after_wellFormed Tables.wellFormed_empty calls
    have hafter : after {} (calls ++ [c]) = (after {} calls).performed c := after_append _ _ _
    rw [hafter, committed_concat]
    obtain ⟨e, hfails, htables⟩ | ⟨reply, hreply, hok⟩ := performed_cases (after {} calls) c
    · have hno : (c.perform (after {} calls)).1.isOk = false := by rw [hfails]; rfl
      rw [htables, hno, if_neg Bool.false_ne_true, List.append_nil]
      exact htimely.mono hlater
    · have hyes : (c.perform (after {} calls)).1.isOk = true := by rw [hreply]; rfl
      have hfinds : (c.finds (after {} calls)).tables.Timely c.now (committed {} calls) := htimely
      rw [hyes, if_pos rfl]
      exact (hfinds.concat hw hok).mono hlater

end Database

/-- **The times are coherent.** After any calls by a clock that does not go back, no review and no installation
has changed before it was made; a review is completed exactly if it has a time of completion, which is then
the time of its last change; it is as old as the last queueing of its pull request, and a next call can only make
it younger by queueing that one again; and an installation is as old as its first recording since it was last
removed. -/
theorem timestamps_coherent (calls : List TimedCall) (hclock : (calls.map (·.now)).Pairwise (· ≤ ·)) :
    let db := Database.after {} calls
    let made := Database.committed {} calls
    (∀ r ∈ db.tables.reviews,
      r.createdAt ≤ r.updatedAt ∧
      (r.completedAt.isSome ↔ r.status = .completed) ∧
      (∀ moment ∈ r.completedAt, moment = r.updatedAt) ∧
      lastQueued r.key made = some r.createdAt ∧
      ∀ c, db.queuesOn c r.key = false →
        ∃ s ∈ (db.performed c).tables.reviews, s.id = r.id ∧ s.createdAt = r.createdAt) ∧
    ∀ i ∈ db.tables.installations,
      i.createdAt ≤ i.updatedAt ∧ firstRecorded i.id made = some i.createdAt := by
  intro db made
  obtain ⟨now, hnow⟩ : ∃ now, ∀ c ∈ calls, c.now ≤ now := by
    obtain ⟨-, hmax⟩ := Tables.le_foldl_max (calls.map (·.now)) 0
    exact ⟨_, fun c hc => hmax c.now (List.mem_map_of_mem hc)⟩
  have hw : db.tables.WellFormed := Database.after_wellFormed Tables.wellFormed_empty calls
  have htimely : db.tables.Timely now made := Database.after_timely hclock hnow
  refine ⟨fun r hr => ?_, fun i hi => ⟨(htimely.installations i hi).1, htimely.recorded i hi⟩⟩
  obtain ⟨hdated, hqueued⟩ := htimely.reviews r hr
  refine ⟨hdated.created, ?_, ?_, hqueued, fun c hno => ?_⟩
  · rw [hdated.completed]
    split
    · rename_i hdone
      simp [hdone]
    · rename_i hopen
      simp [hopen]
  · intro moment hmoment
    rw [hdated.completed] at hmoment
    split at hmoment
    · exact (Option.some.inj hmoment).symm
    · cases hmoment
  · obtain ⟨d, hd, rfl⟩ := Tables.dossier?_of_mem hw hr
    obtain ⟨e, he, hstep⟩ := Database.performed_step hw hd hno
    have hid : e.review.id = d.review.id := Tables.dossier?_id he
    exact ⟨e.review, Tables.review_mem he, hid, hstep.createdAt_eq⟩

/-- A review that was completed is queued and then cancelled; an installation is recorded twice, removed and recorded
once more. -/
def queuedTwice : List TimedCall :=
  [{ now := 5, call := .saveInstallation 7 "acme" "Organization" [] },
    { now := 10, call := .queue 12 "acme/widgets" 7 {} },
    { now := 10, call := .move 1 "in_progress" (.fetching 10) none },
    { now := 15, call := .move 1 "completed" (.completed 100 0 0) none },
    { now := 20, call := .dropInstallation 7 },
    { now := 20, call := .queue 12 "acme/widgets" 7 {} },
    { now := 25, call := .cancel 12 "acme/widgets" "pull_request_closed" },
    { now := 30, call := .saveInstallation 7 "acme" "Organization" [] },
    { now := 35, call := .saveRepositories 7 [] (some "acme-labs") "Organization" }]

theorem timestamps_coherent_queuedTwice :
    (queuedTwice.map (·.now)).Pairwise (· ≤ ·) ∧
    (∃ r ∈ (Database.after {} queuedTwice).tables.reviews, r.status = .cancelled ∧ r.createdAt = 20 ∧
      r.updatedAt = 25 ∧ r.completedAt = none ∧
      lastQueued (12, "acme/widgets") (Database.committed {} queuedTwice) = some 20) ∧
    firstRecorded 7 (Database.committed {} queuedTwice) = some 30 := by
  have hclock : (queuedTwice.map (·.now)).Pairwise (· ≤ ·) := by decide
  obtain ⟨hreviews, hinstallations⟩ := timestamps_coherent queuedTwice hclock
  have hinstalled : (Database.after {} queuedTwice).tables.installations =
      [⟨7, "acme-labs", "Organization", 30, 35⟩] := rfl
  have hone : (Database.after {} queuedTwice).tables.reviews.map
      (fun r => (r.key, r.status, r.createdAt, r.updatedAt)) =
        ([((12, "acme/widgets"), .cancelled, 20, 25)] : List ((Int × Text) × ReviewStatus × Moment × Moment)) := by
    decide +kernel
  obtain ⟨r, hr, hrow⟩ := List.map_eq_singleton_iff.1 hone
  obtain ⟨hkey, hstatus, hcreated, hupdated⟩ :
      r.key = ((12, "acme/widgets") : Int × Text) ∧ r.status = .cancelled ∧ r.createdAt = 20 ∧ r.updatedAt = 25 := by
    simpa using hrow
  have hmem : r ∈ (Database.after {} queuedTwice).tables.reviews := hr ▸ List.mem_singleton_self r
  obtain ⟨-, hcompleted, -, hqueued, -⟩ := hreviews r hmem
  refine ⟨hclock, ⟨r, hmem, hstatus, hcreated, hupdated, ?_, ?_⟩, ?_⟩
  · rw [← Option.not_isSome_iff_eq_none, hcompleted, hstatus]
    decide
  · rw [← hkey, hqueued, hcreated]
  · exact (hinstallations ⟨7, "acme-labs", "Organization", 30, 35⟩ (hinstalled ▸ List.mem_singleton_self _)).2

end PullReview
