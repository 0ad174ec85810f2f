import PullReview.Proofs.Store.Holdings
import PullReview.Proofs.Store.Merged
import Mathlib.Data.List.Forall2

/-!
# Guarded writes

A review is moved only as its status and its run allow, and rows are derived for it only while it is active
and the run is its current one. Both directions hold in every database that calls can lead to
(`guarded_writes_exact`): a write that the guard allows is made, with exactly the changes it is for, and one
that it refuses changes nothing.
-/

namespace PullReview

/-! ## What a write may do -/

namespace Review

/-- Whether a review may go to a target on behalf of a run. -/
def MayGo (r : Review) (target : Text) (run : Option Text) : Prop :=
  r.admits run ∧ ∃ status ∈ r.status.successors, Named.name status = target

/-- Whether rows may be derived for a review on behalf of a run. -/
def MayGain (r : Review) (run : Text) : Prop := r.run = run ∧ r.status.isActive = true

/-- A review and what has become of it once it has gone to a target: what the step records and is not null
has been written over what was there, key by key. -/
structure GoneTo (r : Review) (now : Moment) (target : Text) (progress : Progress) (r' : Review) : Prop where
  status : Named.name r'.status = target
  overwritten : ∀ e ∈ progress.toMembers, e.2 ≠ .null → r'.data.get? e.1 = some e.2
  others : ∀ key, (∀ e ∈ progress.toMembers, e.1 = key → e.2 = .null) → r'.data.get? key = r.data.get? key
  updatedAt : r'.updatedAt = now
  completedAt : r'.completedAt = if target = "completed" then some now else r.completedAt
  rest :
    r' = { r with
      status := r'.status, data := r'.data, updatedAt := r'.updatedAt, completedAt := r'.completedAt }

end Review

/-- The row of an analysis, whatever its id. -/
def FileChange.Tells (f : FileChange) (review : Int) (status : Text) (analysis : Analysis) (complexity : Int) :
    Prop :=
  f = { id := f.id, review, filename := analysis.filename, status, language := analysis.language
        additions := analysis.additions, deletions := analysis.deletions, patch := analysis.patch
        inScope := analysis.inScope, complexity }

/-- The row of an issue, whatever its id. -/
def Comment.Tells (c : Comment) (review : Int) (filename : Text) (i : Issue) : Prop :=
  c = { id := c.id, review, filename, line := i.line, severity := i.severity, category := i.category
        message := i.message, suggestion := i.suggestion, rule := i.rule }

namespace Tables

/-- One review has been changed in its place, and nothing else. -/
def Replaces (t : Tables) (r r' : Review) (after : Tables) : Prop :=
  ∃ before later, t.reviews = before ++ r :: later ∧ after = { t with reviews := before ++ r' :: later }

/-- One file and its comments have been added, a comment for each issue, and nothing else. -/
structure Gains (t : Tables) (review : Int) (status : Text) (analysis : Analysis) (complexity : Int)
    (after : Tables) (f : FileChange) (cs : List Comment) : Prop where
  tables : after = { t with fileChanges := t.fileChanges ++ [f], comments := t.comments ++ cs }
  fileChange : f.Tells review status analysis complexity
  comments : List.Forall₂ (fun i c => Comment.Tells c review analysis.filename i) analysis.issues cs
  fileChangeId : ∀ g ∈ t.fileChanges, g.id < f.id
  commentIds : ∀ c ∈ t.comments, ∀ d ∈ cs, c.id < d.id
  ascending : (cs.map (·.id)).Pairwise (· < ·)

end Tables

/-! ## One row -/

theorem Progress.nodup_keys (p : Progress) : (p.toMembers.map (·.1)).Nodup := by
  cases p <;> simp [toMembers, toMembers.tag, PullRequestSummary.toMembers]

theorem Progress.mem_written {p : Progress} {e : Text × Json} :
    e ∈ p.written ↔ e ∈ p.toMembers ∧ e.2 ≠ .null := by
  unfold written Members.withoutNulls
  rw [List.mem_filter]
  obtain ⟨key, j⟩ := e
  cases j <;> simp

theorem Progress.nodup_written (p : Progress) : (p.written.map (·.1)).Nodup :=
  p.nodup_keys.sublist (List.filter_sublist.map _)

/-- A review that is moved goes to the target, with what the step records. -/
theorem Review.goneTo_moved (r : Review) (now : Moment) (status : ReviewStatus) (progress : Progress) :
    r.GoneTo now (Named.name status) progress (Database.moved r now status progress.written) where
  status := rfl
  overwritten e he hnull := Members.get?_merge_of_mem_nodup progress.nodup_written (Progress.mem_written.2 ⟨he, hnull⟩)
  others key hkey := by
    refine Members.get?_merge_of_forall_ne fun e he hk => ?_
    obtain ⟨he, hnull⟩ := Progress.mem_written.1 he
    exact hnull (hkey e he hk)
  updatedAt := rfl
  completedAt := by cases status <;> rfl
  rest := rfl

namespace Tables

variable {t : Tables}

/-- Ids differ, so changing the review with an id changes one row. -/
theorem replaces_updateReview (hw : t.WellFormed) {r : Review} (hr : r ∈ t.reviews) (change : Review → Review) :
    t.Replaces r (change r) (t.updateReview r.id change) := by
  obtain ⟨before, later, hsplit⟩ := List.append_of_mem hr
  refine ⟨before, later, hsplit, ?_⟩
  have hids := hw.nodup_reviewIds
  rw [hsplit, List.map_append, List.map_cons, List.nodup_append, List.nodup_cons] at hids
  obtain ⟨-, ⟨hlater, -⟩, hbefore⟩ := hids
  have hkept : ∀ rs : List Review, r.id ∉ rs.map (·.id) →
      rs.map (fun s => if s.id = r.id then change s else s) = rs := by
    intro rs hrs
    refine map_of_not_any (fun hany => hrs ?_) change
    obtain ⟨s, hs, hid⟩ := List.any_eq_true.1 hany
    exact beq_iff_eq.1 hid ▸ List.mem_map_of_mem hs
  have hbefore : r.id ∉ before.map (·.id) := fun h => hbefore _ h _ List.mem_cons_self rfl
  unfold updateReview
  rw [hsplit, List.map_append, List.map_cons, hkept before hbefore, hkept later hlater, if_pos rfl]

theorem rowsOfIssues_tell (id review : Int) (filename : Text) (issues : List Issue) :
    List.Forall₂ (fun i c => Comment.Tells c review filename i) issues
      (Database.rowsOfIssues id review filename issues) := by
  induction issues generalizing id with
  | nil => exact .nil
  | cons i is ih => exact .cons rfl (ih (id + 1))

/-- The rows that are added for an analysis. -/
theorem gains_addRows (t : Tables) (review : Int) (status : Text) (analysis : Analysis) (complexity : Int) :
    let f := Database.rowOfAnalysis t.nextFileChangeId review status analysis complexity
    let cs := Database.rowsOfIssues t.nextCommentId review analysis.filename analysis.issues
    t.Gains review status analysis complexity (t.addRows [f] cs) f cs := by
  intro f cs
  obtain ⟨hascending, hnext⟩ := Database.rowsOfIssues_ids t.nextCommentId review analysis.filename analysis.issues
  constructor
  case tables => rfl
  case fileChange => rfl
  case comments => exact rowsOfIssues_tell ..
  case fileChangeId => exact fun g hg => lt_nextId (List.mem_map_of_mem hg)
  case commentIds =>
    intro c hc d hd
    have hold : c.id < t.nextCommentId := lt_nextId (List.mem_map_of_mem hc)
    exact Int.lt_of_lt_of_le hold (hnext d.id (List.mem_map_of_mem hd))
  case ascending => exact hascending

end Tables

/-! ## One call -/

namespace Database

variable {db : Database} {now : Moment} {t : Tables}

theorem move_exact (hw : db.tables.WellFormed) {review : Int} {target : Text} {progress : Progress}
    {run : Option Text} {moved : Bool} (h : db.move now review target progress run = .ok (moved, t)) :
    (moved = true ↔ ∃ r ∈ db.tables.reviews, r.id = review ∧ r.MayGo target run) ∧
    (moved = true → ∃ r r', r.id = review ∧ r.GoneTo now target progress r' ∧ db.tables.Replaces r r' t) ∧
    (moved = false → t = db.tables) := by
  obtain ⟨r, status, hr, rfl, hmay, rfl, rfl⟩ | ⟨rfl, rfl, hno⟩ := move_cases h
  · obtain ⟨hsucc, hadmits⟩ := mayMove_iff.1 hmay
    have hmem := Tables.review?_mem hr
    obtain rfl : r.id = review := Tables.review?_id hr
    refine ⟨iff_of_true rfl ⟨r, hmem, rfl, hadmits, status, hsucc, rfl⟩, fun _ => ?_, nofun⟩
    exact ⟨r, _, rfl, r.goneTo_moved now status progress, Tables.replaces_updateReview hw hmem _⟩
  · refine ⟨iff_of_false nofun ?_, nofun, fun _ => rfl⟩
    rintro ⟨r, hmem, rfl, hadmits, status, hsucc, rfl⟩
    exact hno r status (Tables.review?_of_mem hw hmem) rfl (mayMove_iff.2 ⟨hsucc, hadmits⟩)

theorem addAnalysis_exact (hw : db.tables.WellFormed) {review : Int} {run status : Text} {analysis : Analysis}
    {complexity : Int} {recorded : Bool}
    (h : db.addAnalysis review run status analysis complexity = .ok (recorded, t)) :
    (recorded = true ↔ ∃ r ∈ db.tables.reviews, r.id = review ∧ r.MayGain run) ∧
    (recorded = true → ∃ f cs, db.tables.Gains review status analysis complexity t f cs) ∧
    (recorded = false → t = db.tables) := by
  obtain ⟨r, hr, hrun, hactive, rfl, rfl⟩ | ⟨rfl, rfl, hno⟩ := addAnalysis_cases h
  · refine ⟨iff_of_true rfl ⟨r, Tables.review?_mem hr, Tables.review?_id hr, hrun, hactive⟩, fun _ => ?_, nofun⟩
    exact ⟨_, _, db.tables.gains_addRows review status analysis complexity⟩
  · refine ⟨iff_of_false nofun ?_, nofun, fun _ => rfl⟩
    rintro ⟨r, hmem, rfl, hrun, hactive⟩
    have hterminal := hno r (Tables.review?_of_mem hw hmem) hrun
    rw [← ReviewStatus.isActive_eq_false_iff, hactive] at hterminal
    cases hterminal

/-- While the database is up, a call that carries nothing unbindable is answered. -/
theorem after_answers (calls : List TimedCall) {c : TimedCall} (hup : c.isUp = true)
    (hbinds : ∀ p ∈ c.call.carried (after {} calls).tables, p.isBindable = true) :
    ∃ reply, (c.perform (after {} calls)).1 = .ok reply ∧
      c.call.transaction (c.finds (after {} calls)) c.now = .ok (reply, ((after {} calls).performed c).tables) := by
  have havailable : (c.finds (after {} calls)).Available := ⟨hup, after_hasTables {} calls⟩
  obtain ⟨reply, hreply⟩ : ∃ reply, (c.perform (after {} calls)).1 = .ok reply :=
    StoreCall.perform_ok_of_binds havailable hbinds
  obtain ⟨failure, hfails, -⟩ | ⟨reply', hreply', htransaction⟩ := performed_cases (after {} calls) c
  · cases hreply.symm.trans hfails
  · exact ⟨reply', hreply', htransaction⟩

/-- A call that carries something unbindable fails and changes nothing. -/
theorem after_fails (calls : List TimedCall) {c : TimedCall} (hup : c.isUp = true)
    (hbinds : ∃ p ∈ c.call.carried (after {} calls).tables, p.isBindable = false) :
    (∃ e, (c.perform (after {} calls)).1 = .error e ∧ e.isUnbindable = true) ∧
      ((after {} calls).performed c).tables = (after {} calls).tables := by
  have havailable : (c.finds (after {} calls)).Available := ⟨hup, after_hasTables {} calls⟩
  obtain ⟨e, hfails, he⟩ : ∃ e, (c.perform (after {} calls)).1 = .error e ∧ e.isUnbindable = true :=
    StoreCall.perform_unbindable_iff.2 ⟨havailable, hbinds⟩
  obtain ⟨-, -, htables⟩ | ⟨reply, hreply, -⟩ := performed_cases (after {} calls) c
  · exact ⟨⟨e, hfails, he⟩, htables⟩
  · cases hreply.symm.trans hfails

end Database

/-- **Guarded writes are exact.** In whatever state calls have left the database, while it is up: a write that carries
an integer which fits no column or a text which cannot be encoded fails and changes nothing. Any other is answered: a
review is moved exactly if it is there, the run is its own or not named, and its status allows the target, and then its
row is the only one that changes; rows are derived exactly if the review is there under that run and active, and then
those of the file and of its issues are all that is added. A write that is refused changes nothing. -/
theorem guarded_writes_exact (calls : List TimedCall) (now : Moment) :
    let db := Database.after {} calls
    (∀ call : StoreCall, (∃ p ∈ call.carried db.tables, p.isBindable = false) →
      let c : TimedCall := ⟨now, true, call⟩
      (∃ e, (c.perform db).1 = .error e ∧ e.isUnbindable = true) ∧ (db.performed c).tables = db.tables) ∧
    (∀ review target progress run,
      let c : TimedCall := ⟨now, true, .move review target progress run⟩
      (∀ p ∈ c.call.carried db.tables, p.isBindable = true) →
      ∃ moved : Bool, (c.perform db).1 = .ok moved ∧
        (moved = true ↔ ∃ r ∈ db.tables.reviews, r.id = review ∧ r.MayGo target run) ∧
        (moved = true → ∃ r r', r.id = review ∧ r.GoneTo now target progress r' ∧
          db.tables.Replaces r r' (db.performed c).tables) ∧
        (moved = false → (db.performed c).tables = db.tables)) ∧
    (∀ review run status (analysis : Analysis) complexity,
      let c : TimedCall := ⟨now, true, .addAnalysis review run status analysis complexity⟩
      (∀ p ∈ c.call.carried db.tables, p.isBindable = true) →
      ∃ recorded : Bool, (c.perform db).1 = .ok recorded ∧
        (recorded = true ↔ ∃ r ∈ db.tables.reviews, r.id = review ∧ r.MayGain run) ∧
        (recorded = true → ∃ f cs,
          db.tables.Gains review status analysis complexity (db.performed c).tables f cs) ∧
        (recorded = false → (db.performed c).tables = db.tables)) := by
  intro db
  have hw : db.tables.WellFormed := Database.after_wellFormed Tables.wellFormed_empty calls
  refine ⟨fun call hbinds => Database.after_fails calls rfl hbinds, ?_, ?_⟩
  case refine_1 =>
    intro review target progress run c hbinds
    obtain ⟨moved, hmoved, htransaction⟩ := Database.after_answers calls (c := c) rfl hbinds
    have hw : (c.finds db).tables.WellFormed := hw
    exact ⟨moved, hmoved, Database.move_exact hw htransaction⟩
  case refine_2 =>
    intro review run status analysis complexity c hbinds
    obtain ⟨recorded, hrecorded, htransaction⟩ := Database.after_answers calls (c := c) rfl hbinds
    have hw : (c.finds db).tables.WellFormed := hw
    exact ⟨recorded, hrecorded, Database.addAnalysis_exact hw htransaction⟩

/-- Pull request 12 queued and its review under way. -/
def underway : List TimedCall :=
  [queueing, { now := 101, call := .move 1 "in_progress" (.fetching 10) (some "run-1") }]

def oneIssue : Analysis where
  filename := "app.py"
  language := "python"
  additions := 2
  deletions := 0
  patch := "@@ -0,0 +1,2 @@"
  inScope := true
  issues := [{ line := 1, severity := .high, category := .security, message := "hardcoded secret" }]

/-- The current run completes its review and records a file; for any other run both are refused. For a run that cannot
be encoded a move fails. -/
theorem guarded_writes_exact_underway :
    let db := Database.after {} underway
    let completes run : TimedCall := ⟨102, true, .move 1 "completed" (.completed 100 1 1) (some run)⟩
    let records run : TimedCall := ⟨102, true, .addAnalysis 1 run "added" oneIssue 3⟩
    (∀ p ∈ (completes "run-1").call.carried db.tables, p.isBindable = true) ∧
    (∀ p ∈ (records "run-1").call.carried db.tables, p.isBindable = true) ∧
    (∃ p ∈ (completes .unpaired).call.carried db.tables, p.isBindable = false) ∧
    (∃ r r', r.id = 1 ∧ r.GoneTo 102 "completed" (.completed 100 1 1) r' ∧
      db.tables.Replaces r r' (db.performed (completes "run-1")).tables) ∧
    (db.performed (completes "run-2")).tables = db.tables ∧
    (∃ f cs, db.tables.Gains 1 "added" oneIssue 3 (db.performed (records "run-1")).tables f cs) ∧
    (db.performed (records "run-2")).tables = db.tables ∧
    (db.performed (completes .unpaired)).tables = db.tables := by
  intro db completes records
  have hcompletes : ∀ p ∈ (completes "run-1").call.carried db.tables, p.isBindable = true := by decide
  have hrecords : ∀ p ∈ (records "run-1").call.carried db.tables, p.isBindable = true := by decide
  have hunpaired : ∃ p ∈ (completes .unpaired).call.carried db.tables, p.isBindable = false := by decide
  obtain ⟨hfails, hmove, hrecord⟩ := guarded_writes_exact underway 102
  refine ⟨hcompletes, hrecords, hunpaired, ?_, ?_, ?_, ?_, ?_⟩
  case refine_1 =>
    obtain ⟨moved, hmoved, -, htrue, -⟩ := hmove 1 "completed" (.completed 100 1 1) (some "run-1") hcompletes
    have hyes : ((completes "run-1").perform db).1 = .ok true := rfl
    exact htrue (Except.ok.inj (hmoved.symm.trans hyes))
  case refine_2 =>
    obtain ⟨moved, hmoved, -, -, hfalse⟩ := hmove 1 "completed" (.completed 100 1 1) (some "run-2") (by decide)
    have hno : ((completes "run-2").perform db).1 = .ok false := rfl
    exact hfalse (Except.ok.inj (hmoved.symm.trans hno))
  case refine_3 =>
    obtain ⟨recorded, hrecorded, -, htrue, -⟩ := hrecord 1 "run-1" "added" oneIssue 3 hrecords
    have hyes : ((records "run-1").perform db).1 = .ok true := rfl
    exact htrue (Except.ok.inj (hrecorded.symm.trans hyes))
  case refine_4 =>
    obtain ⟨recorded, hrecorded, -, -, hfalse⟩ := hrecord 1 "run-2" "added" oneIssue 3 (by decide)
    have hno : ((records "run-2").perform db).1 = .ok false := rfl
    exact hfalse (Except.ok.inj (hrecorded.symm.trans hno))
  case refine_5 => exact (hfails _ hunpaired).2

/-- The current run of an active review cannot record a file whose patch cannot be encoded, though the guard allows it
and all integers fit. -/
theorem guarded_writes_unencodable :
    let db := Database.after {} underway
    let records : TimedCall := ⟨102, true, .addAnalysis 1 "run-1" "added" { oneIssue with patch := .unpaired } 3⟩
    (∃ r ∈ db.tables.reviews, r.id = 1 ∧ r.MayGain "run-1") ∧
      (records.perform db).1 =
        .error (.unencodable { first := ⟨0⟩, position := 0, count := 1 }) ∧
      (db.performed records).tables = db.tables :=
  ⟨⟨_, List.mem_singleton_self _, rfl, rfl, rfl⟩, rfl, rfl⟩

end PullReview
