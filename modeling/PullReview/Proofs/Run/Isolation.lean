import PullReview.Proofs.Run.Ownership
import PullReview.Proofs.Store.Merged

/-!
# Runs do not mix

However the handlers of any deliveries interleave, whichever tokens are set and whichever requests
fail: the rows of a review are those of the first of the files fetched by its current run
(`run_isolation`), and a completed review has the rows of all of them and the right counts
(`completed_means_complete`). The invariant is that what is kept about a review agrees with the memory
of the task that owns it (`Memory.Tracks`).
-/

namespace PullReview

/-! ## Rows and records -/

/-- A row whatever its id. -/
def FileChange.content (f : FileChange) : FileChange := { f with id := 0 }

def Comment.content (c : Comment) : Comment := { c with id := 0 }

/-- The row of a record. -/
def Record.fileChange (review : Int) (r : Record) : FileChange :=
  Database.rowOfAnalysis 0 review r.status r.analysis r.complexity

/-- The row of an issue. -/
def Issue.comment (review : Int) (filename : Text) (i : Issue) : Comment :=
  { id := 0, review, filename, line := i.line, severity := i.severity, category := i.category
    message := i.message, suggestion := i.suggestion, rule := i.rule }

/-- The rows of the issues of a record. -/
def Record.comments (review : Int) (r : Record) : List Comment :=
  r.analysis.issues.map (Issue.comment review r.analysis.filename)

theorem rowsOfIssues_content (id review : Int) (filename : Text) (issues : List Issue) :
    (Database.rowsOfIssues id review filename issues).map Comment.content =
      issues.map (Issue.comment review filename) := by
  induction issues generalizing id with
  | nil => rfl
  | cons i is ih =>
    rw [Database.rowsOfIssues, List.map_cons, List.map_cons, ih]
    rfl

/-- The rows of a review are those of the analyses of some files, in order. -/
def Tables.RowsOf (t : Tables) (review : Int) (files : List ChangedFile) : Prop :=
  ∃ records, files.mapM ChangedFile.record = .ok records ∧
    (t.fileChangesOf review).map FileChange.content = records.map (·.fileChange review) ∧
    (t.commentsOf review).map Comment.content = records.flatMap (·.comments review)

/-! ## Agreeing with memory -/

/-- What is kept about a review agrees with the memory of the task that owns it. -/
structure Memory.Tracks (m : Memory) (d : Dossier) : Prop where
  fileChanges : d.fileChanges.map FileChange.content = m.records.map (·.fileChange d.review.id)
  comments : d.comments.map Comment.content = m.records.flatMap (·.comments d.review.id)
  begun : m.begun = true → d.review.status ≠ .pending
  toReview : ∀ j, d.review.data.get? "files_to_review" = some j → m.AllRecorded ∧ j = .int m.tally.toReview
  completed : d.review.status = .completed → m.AllRecorded ∧
    d.review.data.get? "files_analyzed" = some (.int m.tally.analyzed) ∧
    d.review.data.get? "issues_found" = some (.int m.tally.issues)

namespace Memory.Tracks

variable {m : Memory} {d : Dossier} {v : Int} {now : Moment}

/-- Memory may change otherwise. -/
theorem congr (h : m.Tracks d) {m' : Memory} (hr : m'.records = m.records) (hb : m'.begun = m.begun)
    (ha : m.AllRecorded → m'.AllRecorded) : m'.Tracks d := by
  have ht : m'.tally = m.tally := by
    unfold Memory.tally
    rw [hr]
  constructor
  case fileChanges =>
    rw [hr]
    exact h.fileChanges
  case comments =>
    rw [hr]
    exact h.comments
  case begun =>
    rw [hb]
    exact h.begun
  case toReview =>
    intro j hj
    rw [ht]
    exact (h.toReview j hj).imp_left ha
  case completed =>
    intro hc
    rw [ht]
    exact (h.completed hc).imp_left ha

/-- A request that writes nothing about the review of the run. -/
theorem after_kept (h : m.Tracks d) {e : Entry} (hr : m.Allows e.request) {run : String}
    (hm : m.ticket = some ⟨v, run⟩) (hw : e.written? ≠ some v) : (m.after e.request e.reply).Tracks d := by
  obtain ⟨i, w, r, reply⟩ := e
  have hne : m ≠ {} := by
    rintro rfl
    cases hm
  cases r with
  | store call =>
    cases call with
    | move review target progress run =>
      obtain ⟨ticket, -, hticket, rfl, -⟩ := hr
      rw [hm, Option.some.injEq] at hticket
      subst hticket
      rcases reply with e | (_ | _)
      · exact h.congr rfl rfl id
      · exact h.congr rfl rfl id
      · exact absurd rfl hw
    | addAnalysis review run =>
      obtain ⟨⟨ticket, hticket, rfl, -⟩, -⟩ := hr
      rw [hm, Option.some.injEq] at hticket
      subst hticket
      rcases reply with e | (_ | _)
      · exact h.congr rfl rfl id
      · exact h.congr rfl rfl id
      · exact absurd rfl hw
    | _ => exact absurd hr hne
  | fetchFiles =>
    rcases reply with e | files
    · exact h
    · refine h.congr rfl rfl fun ha => ?_
      rw [AllRecorded, hr.2] at ha
      cases ha.1
  | analyze => exact h
  | isCancelled => rcases reply with e | (_ | _) <;> exact h.congr rfl rfl id
  | startRun | cancelRun | finishRun => rcases reply with e | reply <;> exact h.congr rfl rfl id

/-- A move changes nothing of what has been recorded. -/
theorem after_move_recorded (m : Memory) (review : Int) (target : Text) (progress : Progress)
    (run : Option Text) :
    (m.after (.store (.move review target progress run)) (.ok true)).records = m.records ∧
    ((m.after (.store (.move review target progress run)) (.ok true)).AllRecorded ↔ m.AllRecorded) ∧
    (m.after (.store (.move review target progress run)) (.ok true)).tally = m.tally := by
  simp only [Memory.after]
  split <;> exact ⟨rfl, Iff.rfl, rfl⟩

/-- A move on behalf of the run. -/
theorem after_moved (h : m.Tracks d) {status : ReviewStatus} {progress : Progress} (hw : m.Writes status progress)
    (review : Int) (run : Option Text) :
    (m.after (.store (.move review (Named.name status) progress run)) (.ok true)).Tracks
      (d.moved now status progress.written) := by
  obtain ⟨hrecords, hall, htally⟩ := after_move_recorded m review (Named.name status) progress run
  constructor
  case fileChanges =>
    rw [hrecords]
    exact h.fileChanges
  case comments =>
    rw [hrecords]
    exact h.comments
  case begun =>
    intro _ hcancelled
    cases hw <;> cases hcancelled
  case toReview =>
    intro j hj
    rw [hall, htally]
    cases hw with
    | ready ha =>
      have hcount : j = .int m.tally.toReview := by
        simpa [Dossier.moved, Database.moved, Progress.written, Progress.toMembers, Progress.toMembers.tag,
          Members.withoutNulls, Members.merge, Members.get?_set, eq_comm] using hj
      exact ⟨ha, hcount⟩
    | _ =>
      -- no other step writes the member
      refine h.toReview j ?_
      rw [← hj]
      refine (Members.get?_merge_of_forall_ne ?_).symm
      simp [Progress.written, Progress.toMembers, Progress.toMembers.tag, Members.withoutNulls, Json.ofOption]
  case completed =>
    rw [hall, htally]
    cases hw with
    | completed hb ha =>
      intro _
      refine ⟨ha, ?_, ?_⟩ <;>
        simp [Dossier.moved, Database.moved, Progress.written, Progress.toMembers, Progress.toMembers.tag,
          Members.withoutNulls, Members.merge, Members.get?_set]
    | _ =>
      intro hc
      cases hc

/-- Rows added on behalf of the run. -/
theorem after_extended (h : m.Tracks d) (hid : d.review.id = v) {run status : Text} {analysis : Analysis}
    {complexity : Int} (hr : m.Allows (.store (.addAnalysis v run status analysis complexity)))
    (id commentId : Int) :
    (m.after (.store (.addAnalysis v run status analysis complexity)) (.ok true)).Tracks
      (d.extended (Database.rowOfAnalysis id v status analysis complexity)
        (Database.rowsOfIssues commentId v analysis.filename analysis.issues)) := by
  obtain ⟨-, -, -, file, rest, hleft, -⟩ := hr
  have hopen : ¬ m.AllRecorded := by
    rw [AllRecorded, hleft]
    nofun
  constructor
  case fileChanges =>
    simp only [Dossier.extended, Memory.after, List.map_append, h.fileChanges, hid]
    rfl
  case comments =>
    simp only [Dossier.extended, Memory.after, List.map_append, List.flatMap_append, h.comments, hid,
      rowsOfIssues_content, Record.comments, List.flatMap_singleton]
  case begun => exact h.begun
  case toReview =>
    intro j hj
    exact absurd (h.toReview j hj).1 hopen
  case completed =>
    intro hc
    exact absurd (h.completed hc).1 hopen

theorem cancelled (h : m.Tracks d) (reason : Text) : m.Tracks (d.cancelled now reason) := by
  refine ⟨h.fileChanges, h.comments, fun _ => nofun, fun j hj => h.toReview j ?_, nofun⟩
  rw [← hj]
  refine (Members.get?_merge_of_forall_ne ?_).symm
  simp [Progress.toMembers, Progress.toMembers.tag]

theorem queued (ticket : Ticket) (number : Int) (repository : Text) (installation : Int)
    (summary : PullRequestSummary) :
    ({ ticket := some ticket } : Memory).Tracks (.queued ticket now number repository installation summary) := by
  refine ⟨rfl, rfl, nofun, fun j hj => ?_, nofun⟩
  simp [Dossier.queued, PullRequestSummary.toMembers, Members.get?] at hj

end Memory.Tracks

/-! ## The invariant -/

/-- Every review agrees with the memory of its owner. -/
def Traced (db : Database) (log : List Entry) : Prop :=
  ∀ {v d}, db.tables.dossier? v = some d →
    ∃ i, (memoryOf log i).ticket = some ⟨v, d.review.run⟩ ∧ (memoryOf log i).Tracks d

/-- The step: what an entry does to a review, its owner remembers. -/
theorem Traced.concat {s s' : Service} {log : List Entry} {e : Entry} (h : Traced s.database log)
    (ho : Owned s.database log) (hf : e.Follows log) (hs : e.Happens s s') : Traced s'.database (log ++ [e]) := by
  intro v d' hd'
  have hturns := (hs.effects hf ho.tables).turns v
  rw [hd'] at hturns
  generalize hbefore : s.database.tables.dossier? v = before at hturns
  cases hturns with
  | queued _ number repository installation summary ht hv =>
    refine ⟨e.task, ?_⟩
    rw [(hf.of_ticket ht).2]
    exact ⟨by rw [← hv]; rfl, .queued ..⟩
  | cancelled reason hc ha =>
    obtain ⟨i, hi, htracks⟩ := h hbefore
    have hother : e.task ≠ i := by
      rintro rfl
      rw [hf.of_cancelled hc] at hi
      cases hi
    exact ⟨i, takes_ticket.concat hf hi, by rw [memoryOf_concat, if_neg hother]; exact htracks.cancelled reason⟩
  | @moved d j w status progress he hticket hw _ =>
    obtain ⟨i, hi, htracks⟩ := h hbefore
    obtain rfl := ho.unique hticket hi rfl
    refine ⟨j, takes_ticket.concat hf hi, ?_⟩
    subst he
    rw [memoryOf_concat, if_pos rfl]
    exact htracks.after_moved hw ..
  | @extended d j w status analysis complexity id commentId he _ =>
    obtain ⟨i, hi, htracks⟩ := h hbefore
    subst he
    obtain ⟨ticket, hticket, rfl, hrun⟩ := hf.1.1
    obtain rfl := ho.unique hticket hi (Text.ofString_inj.1 hrun).symm
    refine ⟨j, takes_ticket.concat hf hi, ?_⟩
    rw [memoryOf_concat, if_pos rfl]
    exact htracks.after_extended (Tables.dossier?_id hbefore) hf.1 id commentId
  | kept _ _ hw =>
    obtain ⟨i, hi, htracks⟩ := h hbefore
    refine ⟨i, takes_ticket.concat hf hi, ?_⟩
    rw [memoryOf_concat]
    split
    · rename_i htask
      exact htracks.after_kept (htask ▸ hf.1) hi hw
    · exact htracks

theorem History.traced {s : Service} {log : List Entry} (h : History Service.Drifts s log) :
    Traced s.database log := by
  induction h with
  | start now =>
    intro v d hd
    cases hd
  | entry h hf _ hs ih => exact ih.concat h.owned hf hs
  | drift _ hs ih =>
    intro v d hd
    exact ih (hs.1 ▸ hd)

/-! ## What holds of the tables -/

theorem Memory.Tracks.counts {m : Memory} {d : Dossier} (h : m.Tracks d) :
    m.tally = ⟨d.fileChanges.length, d.comments.length, d.fileChanges.countP (·.inScope)⟩ := by
  have hlength := congrArg List.length h.fileChanges
  have hissues := congrArg List.length h.comments
  have hscope := congrArg (List.countP (·.inScope)) h.fileChanges
  simp only [List.length_map, List.length_flatMap, List.countP_map, Record.comments] at hlength hissues hscope
  unfold Memory.tally
  rw [hlength, hissues, List.length_flatMap,
    show d.fileChanges.countP (·.inScope) = m.records.countP (·.analysis.inScope) from hscope]

/-- The task alone has drawn the current run of a review. -/
def Pool.Owns (p : Pool) (i : Nat) (r : Review) : Prop :=
  p.Runs i ⟨r.id, r.run⟩ ∧ ∀ j ticket, p.Runs j ticket → ticket.run = r.run → j = i

/-- Runs are drawn once, so who remembers having drawn the run of a review owns it. -/
theorem Pool.Reachable.owns {p : Pool} (h : p.Reachable Service.Drifts) {r : Review} {i : Nat}
    (hi : (memoryOf p.log i).ticket = some ⟨r.id, r.run⟩) : p.Owns i r := by
  have hh := h.history
  refine ⟨takes_ticket.exists_mem hh.orderly hi, fun j ticket hj hrun => ?_⟩
  obtain ⟨e, he, rfl, hticket⟩ := hj
  exact hh.owned.unique (takes_ticket.of_mem hh.orderly he hticket) hi hrun

/-- What is known of a review in any pool: the task of its current run, and its rows. -/
theorem Pool.Reachable.traced {p : Pool} (h : p.Reachable Service.Drifts) {r : Review}
    (hr : r ∈ p.tables.reviews) :
    ∃ i, p.Owns i r ∧ p.fetched? i = (memoryOf p.log i).files ∧
      (memoryOf p.log i).Tracks ⟨r, p.tables.fileChangesOf r.id, p.tables.commentsOf r.id⟩ := by
  have hh := h.history
  obtain ⟨d, hd, rfl⟩ := Tables.dossier?_of_mem hh.owned.tables hr
  obtain ⟨i, hi, htracks⟩ := hh.traced hd
  obtain ⟨-, hf, hc⟩ := Tables.dossier?_eq_some_iff.1 hd
  obtain ⟨review, fileChanges, comments⟩ := d
  simp only at hf hc
  subst hf hc
  exact ⟨i, h.owns hi, (takes_files.eq_findSome? hh.orderly i).symm, htracks⟩

/-- The rows of a review are those of what its owner has recorded. -/
theorem Memory.Tracks.rowsOf {m : Memory} {t : Tables} {r : Review} {files : List ChangedFile}
    (h : m.Tracks ⟨r, t.fileChangesOf r.id, t.commentsOf r.id⟩)
    (hr : files.mapM ChangedFile.record = .ok m.records) :
    t.RowsOf r.id files :=
  ⟨m.records, hr, h.fileChanges, h.comments⟩

/-- **No two runs mix.** In any pool, whatever tokens are set and whatever requests fail: the rows of a
review, in the order of their ids, are those of the first of the files fetched by the one task that
has drawn the review's run; and every row has its review. -/
theorem run_isolation {p : Pool} (h : p.Reachable Service.Drifts) :
    (∀ r ∈ p.tables.reviews, ∃ i done, p.Owns i r ∧ done <+: (p.fetched? i).getD [] ∧ p.tables.RowsOf r.id done) ∧
    (p.tables.fileChanges.map (·.id)).Pairwise (· < ·) ∧ (p.tables.comments.map (·.id)).Pairwise (· < ·) ∧
    (∀ f ∈ p.tables.fileChanges, ∃ r ∈ p.tables.reviews, r.id = f.review) ∧
    ∀ c ∈ p.tables.comments, ∃ r ∈ p.tables.reviews, r.id = c.review := by
  have hh := h.history
  have hw := hh.owned.tables
  refine ⟨fun r hr => ?_, hw.fileChangeIds, hw.commentIds, fun f hf => ?_, fun c hc => ?_⟩
  · obtain ⟨i, hi, hfetched, htracks⟩ := h.traced hr
    obtain ⟨done, hfiles, hdone⟩ := (sound_memoryOf hh.orderly i).recorded
    refine ⟨i, done, hi, ⟨(memoryOf p.log i).left, ?_⟩, htracks.rowsOf hdone⟩
    rw [hfetched, hfiles]
  · exact List.mem_map.1 (hw.fileChangesOwned f hf)
  · exact List.mem_map.1 (hw.commentsOwned c hc)

/-- A pull request is opened or pushed to. -/
def dueReview (action : QueueAction) : Event :=
  .reviewDue action { number := 12 } { id := 5, fullName := "acme/widgets" } { id := 77 }

def twoFiles : List ChangedFile :=
  [{ filename := "app.py", patch := some "@@ -0,0 +1 @@\n+print(x)" }, { filename := "logo.png", status := .added }]

/-- A pull request is pushed to when the run of its review has recorded one file of two. The second run
gets to make some requests, then the first goes on. -/
def overlapping (requests : Nat) : Pool :=
  .play (fun _ _ _ _ => .ok twoFiles)
    ([.arrive 0 (dueReview .opened)] ++ List.replicate 8 (.perform 0) ++ [.arrive 0 (dueReview .synchronize)] ++
      List.replicate requests (.perform 1) ++ List.replicate 10 (.perform 0))

theorem overlapping_isolated :
    (overlapping 8).Reachable Service.Drifts ∧
    (overlapping 8).tables.reviews.map (·.run) = ["run-2"] ∧ (overlapping 8).tables.fileChanges.length = 1 ∧
    ∀ r ∈ (overlapping 8).tables.reviews, ∃ i done, (overlapping 8).Owns i r ∧
      done <+: ((overlapping 8).fetched? i).getD [] ∧ (overlapping 8).tables.RowsOf r.id done :=
  have h := Pool.reachable_play ..
  ⟨h, by decide +kernel, by decide +kernel, (run_isolation h).1⟩

/-- **Completed means complete.** In any pool, whatever requests fail: a completed review has the rows of
all files fetched by the task that has drawn its run, and the counts recorded are those of its rows. -/
theorem completed_means_complete {p : Pool} (h : p.Reachable Service.Drifts) {r : Review}
    (hr : r ∈ p.tables.reviews) (hc : r.status = .completed) :
    ∃ i files, p.Owns i r ∧ p.fetched? i = some files ∧ p.tables.RowsOf r.id files ∧
      r.data.get? "files_analyzed" = some (.int (p.tables.fileChangesOf r.id).length) ∧
      r.data.get? "issues_found" = some (.int (p.tables.commentsOf r.id).length) ∧
      ∀ j, r.data.get? "files_to_review" = some j → j = .int ((p.tables.fileChangesOf r.id).countP (·.inScope)) := by
  obtain ⟨i, hi, hfetched, htracks⟩ := h.traced hr
  obtain ⟨⟨hsome, hleft⟩, hanalyzed, hissues⟩ := htracks.completed hc
  obtain ⟨files, hfiles⟩ := Option.isSome_iff_exists.1 hsome
  obtain ⟨done, hall, hdone⟩ := (sound_memoryOf h.history.orderly i).recorded
  rw [hfiles, hleft, Option.getD_some, List.append_nil] at hall
  subst hall
  have hcounts := htracks.counts
  rw [hcounts] at hanalyzed hissues
  refine ⟨i, files, hi, hfetched.trans hfiles, htracks.rowsOf hdone, hanalyzed, hissues, fun j hj => ?_⟩
  have := (htracks.toReview j hj).2
  rwa [hcounts] at this

theorem overlapping_complete :
    ∃ r ∈ (overlapping 20).tables.reviews, r.status = .completed ∧
      ∃ i files, (overlapping 20).Owns i r ∧ (overlapping 20).fetched? i = some files ∧
        (overlapping 20).tables.RowsOf r.id files ∧
        r.data.get? "files_analyzed" = some (.int ((overlapping 20).tables.fileChangesOf r.id).length) ∧
        r.data.get? "issues_found" = some (.int ((overlapping 20).tables.commentsOf r.id).length) ∧
        ∀ j, r.data.get? "files_to_review" = some j →
          j = .int (((overlapping 20).tables.fileChangesOf r.id).countP (·.inScope)) := by
  have hany : (overlapping 20).tables.reviews.any (·.status = .completed) = true := by decide +kernel
  obtain ⟨r, hr, hc⟩ := List.any_eq_true.1 hany
  have hc : r.status = .completed := by simpa using hc
  exact ⟨r, hr, hc, completed_means_complete (Pool.reachable_play ..) hr hc⟩

end PullReview
