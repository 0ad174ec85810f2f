import PullReview.Proofs.Store.Placement
import PullReview.Proofs.Run.Isolation

/-!
# Runs by themselves

While the database answers and nothing else steps in, what a run leaves of its review follows from what
was queued and from the files fetched (`Dossier.concluded`). The id of the review, its run, the time and
whatever else is kept have no part in it (`Run.program_alone`). The one exception is a review whose id
fits no column, of which nothing is written (`Run.program_unfit`).
-/

namespace PullReview

/-! ## What is known of a review whatever its id -/

/-- A review whatever its run and its times. -/
def Review.content (r : Review) : Review :=
  { r with run := "", createdAt := 0, updatedAt := 0, completedAt := r.completedAt.map fun _ => 0 }

namespace Dossier

/-- A dossier whatever its ids, its run and its times. -/
def bare (d : Dossier) : Dossier where
  review := { d.review.content with id := 0 }
  fileChanges := d.fileChanges.map fun f => { f.content with review := 0 }
  comments := d.comments.map fun c => { c.content with review := 0 }

/-- The dossier with the record of one more file. -/
def recorded (d : Dossier) (r : Record) : Dossier := d.extended (r.fileChange 0) (r.comments 0)

@[simp] theorem recorded_review (d : Dossier) (r : Record) : (d.recorded r).review = d.review := rfl

theorem bare_moved (d : Dossier) (now : Moment) (status : ReviewStatus) (written : Members) :
    (d.moved now status written).bare = d.bare.moved 0 status written := by
  simp only [bare, moved, Database.moved, Review.content, Dossier.mk.injEq, Review.mk.injEq, true_and, and_true]
  split <;> rfl

theorem bare_extended (d : Dossier) (id review commentId : Int) (r : Record) :
    (d.extended (Database.rowOfAnalysis id review r.status r.analysis r.complexity)
      (Database.rowsOfIssues commentId review r.analysis.filename r.analysis.issues)).bare = d.bare.recorded r := by
  have hcomments : (Database.rowsOfIssues commentId review r.analysis.filename r.analysis.issues).map
      (fun c => { c.content with review := 0 }) = r.comments 0 := by
    have hcontent := congrArg (List.map fun c : Comment => { c with review := 0 })
      (rowsOfIssues_content commentId review r.analysis.filename r.analysis.issues)
    rw [List.map_map, List.map_map] at hcontent
    exact hcontent
  simp only [bare, recorded, extended, List.map_append, hcomments]
  rfl

end Dossier

/-! ## What a run leaves -/

/-- Why a record cannot be written, if it cannot, which does not depend on the review. -/
def Record.fault? (r : Record) : Option Failure :=
  Param.fault? (Database.paramsOfRows 0 r.status r.analysis r.complexity)

/-- What is recorded of a file, or why it cannot be. -/
def ChangedFile.kept (f : ChangedFile) : Except Failure Record :=
  match f.record with
  | .error e => .error (.longNumeral e)
  | .ok r => match r.fault? with
    | none => .ok r
    | some e => .error e

namespace Dossier

/-- A progress write. -/
def noted (d : Dossier) (progress : Progress) : Dossier := d.moved 0 .inProgress progress.written

/-- The files left of `total` are analysed and recorded, up to the first that cannot be. -/
def analyzed (total : Nat) : List ChangedFile → Tally → Dossier → Except Failure Tally × Dossier
  | [], tally, d => (.ok tally, d)
  | file :: files, tally, d =>
    match file.kept with
    | .error e => (.error e, d)
    | .ok r =>
      let tally := Run.count tally r.analysis
      analyzed total files tally
        ((d.recorded r).noted (.analyzing (Run.percentage tally.analyzed total) none (some tally.analyzed)))

/-- The review is completed with what was counted. -/
def completed (d : Dossier) (tally : Tally) : Dossier :=
  (d.noted (.ready Progress.readyStart tally.analyzed tally.toReview)).moved 0 .completed
    (Progress.completed Progress.allDone tally.analyzed tally.issues).written

/-- The steps of a run, up to the first that fails. -/
def ran (d : Dossier) (fetched : Except Failure (List ChangedFile)) : Except Failure Tally × Dossier :=
  let d := d.noted (.fetching Progress.fetchingStart)
  match fetched with
  | .error e => (.error e, d)
  | .ok files =>
    match (d.noted (.analyzing Progress.analyzingStart (some files.length) none)).analyzed files.length files {} with
    | (.error e, d) => (.error e, d)
    | (.ok tally, d) => (.ok tally, d.completed tally)

/-- A whole run: a failure fails the review. -/
def concluded (d : Dossier) (fetched : Except Failure (List ChangedFile)) : Dossier :=
  match d.ran fetched with
  | (.error e, d) => d.moved 0 .failed (Progress.failed e.message).written
  | (.ok _, d) => d

theorem mem_noted_successors {d : Dossier} {progress : Progress} {status : ReviewStatus} (h : status ≠ .pending) :
    status ∈ (d.noted progress).review.status.successors := by
  cases status <;> simp_all [noted, moved, Database.moved, ReviewStatus.successors]

/-- A run that fails leaves its review in progress until the failure is written. -/
theorem analyzed_status (total : Nat) (files : List ChangedFile) (tally : Tally) {d : Dossier}
    (h : d.review.status = .inProgress) : (analyzed total files tally d).2.review.status = .inProgress := by
  induction files generalizing tally d with
  | nil => exact h
  | cons file files ih =>
    rw [analyzed]
    split
    · exact h
    · exact ih _ rfl

theorem ran_status {d e : Dossier} {fetched : Except Failure (List ChangedFile)} {failure : Failure}
    (h : d.ran fetched = (.error failure, e)) : e.review.status = .inProgress := by
  unfold ran at h
  cases fetched with
  | error failure =>
    cases h
    rfl
  | ok files =>
    have hstatus := analyzed_status files.length files {}
      (d := (d.noted (.fetching Progress.fetchingStart)).noted
        (.analyzing Progress.analyzingStart (some files.length) none)) rfl
    dsimp only at h
    split at h
    · rename_i hanalyzed
      cases h
      rwa [hanalyzed] at hstatus
    · cases h

theorem analyzed_key (total : Nat) (files : List ChangedFile) (tally : Tally) (d : Dossier) :
    (analyzed total files tally d).2.review.key = d.review.key := by
  induction files generalizing tally d with
  | nil => rfl
  | cons file files ih =>
    rw [analyzed]
    split
    · rfl
    · exact ih ..

theorem ran_key (d : Dossier) (fetched : Except Failure (List ChangedFile)) :
    (d.ran fetched).2.review.key = d.review.key := by
  unfold ran
  cases fetched with
  | error e => rfl
  | ok files =>
    have hkey := analyzed_key files.length files {} ((d.noted (.fetching Progress.fetchingStart)).noted
      (.analyzing Progress.analyzingStart (some files.length) none))
    dsimp only
    split
    · rename_i hanalyzed
      rwa [hanalyzed] at hkey
    · rename_i hanalyzed
      rwa [hanalyzed] at hkey

theorem concluded_key (d : Dossier) (fetched : Except Failure (List ChangedFile)) :
    (d.concluded fetched).review.key = d.review.key := by
  have hkey := d.ran_key fetched
  unfold concluded
  split
  · rename_i hran
    rwa [hran] at hkey
  · rename_i hran
    rwa [hran] at hkey

end Dossier

/-! ## Calls on behalf of a run -/

/-- The tables are as before, but for the review of the ticket, of which the rest is known. -/
def Tables.Carries (t before : Tables) (ticket : Ticket) (b : Dossier) : Prop :=
  ∃ d : Dossier, t = before.place d ∧ d.Coherent ∧ d.review.id = ticket.review ∧ d.review.run = ticket.run ∧
    d.bare = b

section Calls

variable {db : Database} {t : Tables} {ticket : Ticket} {b : Dossier}

theorem Tables.Carries.move (h : db.tables.Carries t ticket b) (ha : db.Available)
    (hfits : fitsColumn ticket.review = true) {status : ReviewStatus} (hs : status ∈ b.review.status.successors)
    (now : Moment) (progress : Progress) :
    ∃ t', db.move now ticket.review (Named.name status) progress (some ticket.run) = .ok (true, t') ∧
      t'.Carries t ticket (b.moved 0 status progress.written) := by
  obtain ⟨d, ht, hc, hid, hrun, rfl⟩ := h
  rw [← hid] at hfits
  refine ⟨_, ?_, d.moved now status progress.written, rfl, hc.moved .., hid, hrun, d.bare_moved ..⟩
  rw [← hid, ← hrun]
  exact Database.move_place ha ht hfits hs now progress

theorem Tables.Carries.addAnalysis (h : db.tables.Carries t ticket b) (ha : db.Available)
    (hfits : fitsColumn ticket.review = true) (hs : b.review.status.isActive = true) {r : Record}
    (hr : r.fault? = none) :
    ∃ t', db.addAnalysis ticket.review ticket.run r.status r.analysis r.complexity = .ok (true, t') ∧
      t'.Carries t ticket (b.recorded r) := by
  obtain ⟨d, ht, hc, hid, hrun, rfl⟩ := h
  rw [← hid] at hfits
  rw [← hid, ← hrun,
    Database.addAnalysis_place ha ht hfits hs ((Database.fault?_paramsOfRows hfits ..).trans hr)]
  exact ⟨_, rfl, _, rfl, hc.extended rfl Database.rowsOfIssues_review, hid, hrun, d.bare_extended ..⟩

theorem Tables.Carries.addAnalysis_error (h : db.tables.Carries t ticket b) (ha : db.Available)
    (hfits : fitsColumn ticket.review = true) (hs : b.review.status.isActive = true) {r : Record} {e : Failure}
    (hr : r.fault? = some e) :
    db.addAnalysis ticket.review ticket.run r.status r.analysis r.complexity = .error e := by
  obtain ⟨d, ht, hc, hid, hrun, rfl⟩ := h
  rw [← hid] at hfits
  rw [← hid, ← hrun]
  exact Database.addAnalysis_error ha ht hfits hs ((Database.fault?_paramsOfRows hfits ..).trans hr)

/-- The pull request has the review that is carried. -/
theorem Tables.Carries.reviewOf? {after : Tables} (h : after.Carries t ticket b) (hw : after.WellFormed)
    {number : Int}
    {repository : Text} (hkey : b.review.key = (number, repository)) :
    ∃ r, after.reviewOf? number repository = some r ∧ r.id = ticket.review ∧
      { r.content with id := 0 } = b.review := by
  obtain ⟨d, rfl, -, hid, -, rfl⟩ := h
  have hof := reviewOf?_of_mem hw (List.mem_of_find?_eq_some (find?_putAmong d.review t.reviews))
  obtain ⟨rfl, rfl⟩ : d.review.number = number ∧ d.review.repository = repository := Prod.mk.inj hkey
  exact ⟨d.review, hof, hid, rfl⟩

/-- Its rows are those that are known, under its id. -/
theorem Tables.Carries.rows {after : Tables} (h : after.Carries t ticket b) :
    (after.fileChangesOf ticket.review).map FileChange.content =
        b.fileChanges.map (fun f => { f with review := ticket.review }) ∧
      (after.commentsOf ticket.review).map Comment.content =
        b.comments.map (fun c => { c with review := ticket.review }) := by
  obtain ⟨d, rfl, hc, hid, -, rfl⟩ := h
  have hd : (t.place d).dossier? ticket.review = some d := by
    rw [dossier?_place t hc, if_pos hid.symm]
  obtain ⟨-, hfiles, hcomments⟩ := dossier?_eq_some_iff.1 hd
  rw [← hfiles, ← hcomments, ← hid]
  simp only [Dossier.bare, List.map_map]
  constructor
  · refine List.map_congr_left fun f hf => ?_
    rw [← hc.fileChanges f hf]
    rfl
  · refine List.map_congr_left fun c hcm => ?_
    rw [← hc.comments c hcm]
    rfl

/-- Everything else is as before. -/
theorem Tables.Carries.frame {after : Tables} (h : after.Carries t ticket b) :
    after.reviews.filter (·.id != ticket.review) = t.reviews.filter (·.id != ticket.review) ∧
      after.fileChanges.filter (·.review != ticket.review) = t.fileChanges.filter (·.review != ticket.review) ∧
      after.comments.filter (·.review != ticket.review) = t.comments.filter (·.review != ticket.review) ∧
      after.installations = t.installations ∧ after.repositories = t.repositories := by
  obtain ⟨d, rfl, hc, hid, -, -⟩ := h
  rw [← hid]
  refine ⟨?_, filter_not_owned_append hc.fileChanges, filter_not_owned_append hc.comments, rfl, rfl⟩
  exact filter_putAmong (bne_self_eq_false d.review.id) fun s _ hs => by simp [hs]

end Calls

/-! ## Programs one after the other -/

namespace Program

variable {α β : Type} {fetch : Fetcher} {worker : Nat} {s s' : Service}

theorem run_bind_ok {p : Program α} {f : α → Program β} {a : α} (h : p.run fetch worker s = (.ok a, s')) :
    (p.bind f).run fetch worker s = (f a).run fetch worker s' := by
  rw [run_bind, h]

theorem run_bind_error {p : Program α} {f : α → Program β} {e : Failure}
    (h : p.run fetch worker s = (.error e, s')) : (p.bind f).run fetch worker s = (.error e, s') := by
  rw [run_bind, h]

theorem run_ask {r : Request} {next : Except Failure r.Reply → Program α} {reply : Except Failure r.Reply}
    (h : r.perform fetch worker s = (reply, s')) :
    (ask r next).run fetch worker s = (next reply).run fetch worker s' := by
  rw [run, h]

theorem run_request (r : Request) : (request r).run fetch worker s = r.perform fetch worker s := by
  unfold request run
  obtain ⟨reply, s'⟩ := r.perform fetch worker s
  cases reply <;> rfl

/-- A request is asked and replied to. -/
theorem run_request_ok {r : Request} {f : r.Reply → Program β} {a : r.Reply}
    (h : r.perform fetch worker s = (.ok a, s')) :
    ((request r).bind f).run fetch worker s = (f a).run fetch worker s' :=
  run_bind_ok ((run_request r).trans h)

/-- A request is asked and fails. -/
theorem run_request_error {r : Request} {f : r.Reply → Program β} {e : Failure}
    (h : r.perform fetch worker s = (.error e, s')) : ((request r).bind f).run fetch worker s = (.error e, s') :=
  run_bind_error ((run_request r).trans h)

end Program

/-! ## What every program keeps -/

theorem Request.perform_wellFormed (fetch : Fetcher) (worker : Nat) {s : Service}
    (h : s.database.tables.WellFormed) (r : Request) : (r.perform fetch worker s).2.database.tables.WellFormed := by
  cases r with
  | store call =>
    simp only [perform]
    cases hcall : call.perform s.now s.database with
    | mk reply db =>
      cases reply with
      | ok reply => exact (StoreCall.transaction_turns h (StoreCall.perform_ok hcall).1).1
      | error e =>
        rw [(StoreCall.perform_error hcall).1]
        exact h
  | _ => exact h

theorem Request.perform_available (fetch : Fetcher) (worker : Nat) {s : Service} (h : s.database.Available)
    (r : Request) : (r.perform fetch worker s).2.database.Available := by
  cases r with
  | store call =>
    simp only [perform, StoreCall.perform]
    split <;> exact ⟨h.isUp, h.hasTables⟩
  | _ => exact h

/-- Whatever holds of the database and is kept by every request is kept by every program. -/
theorem Program.run_keeps {α : Type} {fetch : Fetcher} {worker : Nat} (holds : Database → Prop)
    (hstep : ∀ s r, holds s.database → holds (Request.perform fetch worker s r).2.database) (p : Program α)
    {s : Service} (h : holds s.database) : holds (p.run fetch worker s).2.database := by
  induction p generalizing s with
  | done | failed => exact h
  | ask r next ih => exact ih _ (hstep s r h)

/-! ## Store calls as requests -/

section Store

variable {fetch : Fetcher} {worker : Nat} {s : Service} {call : StoreCall}

/-- The service after a store call that leaves the given tables. -/
def Service.stored (s : Service) (call : StoreCall) (t : Tables) : Service :=
  { s with database := { s.database with tables := t, runs := s.database.runs.draw call.runsDrawn } }

theorem Request.perform_store_ok {reply : call.Reply} {t : Tables}
    (h : call.transaction s.database s.now = .ok (reply, t)) :
    (store call).perform fetch worker s = (.ok reply, s.stored call t) := by
  simp only [perform, StoreCall.perform, h]
  rfl

theorem Request.perform_store_error {e : Failure} (h : call.transaction s.database s.now = .error e) :
    (store call).perform fetch worker s = (.error e, s.stored call s.database.tables) := by
  simp only [perform, StoreCall.perform, h]
  rfl

theorem Database.Available.stored (h : s.database.Available) (call : StoreCall) (t : Tables) :
    (s.stored call t).database.Available :=
  ⟨h.isUp, h.hasTables⟩

end Store

/-! ## A run -/

namespace Run

/-- The run is under way by itself: the database answers, its token is not set, and of its review `b` is
known. -/
structure Alone (r : Run) (worker : Nat) (token : Token) (t : Tables) (b : Dossier) (s : Service) : Prop where
  available : s.database.Available
  unset : (s.cancellations worker).isSet token = false
  carries : s.database.tables.Carries t r.ticket b

variable {r : Run} (fetch : Fetcher) {worker : Nat} {token : Token} {t : Tables} {b : Dossier} {s : Service}

theorem Alone.move (h : r.Alone worker token t b s) (hfits : fitsColumn r.review = true) (status : ReviewStatus)
    (hs : status ∈ b.review.status.successors) (progress : Progress) :
    ∃ s', (Request.store (.move r.review (Named.name status) progress (some r.run))).perform fetch worker s =
        (.ok true, s') ∧
      r.Alone worker token t (b.moved 0 status progress.written) s' := by
  obtain ⟨t', hmove, hcarries⟩ := h.carries.move h.available hfits hs s.now progress
  exact ⟨_, Request.perform_store_ok hmove, h.available.stored _ t', h.unset, hcarries⟩

theorem Alone.addAnalysis (h : r.Alone worker token t b s) (hfits : fitsColumn r.review = true)
    (hs : b.review.status.isActive = true) {x : Record} (hx : x.fault? = none) :
    ∃ s', (Request.store (.addAnalysis r.review r.run x.status x.analysis x.complexity)).perform fetch worker s =
        (.ok true, s') ∧
      r.Alone worker token t (b.recorded x) s' := by
  obtain ⟨t', hadd, hcarries⟩ := h.carries.addAnalysis h.available hfits hs hx
  exact ⟨_, Request.perform_store_ok hadd, h.available.stored _ t', h.unset, hcarries⟩

theorem Alone.addAnalysis_error (h : r.Alone worker token t b s) (hfits : fitsColumn r.review = true)
    (hs : b.review.status.isActive = true) {x : Record} {e : Failure} (hx : x.fault? = some e) :
    (Request.store (.addAnalysis r.review r.run x.status x.analysis x.complexity)).perform fetch worker s =
      (.error e, s) :=
  Request.perform_store_error (h.carries.addAnalysis_error h.available hfits hs hx)

theorem note_alone (h : r.Alone worker token t b s) (hfits : fitsColumn r.review = true)
    (hs : .inProgress ∈ b.review.status.successors) (progress : Progress) :
    ∃ s', (r.note progress).run fetch worker s = (.ok (), s') ∧ r.Alone worker token t (b.noted progress) s' := by
  obtain ⟨s', hmove, h'⟩ := h.move fetch hfits .inProgress hs progress
  exact ⟨s', Program.run_ask hmove, h'⟩

/-- The induction over the files left. -/
theorem analyzeFiles_alone (hfits : fitsColumn r.review = true) (total : Nat) (files : List ChangedFile)
    (tally : Tally) (h : r.Alone worker token t b s) (hs : b.review.status = .inProgress) :
    ∃ s', (r.analyzeFiles token total files tally).run fetch worker s =
        ((b.analyzed total files tally).1.map .ok, s') ∧
      r.Alone worker token t (b.analyzed total files tally).2 s' := by
  induction files generalizing tally b s with
  | nil => exact ⟨s, rfl, h⟩
  | cons file files ih =>
    have hunset : (Request.isCancelled token).perform fetch worker s = (.ok false, s) := by
      simp only [Request.perform, h.unset]
    rw [Dossier.analyzed, ChangedFile.kept, ChangedFile.record]
    cases hanalyze : file.analyze with
    | error e =>
      have hfails : (Request.analyze file).perform fetch worker s = (.error (.longNumeral e), s) := by
        simp only [Request.perform, hanalyze]
        rfl
      exact ⟨s, (Program.run_request_ok hunset).trans (Program.run_request_error hfails), h⟩
    | ok analysis =>
      have hreply : (Request.analyze file).perform fetch worker s = (.ok analysis, s) := by
        simp only [Request.perform, hanalyze]
        rfl
      have hactive : b.review.status.isActive = true := by rw [hs]; rfl
      simp only [Except.map]
      cases hx : (file.recordOf analysis).fault? with
      | none =>
        obtain ⟨s₁, hadd, h₁⟩ := h.addAnalysis fetch hfits hactive hx
        obtain ⟨s₂, hnote, h₂⟩ := note_alone fetch h₁ hfits
          (by rw [Dossier.recorded_review, hs]; decide)
          (.analyzing (percentage (count tally analysis).analyzed total) none (some (count tally analysis).analyzed))
        obtain ⟨s₃, hrest, h₃⟩ := ih (count tally analysis) h₂ rfl
        refine ⟨s₃, ?_, h₃⟩
        refine (Program.run_request_ok hunset).trans ((Program.run_request_ok hreply).trans ?_)
        refine (Program.run_request_ok hadd).trans ?_
        exact (Program.run_bind_ok hnote).trans hrest
      | some e =>
        refine ⟨s, ?_, h⟩
        refine (Program.run_request_ok hunset).trans ((Program.run_request_ok hreply).trans ?_)
        exact Program.run_request_error (h.addAnalysis_error fetch hfits hactive hx)

theorem complete_alone (hfits : fitsColumn r.review = true) (h : r.Alone worker token t b s)
    (hs : b.review.status = .inProgress) (tally : Tally) :
    ∃ s', (r.complete tally).run fetch worker s = (.ok (r.completed tally), s') ∧
      r.Alone worker token t (b.completed tally) s' := by
  obtain ⟨s₁, hnote, h₁⟩ := note_alone fetch h hfits (by rw [hs]; decide)
    (.ready Progress.readyStart tally.analyzed tally.toReview)
  obtain ⟨s₂, hmove, h₂⟩ := h₁.move fetch hfits .completed (Dossier.mem_noted_successors nofun)
    (.completed Progress.allDone tally.analyzed tally.issues)
  exact ⟨s₂, (Program.run_bind_ok hnote).trans (Program.run_request_ok hmove), h₂⟩

/-- What the listing of its files gives for a run. -/
def fetched (r : Run) (fetch : Fetcher) : Except Failure (List ChangedFile) :=
  fetch r.installation (splitFullName r.repository).1 (splitFullName r.repository).2 r.number

theorem steps_alone (hfits : fitsColumn r.review = true) (h : r.Alone worker token t b s)
    (hs : .inProgress ∈ b.review.status.successors) :
    ∃ s', (r.steps token).run fetch worker s = ((b.ran (r.fetched fetch)).1.map r.completed, s') ∧
      r.Alone worker token t (b.ran (r.fetched fetch)).2 s' := by
  obtain ⟨s₁, hmove, h₁⟩ := h.move fetch hfits .inProgress hs (.fetching Progress.fetchingStart)
  change r.Alone worker token t (b.noted (.fetching Progress.fetchingStart)) s₁ at h₁
  unfold Dossier.ran
  cases hfetched : r.fetched fetch with
  | error e =>
    exact ⟨s₁, (Program.run_request_ok hmove).trans
      (Program.run_request_error (r := .fetchFiles ..) (congrArg (·, s₁) hfetched)), h₁⟩
  | ok files =>
    obtain ⟨s₂, hnote, h₂⟩ := note_alone fetch h₁ hfits (Dossier.mem_noted_successors nofun)
      (.analyzing Progress.analyzingStart (some files.length) none)
    obtain ⟨s₃, hfiles, h₃⟩ := analyzeFiles_alone fetch hfits files.length files {} h₂ rfl
    have hstatus := Dossier.analyzed_status files.length files {}
      (d := (b.noted (.fetching Progress.fetchingStart)).noted
        (.analyzing Progress.analyzingStart (some files.length) none)) rfl
    have hstart : (r.steps token).run fetch worker s = _ :=
      (Program.run_request_ok hmove).trans
        ((Program.run_request_ok (r := .fetchFiles ..) (congrArg (·, s₁) hfetched)).trans
          (Program.run_bind_ok hnote))
    dsimp only
    generalize Dossier.analyzed files.length files {} _ = analyzed at hfiles h₃ hstatus ⊢
    obtain ⟨e | tally, d⟩ := analyzed
    · exact ⟨s₃, hstart.trans (Program.run_bind_error hfiles), h₃⟩
    · obtain ⟨s₄, hcomplete, h₄⟩ := complete_alone fetch hfits h₃ hstatus tally
      exact ⟨s₄, hstart.trans ((Program.run_bind_ok hfiles).trans hcomplete), h₄⟩

/-- The outcome of a run by itself. -/
def outcome (r : Run) : Except Failure Tally → Outcome
  | .ok tally => r.completed tally
  | .error e =>
    { action := "fail_review", ok := false, review := r.review, status := some .failed, error := e.message }

theorem attempt_alone (hfits : fitsColumn r.review = true) (h : r.Alone worker token t b s)
    (hs : .inProgress ∈ b.review.status.successors) :
    ∃ s', (r.attempt token).run fetch worker s = (.ok (r.outcome (b.ran (r.fetched fetch)).1), s') ∧
      r.Alone worker token t (b.concluded (r.fetched fetch)) s' := by
  obtain ⟨s₁, hsteps, h₁⟩ := steps_alone fetch hfits h hs
  unfold attempt Dossier.concluded
  rw [Program.run_rescue, hsteps]
  cases hran : b.ran (r.fetched fetch) with
  | mk result d =>
    rw [hran] at h₁
    cases result with
    | ok tally => exact ⟨s₁, rfl, h₁⟩
    | error e =>
      obtain ⟨s₂, hmove, h₂⟩ := h₁.move fetch hfits .failed
        (by rw [Dossier.ran_status hran]; decide) (.failed e.message)
      exact ⟨s₂, Program.run_ask hmove, h₂⟩

/-- A run, given what comes of its attempt. -/
theorem program_run {c : Cancellations} {s' : Service} {result : Except Failure Outcome}
    (hissued : (s.cancellations worker).register r.review = (token, c))
    (hattempt : (r.attempt token).run fetch worker (s.withCancellations worker c) = (result, s')) :
    r.program.run fetch worker s =
      (result, s'.withCancellations worker ((s'.cancellations worker).release r.review token)) := by
  have hregister :
      (Request.startRun r.review).perform fetch worker s = (.ok token, s.withCancellations worker c) := by
    simp only [Request.perform, hissued]
  refine (Program.run_request_ok hregister).trans ?_
  rw [Program.run_andFinally, hattempt]
  rfl

/-- A token that has just been issued is not set. -/
theorem isSet_register (c : Cancellations) (review : Int) :
    (c.register review).2.isSet (c.register review).1 = false := by
  simp [Cancellations.register, Cancellations.isSet]

/-- **A run by itself.** It ends with the outcome that the files fetched give, and leaves of its review
what they give. -/
theorem program_alone (worker : Nat) (hfits : fitsColumn r.review = true) (ha : s.database.Available)
    (hc : s.database.tables.Carries t r.ticket b) (hs : .inProgress ∈ b.review.status.successors) :
    ∃ s', r.program.run fetch worker s = (.ok (r.outcome (b.ran (r.fetched fetch)).1), s') ∧
      s'.database.Available ∧ s'.database.tables.Carries t r.ticket (b.concluded (r.fetched fetch)) := by
  cases hissued : (s.cancellations worker).register r.review with
  | mk token c =>
    have hunset := isSet_register (s.cancellations worker) r.review
    rw [hissued] at hunset
    have hstart : r.Alone worker token t b (s.withCancellations worker c) :=
      ⟨ha, by simpa only [Service.withCancellations, if_true] using hunset, hc⟩
    obtain ⟨s', hattempt, h'⟩ := attempt_alone fetch hfits hstart hs
    exact ⟨_, program_run fetch hissued hattempt, h'.available, h'.carries⟩

theorem perform_move_unfit (worker : Nat) (hfits : fitsColumn r.review = false) (ha : s.database.Available)
    (target : Text) (progress : Progress) (run : Option Text) :
    (Request.store (.move r.review target progress run)).perform fetch worker s = (.error .integerRange, s) := by
  have hcall : (StoreCall.move r.review target progress run).transaction s.database s.now = .error .integerRange := by
    simp only [StoreCall.transaction, Database.move, ha.statement_int, hfits]
    rfl
  exact Request.perform_store_error hcall

/-- A run of a review whose id fits no column fails and writes nothing. -/
theorem program_unfit (worker : Nat) (hfits : fitsColumn r.review = false) (ha : s.database.Available) :
    ∃ s', r.program.run fetch worker s = (.error .integerRange, s') ∧ s'.database = s.database := by
  cases hissued : (s.cancellations worker).register r.review with
  | mk token c =>
    have hmove := perform_move_unfit fetch worker (s := s.withCancellations worker c) hfits ha
    have hsteps : (r.steps token).run fetch worker (s.withCancellations worker c) =
        (.error .integerRange, s.withCancellations worker c) :=
      Program.run_request_error (hmove ..)
    have hattempt : (r.attempt token).run fetch worker (s.withCancellations worker c) =
        (.error .integerRange, s.withCancellations worker c) := by
      rw [attempt, Program.run_rescue, hsteps]
      exact Program.run_ask (hmove ..)
    exact ⟨_, program_run fetch hissued hattempt, rfl⟩

end Run

end PullReview
