import PullReview.Proofs.Run.Faults
import PullReview.Proofs.Run.Success

/-!
# Deliveries that fail

What is left of a review that is due, when its delivery is handled by itself, the database answers, and its files
cannot be listed or the analysis or the recording of one of them fails: the failure is told in the outcome and in the
data of the review, which are otherwise as the last step before it has left them, and the derived rows are those of
the files before (`delivery_fails`).
-/

namespace PullReview

variable {ν : Type} {all : List (Interruption ν)}

/-! ## What fails -/

/-- A code is told along with an empty message, so that something is. -/
theorem Rejection.text_ne_empty (e : Rejection) : e.text ≠ "" := by
  simp [text, String.append_eq_empty_iff]

theorem Failure.message_ne_empty (e : Failure) : e.message ≠ "" := by
  cases e with
  | rejected e =>
    simp only [message]
    split
    · exact e.text_ne_empty
    · assumption
  | _ =>
    simp only [message]
    split
    · simp [kind]
    · assumption

/-- What the analysis of the file at a place in the list comes to: it is made to fail, or not. -/
def ChangedFile.analyzedAt (all : List (Interruption ν)) (index : Nat) (f : ChangedFile) : Except Failure Analysis :=
  match Interruption.raised? all .analyze (index + 1) with
  | some e => .error e
  | none => f.analyze.mapError .longNumeral

/-- What the recording of the file at a place in the list comes to: it is made to fail, or not. -/
def Record.addedAt (all : List (Interruption ν)) (index : Nat) (x : Record) : Except Failure Unit :=
  match Interruption.raised? all .addAnalysis (index + 1) with
  | some e => .error e
  | none => match x.fault? with
    | none => .ok ()
    | some e => .error e

/-- What is recorded of the file at a place in the list, or why it is not. -/
def ChangedFile.keptAt (all : List (Interruption ν)) (index : Nat) (f : ChangedFile) : Except Failure Record := do
  let analysis ← f.analyzedAt all index
  (f.recordOf analysis).addedAt all index
  return f.recordOf analysis

namespace ChangedFile

variable {index : Nat} {f : ChangedFile} {analysis : Analysis}

theorem keptAt_of_analyzedAt_error {e : Failure} (h : f.analyzedAt all index = .error e) :
    f.keptAt all index = .error e := by
  rw [keptAt, h]
  rfl

theorem keptAt_of_analyzedAt (h : f.analyzedAt all index = .ok analysis) :
    f.keptAt all index = ((f.recordOf analysis).addedAt all index).map fun _ => f.recordOf analysis := by
  rw [keptAt, h]
  rfl

/-- No fault changes what an analysis comes to. -/
theorem record_of_analyzedAt (h : f.analyzedAt all index = .ok analysis) : f.record = .ok (f.recordOf analysis) := by
  unfold analyzedAt at h
  split at h
  · cases h
  · rw [record]
    cases hanalyze : f.analyze with
    | error e =>
      rw [hanalyze] at h
      cases h
    | ok a =>
      rw [hanalyze] at h
      cases h
      rfl

end ChangedFile

/-- What has been counted when some of the files have been recorded. -/
def PullRequestSummary.counted (found analyzed : Nat) : Members :=
  ("files_found", .int found) :: if analyzed = 0 then [] else [("files_analyzed", .int analyzed)]

/-- Where a run fails: as its files are listed, or at the first of them that is not kept. Before it are the files
that have been recorded, the percentage reached and what has been counted. -/
inductive FailsAt (all : List (Interruption ν)) (fetched : Except Failure (List ChangedFile)) (e : Failure) :
    List ChangedFile → Int → Members → Prop
  | listing (h : fetched = .error e) : FailsAt all fetched e [] Progress.fetchingStart []
  | file {before after : List ChangedFile} {f : ChangedFile} (h : fetched = .ok (before ++ f :: after))
    (hbefore : ∀ (i : Nat) (hi : i < before.length), ∃ x, before[i].keptAt all i = .ok x)
    (hfails : f.keptAt all before.length = .error e) :
    FailsAt all fetched e before (Run.percentage before.length (before ++ f :: after).length)
      (PullRequestSummary.counted (before ++ f :: after).length before.length)

/-- A run fails somewhere, unless the files are listed and each of them is kept. -/
theorem FailsAt.exists_or_kept (all : List (Interruption ν)) (fetched : Except Failure (List ChangedFile)) :
    (∃ e before progress counts, FailsAt all fetched e before progress counts) ∨
      ∃ files, fetched = .ok files ∧ ∀ i (hi : i < files.length), ∃ x, files[i].keptAt all i = .ok x := by
  cases fetched with
  | error e => exact .inl ⟨e, [], _, _, .listing rfl⟩
  | ok files =>
    -- the induction is from the end, as what fails first counts
    induction files using List.reverseRecOn with
    | nil => exact .inr ⟨[], rfl, fun i hi => absurd hi (Nat.not_lt_zero i)⟩
    | append_singleton files f ih =>
      obtain ⟨e, before, progress, counts, hfails⟩ | ⟨kept, hfiles, hkept⟩ := ih
      · cases hfails with
        | listing h => cases h
        | @file _ after g h hbefore hfails =>
          obtain rfl := Except.ok.inj h
          have hlonger : (Except.ok ((before ++ g :: after) ++ [f]) : Except Failure (List ChangedFile)) =
              .ok (before ++ g :: (after ++ [f])) := by simp
          exact .inl ⟨e, before, _, _, .file hlonger hbefore hfails⟩
      · obtain rfl := Except.ok.inj hfiles
        cases hlast : f.keptAt all files.length with
        | error e => exact .inl ⟨e, files, _, _, .file rfl hkept hlast⟩
        | ok x =>
          refine .inr ⟨files ++ [f], rfl, fun i hi => ?_⟩
          obtain hi' | rfl : i < files.length ∨ i = files.length := by
            rw [List.length_append, List.length_singleton] at hi
            omega
          · rw [List.getElem_append_left hi']
            exact hkept i hi'
          · exact ⟨x, by rw [List.getElem_concat_length rfl]; exact hlast⟩

/-! ## The data at a failure -/

namespace PullRequestSummary

variable (q : PullRequestSummary)

theorem keys_counted (found analyzed : Nat) : ∀ e ∈ counted found analyzed, e.1 ∈ countKeys := by
  unfold counted
  split <;> simp [countKeys]

theorem merge_counted (found analyzed : Nat) : Members.merge [] (counted found analyzed) = counted found analyzed := by
  unfold counted
  split <;> rfl

/-- All files are left. -/
theorem merge_found (found : Nat) :
    (q.toMembers.merge (Progress.fetching Progress.fetchingStart).written).merge
        (Progress.analyzing Progress.analyzingStart (some (found : Int)) none).written =
      q.dataAt .analyzing (Run.percentage 0 found) (counted found 0) := by
  simp only [Run.percentage, Nat.zero_mul, Nat.zero_div]
  rfl

/-- One more file has been recorded. -/
theorem merge_analyzed (found analyzed : Nat) (progress done : Int) :
    (q.dataAt .analyzing progress (counted found analyzed)).merge
        (Progress.analyzing done none (some ((analyzed + 1 : Nat) : Int))).written =
      q.dataAt .analyzing done (counted found (analyzed + 1)) := by
  have hkey : ∀ e ∈ ([("files_analyzed", .int (analyzed + 1 : Nat))] : Members), e.1 ∈ countKeys := by
    simp [countKeys]
  refine (q.merge_dataAt .analyzing .analyzing progress done hkey _).trans ?_
  unfold counted
  cases analyzed <;> rfl

/-- What is told of a review that fails: the percentage reached, what has been counted, and why. -/
def failedMembers (progress : Int) (counts : Members) (message : Text) : Members :=
  ("step", .str "failed") :: ("progress", .int progress) :: (counts ++ ([("error", .str message)] : Members))

/-- A failure leaves what has been told before. -/
theorem merge_failed (step : ProgressStep) (progress : Int) {counts : Members} (hkeys : ∀ e ∈ counts, e.1 ∈ countKeys)
    (hcounts : Members.merge [] counts = counts) (message : Text) :
    (q.dataAt step progress counts).merge (Progress.failed message).written =
      q.toMembers.merge
        (failedMembers progress counts message) := by
  have htold : q.toMembers.merge (("step", .str "failed") :: ("progress", .int progress) :: counts) =
      q.dataAt .failed progress counts := by
    have hmerged := q.merge_dataAt .queued .failed q.progress progress hkeys []
    rwa [hcounts] at hmerged
  have happend : q.toMembers.merge (failedMembers progress counts message) =
      (q.toMembers.merge (("step", .str "failed") :: ("progress", .int progress) :: counts)).merge
        [("error", .str message)] :=
    List.foldl_append (l := (("step", .str "failed") :: ("progress", .int progress) :: counts : Members))
  rw [happend, htold]
  rfl

end PullRequestSummary

/-- The dossier of a review of whose `total` files some have been recorded. -/
def Event.PullRequest.upTo (p : Event.PullRequest) (repository : Event.Repository) (installation : Event.Installation)
    (total : Nat) (records : List Record) : Dossier :=
  p.underway repository installation
    (p.summary.dataAt .analyzing (Run.percentage records.length total)
      (PullRequestSummary.counted total records.length))
    (records.map (·.fileChange 0)) (records.flatMap (·.comments 0))

theorem Event.PullRequest.upTo_concat (p : Event.PullRequest) (repository : Event.Repository)
    (installation : Event.Installation) (total : Nat) (records : List Record) (x : Record) :
    ((p.upTo repository installation total records).recorded x).noted
        (.analyzing (Run.percentage (records.length + 1) total) none (some ((records.length + 1 : Nat) : Int))) =
      p.upTo repository installation total (records ++ [x]) := by
  have hdata := p.summary.merge_analyzed total records.length (Run.percentage records.length total)
    (Run.percentage (records.length + 1) total)
  unfold upTo
  simp only [List.length_append, List.length_singleton, List.map_append, List.flatMap_append, ← hdata]
  simp only [List.map_singleton, List.flatMap_singleton]
  rfl

/-! ## A run with faults -/

namespace Run

/-- The run is under way by itself, and so many files have been analysed and recorded. -/
structure AtFile (r : Run) (worker : Nat) (token : Token) (t : Tables) (b : Dossier) (index : Nat) (c : Course ν) :
    Prop extends r.Alone worker token t b c.service where
  analyzed : c.calls .analyze = index
  added : c.calls .addAnalysis = index

variable {r : Run} (fetch : Fetcher) {worker : Nat} {token : Token} {t : Tables} {b b' : Dossier} {index : Nat}
  {c : Course ν} {s : Service}

/-- A request at another point. -/
theorem AtFile.after (h : r.AtFile worker token t b index c) {q : Request} (hq : q.Spared)
    (h' : r.Alone worker token t b' s) : r.AtFile worker token t b' index (c.after q s) := by
  refine ⟨h', ?_, ?_⟩
  · rw [Course.calls_after, if_neg hq.analyze, h.analyzed, Nat.add_zero]
  · rw [Course.calls_after, if_neg hq.addAnalysis, h.added, Nat.add_zero]

theorem AtFile.move (hall : ∀ i ∈ all, i.IsFault) (h : r.AtFile worker token t b index c)
    (hfits : fitsColumn r.review = true) (status : ReviewStatus) (hs : status ∈ b.review.status.successors)
    (progress : Progress) :
    ∃ c', c.make all fetch worker (.store (.move r.review (Named.name status) progress (some r.run))) =
        (.ok true, c') ∧
      r.AtFile worker token t (b.moved 0 status progress.written) index c' := by
  obtain ⟨s', hmove, h'⟩ := h.toAlone.move fetch hfits status hs progress
  exact ⟨_, Course.make_of_spared hall (Request.spared_move ..) hmove, h.after (Request.spared_move ..) h'⟩

theorem AtFile.note (hall : ∀ i ∈ all, i.IsFault) (h : r.AtFile worker token t b index c)
    (hfits : fitsColumn r.review = true) (hs : .inProgress ∈ b.review.status.successors) (progress : Progress) :
    ∃ c', (r.note progress).runInterrupted all fetch worker c = (.ok (), c') ∧
      r.AtFile worker token t (b.noted progress) index c' := by
  obtain ⟨c', hmove, h'⟩ := h.move fetch hall hfits .inProgress hs progress
  exact ⟨c', Program.runInterrupted_ask hmove, h'⟩

theorem AtFile.analyze (hall : ∀ i ∈ all, i.IsFault) (h : r.AtFile worker token t b index c) (file : ChangedFile) :
    ∃ c', c.make all fetch worker (.analyze file) = (file.analyzedAt all index, c') ∧
      r.Alone worker token t b c'.service ∧ c'.calls .analyze = index + 1 ∧ c'.calls .addAnalysis = index := by
  have hfault : c.fault? all (.analyze file) = Interruption.raised? all .analyze (index + 1) := by
    rw [Course.fault?_of_point rfl, h.analyzed]
  refine ⟨c.after (.analyze file) c.service, ?_, h.toAlone, ?_, ?_⟩
  · unfold ChangedFile.analyzedAt
    cases hraised : Interruption.raised? all .analyze (index + 1) with
    | some e => exact Course.make_of_raised hall (hfault.trans hraised)
    | none => exact Course.make_of_not_raised hall (hfault.trans hraised) rfl
  · rw [Course.calls_after, h.analyzed]
    rfl
  · rw [Course.calls_after, h.added]
    rfl

/-- The recording of a file that has been analysed. -/
theorem add_atFile (hall : ∀ i ∈ all, i.IsFault) (h : r.Alone worker token t b c.service)
    (hanalyzed : c.calls .analyze = index + 1) (hadded : c.calls .addAnalysis = index)
    (hfits : fitsColumn r.review = true) (hs : b.review.status.isActive = true) (x : Record) :
    (∃ e c', x.addedAt all index = .error e ∧
      c.make all fetch worker (.store (.addAnalysis r.review r.run x.status x.analysis x.complexity)) =
        (.error e, c') ∧
      r.Alone worker token t b c'.service) ∨
    ∃ c', x.addedAt all index = .ok () ∧
      c.make all fetch worker (.store (.addAnalysis r.review r.run x.status x.analysis x.complexity)) =
        (.ok true, c') ∧
      r.AtFile worker token t (b.recorded x) (index + 1) c' := by
  have hfault : c.fault? all (.store (.addAnalysis r.review r.run x.status x.analysis x.complexity)) =
      Interruption.raised? all .addAnalysis (index + 1) := by
    rw [← hadded]
    exact Course.fault?_of_point rfl
  unfold Record.addedAt
  cases hraised : Interruption.raised? all .addAnalysis (index + 1) with
  | some e => exact .inl ⟨e, _, rfl, Course.make_of_raised hall (hfault.trans hraised), h⟩
  | none =>
    cases hx : x.fault? with
    | none =>
      obtain ⟨s', hadd, h'⟩ := h.addAnalysis fetch hfits hs hx
      refine .inr ⟨_, rfl, Course.make_of_not_raised hall (hfault.trans hraised) hadd, h', ?_, ?_⟩
      · rw [Course.calls_after, hanalyzed]
        rfl
      · rw [Course.calls_after, hadded]
        rfl
    | some e =>
      have hadd := h.addAnalysis_error fetch hfits hs hx
      exact .inl ⟨e, _, rfl, Course.make_of_not_raised hall (hfault.trans hraised) hadd, h⟩

/-- One file: the run fails with what keeps it from being recorded, or goes on to the next. -/
theorem analyzeFiles_file (hall : ∀ i ∈ all, i.IsFault) (hfits : fitsColumn r.review = true)
    (h : r.AtFile worker token t b index c) (hs : b.review.status = .inProgress) (total : Nat) (file : ChangedFile)
    (files : List ChangedFile) (tally : Tally) :
    (∃ e c', file.keptAt all index = .error e ∧
      (r.analyzeFiles token total (file :: files) tally).runInterrupted all fetch worker c = (.error e, c') ∧
      r.Alone worker token t b c'.service) ∨
    ∃ x c', file.keptAt all index = .ok x ∧ file.record = .ok x ∧
      (r.analyzeFiles token total (file :: files) tally).runInterrupted all fetch worker c =
        (r.analyzeFiles token total files (count tally x.analysis)).runInterrupted all fetch worker c' ∧
      r.AtFile worker token t ((b.recorded x).noted
        (.analyzing (percentage (tally.analyzed + 1) total) none (some ((tally.analyzed + 1 : Nat) : Int))))
        (index + 1) c' := by
  have hunset : (Request.isCancelled token).perform fetch worker c.service = (.ok false, c.service) := by
    simp only [Request.perform, h.unset]
  have hspared : (Request.isCancelled token).Spared := .of_point none rfl (by decide)
  have hlooks := Course.make_of_spared hall hspared hunset
  have h₁ := h.after hspared h.toAlone
  obtain ⟨c₂, hanalyzes, h₂, hanalyzed, hadded⟩ := h₁.analyze fetch hall file
  cases hanalysis : file.analyzedAt all index with
  | error e =>
    rw [hanalysis] at hanalyzes
    refine .inl ⟨e, c₂, ChangedFile.keptAt_of_analyzedAt_error hanalysis, ?_, h₂⟩
    exact (Program.runInterrupted_request_ok hlooks).trans (Program.runInterrupted_request_error hanalyzes)
  | ok analysis =>
    rw [hanalysis] at hanalyzes
    obtain ⟨e, c₃, hadd, hadds, h₃⟩ | ⟨c₃, hadd, hadds, h₃⟩ :=
      add_atFile fetch hall h₂ hanalyzed hadded hfits (by rw [hs]; rfl) (file.recordOf analysis)
    · refine .inl ⟨e, c₃, by rw [ChangedFile.keptAt_of_analyzedAt hanalysis, hadd]; rfl, ?_, h₃⟩
      refine (Program.runInterrupted_request_ok hlooks).trans ((Program.runInterrupted_request_ok hanalyzes).trans ?_)
      exact Program.runInterrupted_request_error hadds
    · obtain ⟨c₄, hnote, h₄⟩ := h₃.note fetch hall hfits (by rw [Dossier.recorded_review, hs]; decide)
        (.analyzing (percentage (tally.analyzed + 1) total) none (some ((tally.analyzed + 1 : Nat) : Int)))
      refine .inr ⟨file.recordOf analysis, c₄, by rw [ChangedFile.keptAt_of_analyzedAt hanalysis, hadd]; rfl,
        ChangedFile.record_of_analyzedAt hanalysis, ?_, h₄⟩
      refine (Program.runInterrupted_request_ok hlooks).trans ((Program.runInterrupted_request_ok hanalyzes).trans ?_)
      exact (Program.runInterrupted_request_ok hadds).trans (Program.runInterrupted_bind_ok hnote)

section Pulled

variable {p : Event.PullRequest} {repository : Event.Repository} {installation : Event.Installation} {e : Failure}

/-- The induction over the files before the one that is not kept. -/
theorem analyzeFiles_fails (hall : ∀ i ∈ all, i.IsFault) (hfits : fitsColumn r.review = true) (total : Nat)
    {file : ChangedFile} (after : List ChangedFile) {before : List ChangedFile} {done : List Record} {tally : Tally}
    (h : r.AtFile worker token t (p.upTo repository installation total done) done.length c)
    (htally : tally.analyzed = done.length)
    (hbefore : ∀ (i : Nat) (hi : i < before.length), ∃ x, before[i].keptAt all (done.length + i) = .ok x)
    (hfails : file.keptAt all (done.length + before.length) = .error e) :
    ∃ records c', before.mapM ChangedFile.record = .ok records ∧
      (r.analyzeFiles token total (before ++ file :: after) tally).runInterrupted all fetch worker c =
        (.error e, c') ∧
      r.Alone worker token t (p.upTo repository installation total (done ++ records)) c'.service := by
  induction before generalizing done tally c with
  | nil =>
    obtain ⟨e', c', hkept, hrun, h'⟩ | ⟨x, c', hkept, -⟩ :=
      analyzeFiles_file fetch hall hfits h rfl total file after tally
    · obtain rfl : e' = e := Except.error.inj (hkept.symm.trans hfails)
      exact ⟨[], c', rfl, hrun, by rwa [List.append_nil]⟩
    · cases hkept.symm.trans hfails
  | cons f before ih =>
    obtain ⟨x, hx⟩ := hbefore 0 (Nat.zero_lt_succ _)
    obtain ⟨e', c', hkept, -⟩ | ⟨x', c', hkept, hrecord, hrun, h'⟩ :=
      analyzeFiles_file fetch hall hfits h rfl total f (before ++ file :: after) tally
    · cases hkept.symm.trans hx
    · have hdone : done.length + 1 = (done ++ [x']).length := by simp
      rw [htally, p.upTo_concat, hdone] at h'
      have htally' : (count tally x'.analysis).analyzed = (done ++ [x']).length := by simp [count, htally]
      obtain ⟨records, c'', hrecords, hrest, h''⟩ := ih h' htally'
        (fun i hi => by
          obtain ⟨y, hy⟩ := hbefore (i + 1) (Nat.succ_lt_succ hi)
          exact ⟨y, by rw [← hdone, Nat.add_assoc, Nat.add_comm 1]; exact hy⟩)
        (by rw [← hdone, Nat.add_assoc, Nat.add_comm 1]; exact hfails)
      refine ⟨x' :: records, c'', ?_, hrun.trans hrest, ?_⟩
      · rw [List.mapM_cons, hrecord, hrecords]
        rfl
      · rwa [List.append_assoc] at h''

/-- What is left of the review when the failure strikes. -/
theorem steps_fails (hall : ∀ i ∈ all, i.IsFault) (hfits : fitsColumn r.review = true)
    (h : r.AtFile worker token t (p.dossier repository installation) 0 c) {before : List ChangedFile} {progress : Int}
    {counts : Members} (hfails : FailsAt all (r.fetched fetch) e before progress counts) :
    ∃ records step c', before.mapM ChangedFile.record = .ok records ∧
      (r.steps token).runInterrupted all fetch worker c = (.error e, c') ∧
      r.Alone worker token t (p.underway repository installation (p.summary.dataAt step progress counts)
        (records.map (·.fileChange 0)) (records.flatMap (·.comments 0))) c'.service := by
  obtain ⟨c₁, hmove, h₁⟩ := h.move fetch hall hfits .inProgress List.mem_cons_self
    (.fetching Progress.fetchingStart)
  have hspared : (Request.fetchFiles r.installation (splitFullName r.repository).1
      (splitFullName r.repository).2 r.number).Spared := .of_point (some .fetch) rfl (by decide)
  have hlisting : (Request.fetchFiles r.installation (splitFullName r.repository).1
      (splitFullName r.repository).2 r.number).perform fetch worker c₁.service = (r.fetched fetch, c₁.service) := rfl
  have hlists := Course.make_of_spared hall hspared hlisting
  have h₂ := h₁.after hspared h₁.toAlone
  cases hfails with
  | listing hfetched =>
    rw [hfetched] at hlists
    exact ⟨[], .fetching, _, rfl,
      (Program.runInterrupted_request_ok hmove).trans (Program.runInterrupted_request_error hlists), h₂.toAlone⟩
  | @file before after f hfetched hbefore hkept =>
    rw [hfetched] at hlists
    obtain ⟨c₃, hnote, h₃⟩ := h₂.note fetch hall hfits (Dossier.mem_noted_successors (by decide))
      (.analyzing Progress.analyzingStart (some (before ++ f :: after).length) none)
    have hstart : ((((p.dossier repository installation).moved 0 .inProgress
        (Progress.fetching Progress.fetchingStart).written)).noted
          (.analyzing Progress.analyzingStart (some (before ++ f :: after).length) none)) =
        p.upTo repository installation (before ++ f :: after).length [] := by
      unfold Event.PullRequest.upTo
      rw [List.length_nil, ← p.summary.merge_found]
      rfl
    rw [hstart] at h₃
    have htally : ({} : Tally).analyzed = ([] : List Record).length := rfl
    obtain ⟨records, c', hrecords, hrun, h'⟩ := analyzeFiles_fails fetch hall hfits (before ++ f :: after).length after
      h₃ htally (by simpa using hbefore) (by simpa using hkept)
    refine ⟨records, .analyzing, c', hrecords, ?_, ?_⟩
    · refine (Program.runInterrupted_request_ok hmove).trans ((Program.runInterrupted_request_ok hlists).trans ?_)
      exact (Program.runInterrupted_bind_ok hnote).trans (Program.runInterrupted_bind_error hrun)
    · rwa [List.nil_append, Event.PullRequest.upTo, length_eq_of_mapM_record hrecords] at h'

/-- The failure is told of a review that is in progress, and it fails. -/
theorem reportFailure_alone (hall : ∀ i ∈ all, i.IsFault) (hfits : fitsColumn r.review = true)
    (h : r.Alone worker token t b c.service) (hs : b.review.status = .inProgress) (e : Failure) :
    ∃ c', (reportFailure r.review e.message r.run).runInterrupted all fetch worker c =
        (.ok (r.outcome (.error e)), c') ∧
      r.Alone worker token t (b.moved 0 .failed (Progress.failed e.message).written) c'.service := by
  obtain ⟨s', hmove, h'⟩ := h.move fetch hfits .failed (by rw [hs]; decide) (.failed e.message)
  exact ⟨_, Program.runInterrupted_ask (Course.make_of_spared hall (Request.spared_move ..) hmove), h'⟩

/-- The run ends with the failure, which its review tells. -/
theorem program_fails (worker : Nat) (hall : ∀ i ∈ all, i.IsFault) (hfits : fitsColumn r.review = true)
    (ha : c.service.database.Available)
    (hc : c.service.database.tables.Carries t r.ticket (p.dossier repository installation))
    (hanalyzed : c.calls .analyze = 0) (hadded : c.calls .addAnalysis = 0) {before : List ChangedFile}
    {progress : Int} {counts : Members} (hfails : FailsAt all (r.fetched fetch) e before progress counts) :
    ∃ records step c', before.mapM ChangedFile.record = .ok records ∧
      r.program.runInterrupted all fetch worker c = (.ok (r.outcome (.error e)), c') ∧
      c'.service.database.tables.Carries t r.ticket
        ((p.underway repository installation (p.summary.dataAt step progress counts)
          (records.map (·.fileChange 0)) (records.flatMap (·.comments 0))).moved 0 .failed
            (Progress.failed e.message).written) := by
  obtain ⟨token, registered, hissued⟩ :
      ∃ token registered, (c.service.cancellations worker).register r.review = (token, registered) := ⟨_, _, rfl⟩
  have hregister : (Request.startRun r.review).perform fetch worker c.service =
      (.ok token, c.service.withCancellations worker registered) := by
    simp only [Request.perform, hissued]
  have hspared : (Request.startRun r.review).Spared := .of_point (some .beginRun) rfl (by decide)
  have hstart := Course.make_of_spared hall hspared hregister
  have hunset : ((c.service.withCancellations worker registered).cancellations worker).isSet token = false := by
    have hnew := isSet_register (c.service.cancellations worker) r.review
    rw [hissued] at hnew
    simpa [Service.withCancellations] using hnew
  have h₁ : r.AtFile worker token t (p.dossier repository installation) 0
      (c.after (.startRun r.review) (c.service.withCancellations worker registered)) := by
    refine ⟨⟨ha, hunset, hc⟩, ?_, ?_⟩
    · rw [Course.calls_after, hanalyzed, if_neg hspared.analyze]
    · rw [Course.calls_after, hadded, if_neg hspared.addAnalysis]
  obtain ⟨records, step, c₂, hrecords, hsteps, h₂⟩ := steps_fails fetch hall hfits h₁ hfails
  obtain ⟨c₃, hreport, h₃⟩ := reportFailure_alone fetch hall hfits h₂ rfl e
  have hattempt : (r.attempt token).runInterrupted all fetch worker
      (c.after (.startRun r.review) (c.service.withCancellations worker registered)) =
        (.ok (r.outcome (.error e)), c₃) := by
    rw [attempt, Program.runInterrupted_rescue, hsteps]
    exact hreport
  have hended : (Request.finishRun r.review token).perform fetch worker c₃.service =
      (.ok (), c₃.service.withCancellations worker ((c₃.service.cancellations worker).release r.review token)) := rfl
  have hlast : (Request.finishRun r.review token).Spared := .of_point none rfl (by decide)
  have hfinish := Program.runInterrupted_request (Course.make_of_spared hall hlast hended)
  exact ⟨records, step, _, hrecords, (Program.runInterrupted_request_ok hstart).trans
    (Program.runInterrupted_andFinally_ok hattempt hfinish), h₃.carries⟩

end Pulled

end Run

/-! ## The delivery -/

section Delivery

variable (fetch : Fetcher) (worker : Nat) {s : Service} {pullRequest : Event.PullRequest}
  {repository : Event.Repository} {installation : Event.Installation} {e : Failure} {before : List ChangedFile}
  {progress : Int} {counts : Members}

theorem FailsAt.keys {fetched : Except Failure (List ChangedFile)} (h : FailsAt all fetched e before progress counts) :
    (∀ x ∈ counts, x.1 ∈ PullRequestSummary.countKeys) ∧ Members.merge [] counts = counts := by
  cases h with
  | listing => exact ⟨by simp, rfl⟩
  | file => exact ⟨PullRequestSummary.keys_counted _ _, PullRequestSummary.merge_counted ..⟩

/-- The dossier of a review that has failed. -/
def Event.PullRequest.failed (p : Event.PullRequest) (repository : Event.Repository)
    (installation : Event.Installation) (e : Failure) (progress : Int) (counts : Members) (records : List Record) :
    Dossier where
  review :=
    { id := 0, number := p.number, repository := repository.fullName, installation := installation.id
      status := .failed, run := ""
      data := p.summary.toMembers.merge (PullRequestSummary.failedMembers progress counts e.message)
      createdAt := 0, updatedAt := 0, completedAt := none }
  fileChanges := records.map (·.fileChange 0)
  comments := records.flatMap (·.comments 0)

/-- Nothing is left open, so the outcome is that of the handler. -/
theorem Event.process_runInterrupted_ok {event : Event} {c c' : Course ν} {outcome : Outcome}
    (h : event.program.runInterrupted all fetch worker c = (.ok outcome, c')) :
    event.process.runInterrupted all fetch worker c = (.ok outcome, c') :=
  Program.runInterrupted_rescue_ok h

/-- The review is queued, and its run fails. -/
theorem Event.due_fails (action : QueueAction) (hall : ∀ i ∈ all, i.IsFault) (hw : s.database.tables.WellFormed)
    (ha : s.database.Available) (hfits : pullRequest.Fits repository installation)
    (hid : fitsColumn (s.database.tables.idFor pullRequest.number repository.fullName) = true)
    (hfails : FailsAt all (pullRequest.fetched repository installation fetch) e before progress counts) :
    let r := pullRequest.run repository installation s.database
    ∃ records c, before.mapM ChangedFile.record = .ok records ∧
      (reviewDue action pullRequest repository installation).program.runInterrupted all fetch worker { service := s } =
        (.ok (r.outcome (.error e)), c) ∧
      c.service.database.tables.Carries s.database.tables r.ticket
        (pullRequest.failed repository installation e progress counts records) := by
  intro r
  obtain ⟨s₁, hqueue, ha₁, hcarries₁⟩ := perform_queueCall fetch worker repository hw ha hfits
  have hspared : (Request.store (pullRequest.queueCall repository installation)).Spared :=
    .of_point (some .queue) rfl (by decide)
  have hstart := Course.make_of_spared (c := { service := s }) hall hspared hqueue
  obtain ⟨records, step, c, hrecords, hrun, hcarries⟩ := r.program_fails fetch worker hall hid
    (c := Course.after { service := s } (.store (pullRequest.queueCall repository installation)) s₁) ha₁ hcarries₁ rfl
    rfl hfails
  refine ⟨records, c, hrecords, ?_, ?_⟩
  · exact (Program.runInterrupted_ask hstart).trans (Program.runInterrupted_rescue_ok hrun)
  · obtain ⟨hkeys, hmerge⟩ := hfails.keys
    unfold PullRequest.failed
    rw [← pullRequest.summary.merge_failed step progress hkeys hmerge]
    exact hcarries

end Delivery

/-- **A delivery that fails.** A review is due, the database answers, nobody else steps in, and the files cannot be
listed or the analysis or the recording of one of them fails. Then the review has failed, which the outcome tells with
a text that is not empty; its data are what was queued, the last percentage reached, what has been counted and that
text; its rows are those of the files before; and everything else stays as it was. -/
theorem delivery_fails {ν : Type} {p : Pool} (h : p.Reachable Service.Drifts) (ha : p.service.database.Available)
    {all : List (Interruption ν)} (hall : ∀ i ∈ all, i.IsFault) (fetch : Fetcher) (worker : Nat) (now : Moment)
    (action : QueueAction) (pullRequest : Event.PullRequest) (repository : Event.Repository)
    (installation : Event.Installation) (hfits : pullRequest.Fits repository installation)
    (hid : fitsColumn (p.tables.idFor pullRequest.number repository.fullName) = true) {e : Failure}
    {before : List ChangedFile} {progress : Int} {counts : Members}
    (hfails : FailsAt all (pullRequest.fetched repository installation fetch) e before progress counts) :
    ∃ outcome c r,
      (Event.reviewDue action pullRequest repository installation).program.runInterrupted all fetch worker
        { service := { p.service with now } } = (.ok outcome, c) ∧
      (Event.reviewDue action pullRequest repository installation).process.runInterrupted all fetch worker
        { service := { p.service with now } } = (.ok outcome, c) ∧
      outcome = {
        action := "fail_review", ok := false, review := some r.id, status := some .failed
        error := some e.message } ∧
      e.message ≠ "" ∧
      c.service.database.tables.reviewOf? pullRequest.number repository.fullName = some r ∧
      r.id = p.tables.idFor pullRequest.number repository.fullName ∧ r.status = .failed ∧ r.completedAt = none ∧
      r.data = pullRequest.summary.toMembers.merge
        (("step", .str "failed") :: ("progress", .int progress) ::
          (counts ++ ([("error", .str e.message)] : Members))) ∧
      c.service.database.tables.RowsOf r.id before ∧
      c.service.database.tables.reviews.filter (·.id != r.id) = p.tables.reviews.filter (·.id != r.id) ∧
      c.service.database.tables.fileChanges.filter (·.review != r.id) =
        p.tables.fileChanges.filter (·.review != r.id) ∧
      c.service.database.tables.comments.filter (·.review != r.id) = p.tables.comments.filter (·.review != r.id) ∧
      c.service.database.tables.installations = p.tables.installations ∧
      c.service.database.tables.repositories = p.tables.repositories := by
  have hw := h.history.owned.tables
  obtain ⟨records, c, hrecords, hprogram, hcarries⟩ :=
    Event.due_fails fetch worker (s := { p.service with now }) action hall hw ha hfits hid hfails
  have hprocess := Event.process_runInterrupted_ok fetch worker hprogram
  have hw' : c.service.database.tables.WellFormed := by
    have hkept := (Event.reviewDue action pullRequest repository installation).program.runInterrupted_keeps
      (c := { service := { p.service with now } }) hall (·.tables.WellFormed)
      (fun _ r hs => r.perform_wellFormed fetch worker hs) hw
    rwa [hprogram] at hkept
  obtain ⟨r, hr, hid', hrow⟩ := hcarries.reviewOf? hw' rfl
  obtain ⟨hfiles, hcomments⟩ := hcarries.rows
  obtain ⟨hreviews', hfiles', hcomments', hinstallations, hrepositories⟩ := hcarries.frame
  rw [← hid'] at hfiles hcomments hreviews' hfiles' hcomments'
  refine ⟨_, c, r, hprogram, hprocess, ?_, e.message_ne_empty, hr, hid', congrArg Review.status hrow, ?_,
    congrArg Review.data hrow, ⟨records, hrecords, ?_, ?_⟩, hreviews', hfiles', hcomments', hinstallations,
    hrepositories⟩
  · rw [hid']
    rfl
  · have hcompleted : r.completedAt.map (fun _ => (0 : Moment)) = none := congrArg Review.completedAt hrow
    exact Option.map_eq_none_iff.1 hcompleted
  · rw [hfiles]
    exact List.map_map
  · rw [hcomments]
    refine List.map_flatMap.trans (List.flatMap_congr fun x _ => ?_)
    rw [Record.comments, List.map_map]
    rfl

/-- The recording of the second file fails. -/
def fullDisk : Interruption Unit where
  point := .addAnalysis
  call := 2
  act s := (s, [])
  raises := some (.runtime "the disk is full")

/-- The review has been completed before, and fails at the second file. -/
theorem delivery_fails_at_second :
    (overlapping 20).Reachable Service.Drifts ∧ (overlapping 20).service.database.Available ∧
    (overlapping 20).tables.reviews.map (·.status) = [.completed] ∧ fullDisk.IsFault ∧
    FailsAt [fullDisk] (.ok twoFiles) (.runtime "the disk is full") (twoFiles.take 1) 50
      [("files_found", .int 2), ("files_analyzed", .int 1)] ∧
    ∃ (outcome : Outcome) (c : Course Unit) (r : Review),
      (dueReview .reopened).program.runInterrupted [fullDisk] (fun _ _ _ _ => .ok twoFiles) 0
        { service := { (overlapping 20).service with now := 5 } } = (.ok outcome, c) ∧
      outcome.error = some "the disk is full" ∧
      c.service.database.tables.reviewOf? 12 "acme/widgets" = some r ∧ r.status = .failed ∧
      r.data.get? "progress" = some (.int 50) ∧ r.data.get? "files_analyzed" = some (.int 1) ∧
      c.service.database.tables.RowsOf r.id (twoFiles.take 1) := by
  have hp : (overlapping 20).Reachable Service.Drifts := Pool.reachable_play ..
  have ha : (overlapping 20).service.database.Available := ⟨by decide +kernel, by decide +kernel⟩
  have hfault : fullDisk.IsFault := ⟨fun _ => rfl, .inr rfl⟩
  have hfirst : ∀ i (hi : i < (twoFiles.take 1).length), ∃ x, (twoFiles.take 1)[i].keptAt [fullDisk] i = .ok x := by
    have hkept : ∀ i (hi : i < (twoFiles.take 1).length),
        ((twoFiles.take 1)[i].keptAt [fullDisk] i).toOption.isSome = true := by
      decide +kernel
    intro i hi
    have hsome := hkept i hi
    cases hx : (twoFiles.take 1)[i].keptAt [fullDisk] i with
    | ok x => exact ⟨x, rfl⟩
    | error e =>
      rw [hx] at hsome
      cases hsome
  have hfiles : (Except.ok twoFiles : Except Failure (List ChangedFile)) =
      .ok (twoFiles.take 1 ++ { filename := "logo.png", status := .added } :: []) := rfl
  have hfails : FailsAt [fullDisk] (.ok twoFiles) (.runtime "the disk is full") (twoFiles.take 1) 50
      [("files_found", .int 2), ("files_analyzed", .int 1)] :=
    .file hfiles hfirst rfl
  obtain ⟨outcome, c, r, hrun, -, houtcome, -, hr, -, hstatus, -, hdata, hrows, -⟩ :=
    delivery_fails hp ha (List.forall_mem_singleton.2 hfault) (fun _ _ _ _ => .ok twoFiles) 0 5 .reopened
      { number := 12 } { id := 5, fullName := "acme/widgets" } { id := 77 } (by decide) (by decide +kernel) hfails
  refine ⟨hp, ha, by decide +kernel, hfault, hfails, outcome, c, r, hrun, ?_, hr, hstatus, ?_, ?_, hrows⟩
  · rw [houtcome]
    rfl
  · rw [hdata]
    rfl
  · rw [hdata]
    rfl

end PullReview
