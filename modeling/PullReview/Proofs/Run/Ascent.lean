import PullReview.Proofs.Run.Metadata
import Mathlib.Logic.Relation

/-!
# Progress only rises

The percentage in the data of a review, over any interleaving of handlers and with any requests failing
(`progress_rises`): it is there and between nothing and a hundred, a hundred exactly when the review is
completed, and it does not fall before the pull request is queued again. A run asks for percentages in ascending
order whatever it is told (`Program.Climbs`), so one that is lost only leaves the review further behind what its
owner has reached.
-/

namespace PullReview

/-! ## What is recorded as done -/

/-- The percentage that a record tells. -/
def Progress.percentage? : Progress → Option Int
  | queued record => some record.progress
  | fetching percentage | analyzing percentage _ _ | ready percentage _ _ | completed percentage _ _ =>
    some percentage
  | failed _ | cancelled _ => none

/-- The percentage that a request is to record. -/
def Request.percentage? : Request → Option Int
  | store (.queue _ _ _ summary) => some summary.progress
  | store (.move _ _ progress _) => progress.percentage?
  | _ => none

theorem Progress.get?_merge_percentage (m : Members) (p : Progress) :
    (m.merge p.written).get? "progress" = (p.percentage?.map Json.int).or (m.get? "progress") := by
  cases hp : p.percentage? with
  | none =>
    refine Members.get?_merge_of_forall_ne ?_
    cases p with
    | failed | cancelled => simp [written, toMembers, toMembers.tag, Members.withoutNulls]
    | _ => cases hp
  | some x =>
    cases p with
    | failed | cancelled => cases hp
    | analyzing percentage found analyzed =>
      cases hp
      cases found <;> cases analyzed <;>
        simp [written, toMembers, toMembers.tag, Members.withoutNulls, Members.merge, Members.get?_set, Json.ofOption]
    | _ =>
      cases hp
      simp [written, toMembers, toMembers.tag, PullRequestSummary.toMembers, Members.withoutNulls, Members.merge,
        Members.get?_set]

namespace Run

variable {m n total : Nat}

theorem percentage_le_percentage (h : m ≤ n) : percentage m total ≤ percentage n total := by
  have hdiv : m * 40 / total ≤ n * 40 / total := Nat.div_le_div_right (Nat.mul_le_mul_right 40 h)
  exact Int.add_le_add_left (Int.ofNat_le.2 hdiv) Progress.analyzingStart

theorem analyzingStart_le_percentage : Progress.analyzingStart ≤ percentage n total :=
  Int.le_add_of_nonneg_right (Int.natCast_nonneg _)

theorem percentage_le_readyStart (h : n ≤ total) : percentage n total ≤ Progress.readyStart := by
  have hmul : n * 40 ≤ total * 40 := Nat.mul_le_mul_right 40 h
  have hdiv : n * 40 / total ≤ 40 := Nat.div_le_of_le_mul hmul
  exact Int.add_le_add_left (Int.ofNat_le.2 hdiv) Progress.analyzingStart

theorem percentage_zero : percentage 0 total = Progress.analyzingStart := by
  rw [percentage, Nat.zero_mul, Nat.zero_div]
  rfl

end Run

/-! ## Programs that climb -/

namespace Program

variable {α β : Type} {low mid high : Int}

/-- From a percentage on, a program asks for percentages that neither fall nor pass another one, whatever it is
told. -/
def Climbs (high : Int) : Program α → Int → Prop
  | done _, _ | failed _, _ => True
  | ask r next, low =>
    (∀ x ∈ r.percentage?, low ≤ x ∧ x ≤ high) ∧ ∀ reply, (next reply).Climbs high (r.percentage?.getD low)

/-- Where a request leaves a program that was bounded. -/
theorem getD_percentage_le {r : Request} (hr : ∀ x ∈ r.percentage?, low ≤ x ∧ x ≤ mid) (hle : low ≤ mid) :
    r.percentage?.getD low ≤ mid := by
  cases hx : r.percentage? with
  | none => exact hle
  | some x => exact (hr x hx).2

theorem Climbs.from_lower {p : Program α} (h : p.Climbs high mid) (hle : low ≤ mid) : p.Climbs high low := by
  induction p generalizing low mid with
  | done a => trivial
  | failed e => trivial
  | ask r next ih =>
    obtain ⟨hr, hnext⟩ := h
    refine ⟨fun x hx => ⟨Int.le_trans hle (hr x hx).1, (hr x hx).2⟩, fun reply => ih reply (hnext reply) ?_⟩
    cases r.percentage? with
    | none => exact hle
    | some x => exact Int.le_refl x

theorem Climbs.bind {p : Program α} {f : α → Program β} (h : p.Climbs mid low) (hf : ∀ a, (f a).Climbs high mid)
    (hlow : low ≤ mid) (hhigh : mid ≤ high) : (p.bind f).Climbs high low := by
  induction p generalizing low with
  | done a => exact (hf a).from_lower hlow
  | failed e => trivial
  | ask r next ih =>
    obtain ⟨hr, hnext⟩ := h
    refine ⟨fun x hx => ⟨(hr x hx).1, Int.le_trans (hr x hx).2 hhigh⟩, fun reply => ?_⟩
    exact ih reply (hnext reply) (getD_percentage_le hr hlow)

theorem Climbs.rescue {p : Program α} {handle : Failure → Program α} (h : p.Climbs high low)
    (hh : ∀ e, (handle e).Climbs high high) (hlow : low ≤ high) : (p.rescue handle).Climbs high low := by
  induction p generalizing low with
  | done a => trivial
  | failed e => exact (hh e).from_lower hlow
  | ask r next ih =>
    obtain ⟨hr, hnext⟩ := h
    exact ⟨hr, fun reply => ih reply (hnext reply) (getD_percentage_le hr hlow)⟩

theorem Climbs.andFinally {p : Program α} {last : Program Unit} (h : p.Climbs high low) (hl : last.Climbs high high)
    (hlow : low ≤ high) : (p.andFinally last).Climbs high low := by
  induction p generalizing low with
  | done a => exact (hl.from_lower hlow).bind (fun _ => trivial) hlow (Int.le_refl high)
  | failed e => exact (hl.from_lower hlow).bind (fun _ => trivial) hlow (Int.le_refl high)
  | ask r next ih =>
    obtain ⟨hr, hnext⟩ := h
    exact ⟨hr, fun reply => ih reply (hnext reply) (getD_percentage_le hr hlow)⟩

/-- One request and what follows a reply to it. -/
theorem climbs_request_bind {r : Request} {f : r.Reply → Program α} (hr : ∀ x ∈ r.percentage?, low ≤ x ∧ x ≤ high)
    (hf : ∀ a, (f a).Climbs high (r.percentage?.getD low)) : ((request r).bind f).Climbs high low := by
  refine ⟨hr, fun reply => ?_⟩
  cases reply with
  | ok a => exact hf a
  | error e => trivial

theorem climbs_request {r : Request} (hr : r.percentage? = none) : (request r).Climbs high low := by
  refine ⟨fun x hx => ?_, fun reply => ?_⟩
  · rw [hr] at hx
    cases hx
  · cases reply <;> trivial

end Program

/-! ## Handlers climb -/

theorem reportFailure_climbs (review : Int) (error : String) (run : Option Text) {low high : Int} :
    (reportFailure review error run).Climbs high low := by
  refine ⟨nofun, fun reply => ?_⟩
  rcases reply with e | (_ | _)
  · simp only
    split <;> trivial
  · trivial
  · trivial

namespace Run

variable {low : Int}

theorem note_climbs (r : Run) {progress : Progress} {x : Int} (hx : progress.percentage? = some x) (hle : low ≤ x) :
    (r.note progress).Climbs x low := by
  refine ⟨fun y hy => ?_, fun reply => ?_⟩
  · obtain rfl : x = y := Option.some.inj (hx.symm.trans hy)
    exact ⟨hle, Int.le_refl x⟩
  · cases reply with
    | ok moved => trivial
    | error e =>
      simp only
      split <;> trivial

/-- The induction over the files: with the files counted and those left making up the total, the percentages
go from that of the count to where the last file leaves the run. -/
theorem analyzeFiles_climbs (r : Run) (token : Token) {total : Nat} (files : List ChangedFile) (tally : Tally)
    (htotal : tally.analyzed + files.length = total) :
    (r.analyzeFiles token total files tally).Climbs Progress.readyStart (percentage tally.analyzed total) := by
  induction files generalizing tally with
  | nil => trivial
  | cons file files ih =>
    refine Program.climbs_request_bind (r := .isCancelled token) nofun fun set => ?_
    split
    · trivial
    refine Program.climbs_request_bind (r := .analyze file) nofun fun analysis => ?_
    refine Program.climbs_request_bind (r := .store (.addAnalysis ..)) nofun fun recorded => ?_
    split
    · trivial
    have hcount : (count tally analysis).analyzed = tally.analyzed + 1 := rfl
    have hleft : (count tally analysis).analyzed + files.length = total := by
      rw [hcount, ← htotal, List.length_cons]
      omega
    have hrises : percentage tally.analyzed total ≤ percentage (count tally analysis).analyzed total :=
      percentage_le_percentage (by omega)
    have hbound : percentage (count tally analysis).analyzed total ≤ Progress.readyStart :=
      percentage_le_readyStart (by omega)
    exact (r.note_climbs rfl hrises).bind (fun _ => ih _ hleft) hrises hbound

theorem complete_climbs (r : Run) (tally : Tally) : (r.complete tally).Climbs Progress.allDone Progress.readyStart := by
  refine (r.note_climbs rfl (Int.le_refl _)).bind (fun _ => ?_) (Int.le_refl _) (by decide)
  refine Program.climbs_request_bind (r := .store (.move ..)) (fun x hx => ?_) fun moved => ?_
  · cases hx
    decide
  · split <;> trivial

theorem steps_climbs (r : Run) (token : Token) : (r.steps token).Climbs Progress.allDone 0 := by
  refine Program.climbs_request_bind (r := .store (.move ..)) (fun x hx => ?_) fun moved => ?_
  · cases hx
    decide
  split
  · trivial
  refine Program.climbs_request_bind (r := .fetchFiles ..) nofun fun files => ?_
  have hfetched : Progress.fetchingStart ≤ Progress.analyzingStart := by decide
  refine (r.note_climbs rfl hfetched).bind (fun _ => ?_) hfetched (by decide)
  have hfiles := r.analyzeFiles_climbs token files {} (Nat.zero_add files.length)
  rw [percentage_zero] at hfiles
  refine hfiles.bind (fun ended => ?_) (by decide) (by decide)
  cases ended with
  | error reason => trivial
  | ok tally => exact r.complete_climbs tally

theorem program_climbs (r : Run) : r.program.Climbs Progress.allDone 0 := by
  refine Program.climbs_request_bind (r := .startRun r.review) nofun fun token => ?_
  refine ((r.steps_climbs token).rescue (fun e => ?_) (by decide)).andFinally (Program.climbs_request rfl) (by decide)
  exact reportFailure_climbs ..

end Run

namespace Handler

variable {low high : Int}

theorem cancelRuns_climbs (reviews : List Int) : (cancelRuns reviews).Climbs high low := by
  induction reviews with
  | nil => trivial
  | cons v reviews ih => exact Program.climbs_request_bind (r := .cancelRun v) nofun fun found => ih

theorem orReport_climbs {action : String} {call : StoreCall} {next : call.Reply → Program Outcome}
    (hcall : Request.percentage? (.store call) = none) (hnext : ∀ reply, (next reply).Climbs high low) :
    (orReport action call next).Climbs high low := by
  refine ⟨fun x hx => ?_, fun reply => ?_⟩
  · rw [hcall] at hx
    cases hx
  · rw [hcall]
    cases reply with
    | ok reply => exact hnext reply
    | error e =>
      simp only
      split <;> trivial

theorem review_climbs (pullRequest : Event.PullRequest) (repository : Event.Repository)
    (installation : Event.Installation) :
    (review pullRequest repository installation).Climbs Progress.allDone 0 := by
  refine ⟨fun x hx => ?_, fun reply => ?_⟩
  · obtain rfl : pullRequest.summary.progress = x := Option.some.inj hx
    exact ⟨Int.le_refl 0, show (0 : Int) ≤ 100 by decide⟩
  · cases reply with
    | error e =>
      simp only
      split <;> trivial
    | ok ticket => exact (Run.program_climbs _).rescue (fun e => reportFailure_climbs ..) (by decide)

end Handler

/-- **The handler of every event climbs**, from nothing to a hundred at most. -/
theorem Event.process_climbs (event : Event) : event.process.Climbs Progress.allDone 0 := by
  suffices h : event.program.Climbs Progress.allDone 0 from h.rescue (fun _ => trivial) (by decide)
  have hcancel : ∀ (reviews : List Int) (outcome : Outcome),
      ((Handler.cancelRuns reviews).bind fun _ => .done outcome).Climbs Progress.allDone 0 := by
    intro reviews outcome
    exact (Handler.cancelRuns_climbs reviews).bind (fun _ => trivial) (by decide) (Int.le_refl _)
  cases event with
  | reviewDue action pullRequest repository installation =>
    exact Handler.review_climbs pullRequest repository installation
  | pullRequestClosed pullRequest repository installation =>
    exact Handler.orReport_climbs rfl fun reviews => hcancel reviews _
  | installationCreated installation repositories =>
    obtain ⟨id, account⟩ := installation
    cases account with
    | none => trivial
    | some account => exact Handler.orReport_climbs rfl fun _ => trivial
  | installationDeleted installation =>
    exact Handler.orReport_climbs rfl fun removal => hcancel removal.reviews _
  | repositoriesAdded installation repositories => exact Handler.orReport_climbs rfl fun _ => trivial
  | repositoriesRemoved installation repositories => exact Handler.orReport_climbs rfl fun _ => trivial

/-! ## Logs climb -/

/-- The percentage that a task has asked for last. -/
def reached (log : List Entry) (i : Nat) : Int :=
  (log.filter (·.task == i)).foldl (fun low e => e.request.percentage?.getD low) 0

theorem reached_concat (log : List Entry) (e : Entry) (i : Nat) :
    reached (log ++ [e]) i = if e.task = i then e.request.percentage?.getD (reached log i) else reached log i := by
  unfold reached
  by_cases h : e.task = i <;> simp [List.filter_append, List.foldl_append, h]

/-- An entry after a log asks for no less than its task has reached. -/
def Entry.Rises (e : Entry) (log : List Entry) : Prop := ∀ x ∈ e.request.percentage?, reached log e.task ≤ x

theorem Entry.Rises.reached_le {e : Entry} {log : List Entry} (h : e.Rises log) (i : Nat) :
    reached log i ≤ reached (log ++ [e]) i := by
  rw [reached_concat]
  by_cases hi : e.task = i
  · subst hi
    rw [if_pos rfl]
    cases hx : e.request.percentage? with
    | none => exact Int.le_refl _
    | some x => exact h x hx
  · exact Int.le_of_eq (if_neg hi).symm

namespace Pool

variable {drifts : Service → Service → Prop} {p q : Pool}

/-- All tasks climb from what they have reached. -/
theorem Reachable.climbs (h : p.Reachable drifts) {i : Nat} {t : Task} (hi : p.tasks[i]? = some t) :
    t.left.Climbs Progress.allDone (reached p.log i) := by
  refine h.left_induction (P := fun log i left => left.Climbs Progress.allDone (reached log i)) ?_ ?_ ?_ hi
  · intro log i event hnew
    have hnone : log.filter (·.task == i) = [] := List.filter_eq_nil_iff.2 fun e he => by simpa using hnew e he
    rw [reached, hnone, List.foldl_nil]
    exact event.process_climbs
  · intro log i worker r next reply hclimbs
    rw [reached_concat, if_pos rfl]
    exact hclimbs.2 reply
  · intro log i left e hother hclimbs
    rwa [reached_concat, if_neg hother]

theorem Reachable.rises (h : p.Reachable drifts) {i worker : Nat} {r : Request}
    {next : Except Failure r.Reply → Program Outcome} (hi : p.tasks[i]? = some ⟨worker, .ask r next⟩)
    {reply : Except Failure r.Reply} : Entry.Rises ⟨i, worker, r, reply⟩ p.log :=
  fun x hx => ((h.climbs hi).1 x hx).1

/-- A step leaves log and tables, or it adds an entry to the log that happens to the service. -/
theorem Reachable.step_cases (h : p.Reachable Service.Drifts) (hq : p.Step Service.Drifts q) :
    (q.log = p.log ∧ q.tables = p.tables) ∨
    ∃ e, q.log = p.log ++ [e] ∧ e.Follows p.log ∧ e.Rises p.log ∧ e.Happens p.service q.service := by
  cases hq with
  | arrive worker event => exact .inl ⟨rfl, rfl⟩
  | drift s hs => exact .inl ⟨rfl, hs.1⟩
  | @perform i worker r next hi fetch =>
    have hreply := Request.canReply_perform fetch worker p.service r
    exact .inr ⟨_, rfl, h.conducted.follows hi hreply, h.rises hi, .inl ⟨fetch, rfl⟩⟩
  | refuse hi failure hr =>
    exact .inr ⟨_, rfl, h.conducted.follows hi hr, h.rises hi, .inr ⟨⟨failure, rfl⟩, rfl⟩⟩

end Pool

/-! ## What runs write -/

namespace Memory

variable {m : Memory} {status : ReviewStatus} {progress : Progress}

/-- No more has been recorded than was fetched. -/
theorem Sound.length_records_le (h : m.Sound) {files : List ChangedFile} (hfiles : m.files = some files) :
    m.records.length ≤ files.length := by
  obtain ⟨done, hdone, hrecords⟩ := h.recorded
  have hlength := length_eq_of_mapM_record hrecords
  rw [hfiles, Option.getD_some] at hdone
  rw [hdone, List.length_append, hlength]
  exact Nat.le_add_right _ _

/-- What a run writes as done is a hundred percent exactly as it completes. -/
theorem Writes.percentage (hw : m.Writes status progress) (hm : m.Sound) :
    (progress.percentage? = none ∧ status ≠ .completed) ∨
    ∃ x, progress.percentage? = some x ∧ 0 ≤ x ∧ x ≤ Progress.allDone ∧
      (x = Progress.allDone ↔ status = .completed) := by
  cases hw with
  | fetching => exact .inr ⟨_, rfl, by decide, by decide, by decide⟩
  | found => exact .inr ⟨_, rfl, by decide, by decide, by decide⟩
  | analyzed files hfiles =>
    have hle : m.tally.analyzed ≤ files.length := hm.length_records_le hfiles
    have hlow : 30 ≤ Run.percentage m.tally.analyzed files.length := Run.analyzingStart_le_percentage
    have hhigh : Run.percentage m.tally.analyzed files.length ≤ 70 := Run.percentage_le_readyStart hle
    rw [Progress.allDone]
    refine .inr ⟨_, rfl, by omega, by omega, iff_of_false ?_ nofun⟩
    omega
  | ready => exact .inr ⟨_, rfl, by decide, by decide, by decide⟩
  | completed => exact .inr ⟨_, rfl, by decide, by decide, by decide⟩
  | failed => exact .inl ⟨rfl, nofun⟩

/-- A count of files that a run writes is of what it has recorded. -/
theorem Writes.get?_filesAnalyzed (hw : m.Writes status progress) (data : Members) {j : Json}
    (hj : (data.merge progress.written).get? "files_analyzed" = some j) :
    j = .int m.tally.analyzed ∨ data.get? "files_analyzed" = some j := by
  cases hw with
  | fetching | found | failed =>
    refine .inr (Eq.trans (Members.get?_merge_of_forall_ne ?_).symm hj)
    simp [Progress.written, Progress.toMembers, Progress.toMembers.tag, Members.withoutNulls, Json.ofOption]
  | analyzed | ready | completed =>
    refine .inl ?_
    simpa [Progress.written, Progress.toMembers, Progress.toMembers.tag, Members.withoutNulls, Members.merge,
      Members.get?_set, Json.ofOption, eq_comm] using hj

end Memory

/-! ## What reviews have come to -/

/-- A review is no further than what its owner has reached, and at a hundred percent exactly when it is completed;
the files counted have their rows. -/
structure Dossier.Paced (d : Dossier) (reached : Int) : Prop where
  progress : ∃ x, d.review.data.get? "progress" = some (.int x) ∧ 0 ≤ x ∧ x ≤ reached ∧ x ≤ Progress.allDone ∧
    (x = Progress.allDone ↔ d.review.status = .completed)
  analyzed : ∀ j, d.review.data.get? "files_analyzed" = some j → ∃ n : Nat, j = .int n ∧ n ≤ d.fileChanges.length

/-- The percentage of a review has not fallen. -/
def Review.NoFurtherThan (r s : Review) : Prop :=
  ∀ x, r.data.get? "progress" = some (.int x) → ∃ y, s.data.get? "progress" = some (.int y) ∧ x ≤ y

theorem Review.NoFurtherThan.refl (r : Review) : r.NoFurtherThan r := fun x hx => ⟨x, hx, Int.le_refl x⟩

theorem Review.NoFurtherThan.trans {r s t : Review} (h : r.NoFurtherThan s) (g : s.NoFurtherThan t) :
    r.NoFurtherThan t := by
  intro x hx
  obtain ⟨y, hy, hle⟩ := h x hx
  obtain ⟨z, hz, hle'⟩ := g y hy
  exact ⟨z, hz, Int.le_trans hle hle'⟩

namespace Dossier.Paced

variable {d : Dossier} {low high : Int}

theorem mono (h : d.Paced low) (hle : low ≤ high) : d.Paced high := by
  obtain ⟨x, hx, hnonneg, hlow, hdone⟩ := h.progress
  exact ⟨⟨x, hx, hnonneg, Int.le_trans hlow hle, hdone⟩, h.analyzed⟩

theorem queued (ticket : Ticket) (now : Moment) (number : Int) (repository : Text) (installation : Int)
    {summary : PullRequestSummary} (hsummary : summary.progress = 0) :
    (Dossier.queued ticket now number repository installation summary).Paced 0 := by
  constructor
  case progress =>
    refine ⟨0, ?_, Int.le_refl 0, Int.le_refl 0, by decide, iff_of_false (by decide) nofun⟩
    simp [Dossier.queued, PullRequestSummary.toMembers, Members.get?, hsummary]
  case analyzed =>
    intro j hj
    simp [Dossier.queued, PullRequestSummary.toMembers, Members.get?] at hj

/-- A record on which a review goes on to a status: its percentage is a hundred exactly if the status is completed,
it is no less than what was reached, and the files it counts have their rows. -/
theorem moved (h : d.Paced low) {status : ReviewStatus} (hsucc : status ∈ d.review.status.successors) (now : Moment)
    {p : Progress} (hrises : ∀ x ∈ p.percentage?, low ≤ x)
    (hdone : (p.percentage? = none ∧ status ≠ .completed) ∨
      ∃ x, p.percentage? = some x ∧ 0 ≤ x ∧ x ≤ Progress.allDone ∧ (x = Progress.allDone ↔ status = .completed))
    (hcount : ∀ j, (d.review.data.merge p.written).get? "files_analyzed" = some j →
      j = .int d.fileChanges.length ∨ d.review.data.get? "files_analyzed" = some j) :
    (d.moved now status p.written).Paced (p.percentage?.getD low) ∧
      d.review.NoFurtherThan (d.moved now status p.written).review := by
  obtain ⟨x, hx, hnonneg, hlow, hhigh, hcompleted⟩ := h.progress
  have hopen : d.review.status ≠ .completed := by
    intro hterminal
    rw [hterminal] at hsucc
    cases hsucc
  have hmerged : (d.moved now status p.written).review.data.get? "progress" =
      (p.percentage?.map Json.int).or (some (.int x)) := by
    rw [← hx]
    exact Progress.get?_merge_percentage d.review.data p
  have hanalyzed : ∀ j, (d.moved now status p.written).review.data.get? "files_analyzed" = some j →
      ∃ n : Nat, j = .int n ∧ n ≤ d.fileChanges.length := by
    intro j hj
    rcases hcount j hj with rfl | hold
    · exact ⟨_, rfl, Nat.le_refl _⟩
    · exact h.analyzed j hold
  obtain ⟨hnone, hstatus⟩ | ⟨y, hy, hpos, hbound, hiff⟩ := hdone
  · rw [hnone] at hmerged ⊢
    refine ⟨⟨⟨x, hmerged, hnonneg, hlow, hhigh, ?_⟩, hanalyzed⟩, fun z hz => ?_⟩
    · exact iff_of_false (mt hcompleted.1 hopen) hstatus
    · rw [hx] at hz
      cases hz
      exact ⟨x, hmerged, Int.le_refl x⟩
  · have hle : low ≤ y := hrises y hy
    rw [hy] at hmerged ⊢
    refine ⟨⟨⟨y, hmerged, hpos, Int.le_refl y, hbound, hiff⟩, hanalyzed⟩, fun z hz => ?_⟩
    rw [hx] at hz
    cases hz
    exact ⟨y, hmerged, Int.le_trans hlow hle⟩

theorem cancelled (h : d.Paced low) (hactive : d.review.status.isActive = true) (now : Moment) (reason : Text) :
    (d.cancelled now reason).Paced low ∧ d.review.NoFurtherThan (d.cancelled now reason).review := by
  have hwritten : (Progress.cancelled reason).written = (Progress.cancelled reason).toMembers := by
    simp [Progress.written, Progress.toMembers, Progress.toMembers.tag, Members.withoutNulls]
  have hmoved := h.moved (p := .cancelled reason) (ReviewStatus.isActive_iff.1 hactive) now
    (fun x hx => absurd hx (by simp [Progress.percentage?])) (.inl ⟨rfl, by decide⟩)
    fun j hj => .inr (Eq.trans (Members.get?_merge_of_forall_ne ?_).symm hj)
  · rw [hwritten] at hmoved
    exact hmoved
  · simp [hwritten, Progress.toMembers, Progress.toMembers.tag]

theorem extended (h : d.Paced low) (f : FileChange) (cs : List Comment) : (d.extended f cs).Paced low := by
  refine ⟨h.progress, fun j hj => ?_⟩
  obtain ⟨n, hn, hle⟩ := h.analyzed j hj
  refine ⟨n, hn, ?_⟩
  rw [Dossier.extended, List.length_append]
  exact Nat.le_add_right_of_le hle

end Dossier.Paced

/-- An entry queues a review, or it does not and no review comes from nothing. -/
theorem Entry.Turns.queued_or {now : Moment} {log : List Entry} {e : Entry} {v : Int} {before after : Option Dossier}
    (h : e.Turns now log v before after) :
    (∃ ticket number repository installation summary, e.ticket? = some ticket ∧ ticket.review = v ∧
      e.request = .store (.queue number repository installation summary) ∧
      after = some (.queued ticket now number repository installation summary)) ∨
    (∀ ticket, e.ticket? = some ticket → ticket.review ≠ v) ∧ (before = none → after = none) := by
  cases h with
  | queued _ number repository installation summary ht hv hq =>
    exact .inl ⟨_, number, repository, installation, summary, ht, hv, hq, rfl⟩
  | cancelled reason hc ha =>
    refine .inr ⟨fun ticket ht => ?_, nofun⟩
    rw [Entry.ticket?_of_cancelled hc] at ht
    cases ht
  | moved he hticket hw hs =>
    subst he
    exact .inr ⟨nofun, nofun⟩
  | extended id commentId he ha =>
    subst he
    exact .inr ⟨nofun, nofun⟩
  | kept _ htouches hw => exact .inr ⟨fun ticket ht hv => htouches (.inl ⟨ticket, ht, hv⟩), id⟩

/-- The step: what an entry does to a review other than queueing it. -/
theorem Entry.Turns.paced {now : Moment} {db : Database} {log : List Entry} {e : Entry} {v : Int} {i : Nat}
    {d : Dossier} {after : Option Dossier} (hturns : e.Turns now log v (some d) after) (hrises : e.Rises log)
    (hf : e.Follows log) (ho : Owned db log) (hsound : (memoryOf log i).Sound)
    (hi : (memoryOf log i).ticket = some ⟨v, d.review.run⟩) (htracks : (memoryOf log i).Tracks d)
    (hpaced : d.Paced (reached log i)) (hno : ∀ ticket, e.ticket? = some ticket → ticket.review ≠ v) :
    ∃ d', after = some d' ∧ d'.review.run = d.review.run ∧ d'.Paced (reached (log ++ [e]) i) ∧
      d.review.NoFurtherThan d'.review := by
  have hle := hrises.reached_le i
  cases hturns with
  | queued _ number repository installation summary ht hv => exact absurd hv (hno _ ht)
  | cancelled reason hc ha =>
    obtain ⟨hpaced, hfurther⟩ := hpaced.cancelled ha now reason
    exact ⟨_, rfl, rfl, hpaced.mono hle, hfurther⟩
  | @moved _ j w status progress he hticket hw hs =>
    obtain rfl := ho.unique hticket hi rfl
    have hreached : reached (log ++ [e]) j = progress.percentage?.getD (reached log j) := by
      rw [reached_concat, he]
      exact if_pos rfl
    subst he
    have hcounts : (memoryOf log j).tally.analyzed = d.fileChanges.length := by rw [htracks.counts]
    obtain ⟨hpaced, hfurther⟩ := hpaced.moved hs now hrises (hw.percentage hsound) fun j hj =>
      hcounts ▸ hw.get?_filesAnalyzed d.review.data hj
    exact ⟨_, rfl, rfl, hreached ▸ hpaced, hfurther⟩
  | extended id commentId he ha => exact ⟨_, rfl, rfl, (hpaced.extended _ _).mono hle, .refl _⟩
  | kept _ _ hw => exact ⟨d, rfl, rfl, hpaced.mono hle, .refl _⟩

namespace Pool

variable {p q : Pool}

/-- A step from a pool in which a review is no further than what its owner has reached. -/
theorem Reachable.step_paced (h : p.Reachable Service.Drifts) (hq : p.Step Service.Drifts q) {v : Int} {d : Dossier}
    (hd : p.tables.dossier? v = some d) {i : Nat} (hi : (memoryOf p.log i).ticket = some ⟨v, d.review.run⟩)
    (hpaced : d.Paced (reached p.log i))
    (hno : ∀ e ∈ q.log.drop p.log.length, ∀ ticket, e.ticket? = some ticket → ticket.review ≠ v) :
    ∃ d', q.tables.dossier? v = some d' ∧ (memoryOf q.log i).ticket = some ⟨v, d'.review.run⟩ ∧
      d'.Paced (reached q.log i) ∧ d.review.NoFurtherThan d'.review := by
  have hh := h.history
  obtain ⟨hlog, htables⟩ | ⟨e, hlog, hf, hrises, hs⟩ := h.step_cases hq
  · rw [hlog, htables]
    exact ⟨d, hd, hi, hpaced, .refl _⟩
  · rw [hlog] at hno ⊢
    have hno : ∀ ticket, e.ticket? = some ticket → ticket.review ≠ v := hno e (by simp)
    have hturns := (hs.effects hf hh.owned.tables).turns v
    rw [← Pool.tables, hd] at hturns
    obtain ⟨j, hj, htracks⟩ := hh.traced hd
    obtain rfl := hh.owned.unique hi hj rfl
    obtain ⟨d', hd', hrun, hpaced', hfurther⟩ :=
      hturns.paced hrises hf hh.owned (sound_memoryOf hh.orderly i) hi htracks hpaced hno
    exact ⟨d', hd', hrun ▸ takes_ticket.concat hf hi, hpaced', hfurther⟩

/-- A review is queued as at nothing. -/
theorem Reachable.queued_progress (h : p.Reachable Service.Drifts) {e : Entry} (he : e ∈ p.log) {number : Int}
    {repository : Text} {installation : Int} {summary : PullRequestSummary}
    (hq : e.request = .store (.queue number repository installation summary)) : summary.progress = 0 := by
  obtain ⟨events, hby⟩ := reachable_iff.1 h
  obtain ⟨event, -, hwarrants⟩ := hby.serves.asked e he
  rw [hq] at hwarrants
  obtain ⟨action, pullRequest, repo, inst, -, -, -, -, rfl⟩ := hwarrants
  rfl

/-- **In any pool, a review is no further than what its owner has reached.** -/
theorem Reachable.paced (h : p.Reachable Service.Drifts) :
    ∀ {v : Int} {d : Dossier}, p.tables.dossier? v = some d →
      ∃ i, (memoryOf p.log i).ticket = some ⟨v, d.review.run⟩ ∧ d.Paced (reached p.log i) := by
  induction h with
  | start now =>
    intro v d hd
    cases hd
  | @step p q h hq ih =>
    intro v d' hd'
    have hh := h.history
    obtain ⟨hlog, htables⟩ | ⟨e, hlog, hf, hrises, hs⟩ := h.step_cases hq
    · rw [htables] at hd'
      rw [hlog]
      exact ih hd'
    · have hturns := (hs.effects hf hh.owned.tables).turns v
      rw [← Pool.tables, ← Pool.tables, hd'] at hturns
      obtain ⟨ticket, number, repository, installation, summary, ht, rfl, hrequest, hqueued⟩ | ⟨hno, hnone⟩ :=
        hturns.queued_or
      · cases hqueued
        have hmem : e ∈ q.log := hlog ▸ List.mem_append_right _ (List.mem_singleton_self e)
        have hzero : summary.progress = 0 := (h.step hq).queued_progress hmem hrequest
        have hreached : reached q.log e.task = 0 := by
          rw [hlog, reached_concat, if_pos rfl, hrequest, ← hzero]
          rfl
        have hmemory : (memoryOf q.log e.task).ticket = some ticket := by rw [hlog, (hf.of_ticket ht).2]
        exact ⟨e.task, hmemory, hreached ▸ .queued ticket _ number repository installation hzero⟩
      · cases hd : p.tables.dossier? v with
        | none => cases hnone hd
        | some d =>
          obtain ⟨i, hi, hpaced⟩ := ih hd
          have hlater : ∀ f ∈ q.log.drop p.log.length, ∀ ticket, f.ticket? = some ticket → ticket.review ≠ v := by
            rw [hlog, List.drop_left, List.forall_mem_singleton]
            exact hno
          obtain ⟨e', he', hi', hpaced', -⟩ := h.step_paced hq hd hi hpaced hlater
          obtain rfl : e' = d' := Option.some.inj (he'.symm.trans hd')
          exact ⟨i, hi', hpaced'⟩

theorem Reachable.log_prefix (h : Relation.ReflTransGen (Pool.Step Service.Drifts) p q) : p.log <+: q.log := by
  induction h with
  | refl => exact List.prefix_rfl
  | tail _ hq ih =>
    refine ih.trans ?_
    cases hq with
    | arrive | drift => exact List.prefix_rfl
    | perform | refuse => exact List.prefix_append _ _

theorem Reachable.steps (h : p.Reachable Service.Drifts) (hq : Relation.ReflTransGen (Pool.Step Service.Drifts) p q) :
    q.Reachable Service.Drifts := by
  induction hq with
  | refl => exact h
  | tail _ hq ih => exact ih.step hq

/-- The run lemma: as long as the pull request is not queued again, the percentage does not fall. -/
theorem Reachable.noFurtherThan (h : p.Reachable Service.Drifts)
    (hq : Relation.ReflTransGen (Pool.Step Service.Drifts) p q) {v : Int} {d : Dossier}
    (hd : p.tables.dossier? v = some d)
    (hno : ∀ e ∈ q.log.drop p.log.length, ∀ ticket, e.ticket? = some ticket → ticket.review ≠ v) :
    ∃ d', q.tables.dossier? v = some d' ∧ d.review.NoFurtherThan d'.review := by
  induction hq with
  | refl => exact ⟨d, hd, .refl _⟩
  | @tail q r hq hr ih =>
    have hlog := Reachable.log_prefix (.single hr)
    obtain ⟨more, hmore⟩ := hlog
    have hle : p.log.length ≤ q.log.length := (Reachable.log_prefix hq).length_le
    rw [← hmore, List.drop_append_of_le_length hle, List.forall_mem_append] at hno
    obtain ⟨d', hd', hfurther⟩ := ih hno.1
    obtain ⟨i, hi, hpaced⟩ := (h.steps hq).paced hd'
    obtain ⟨d'', hd'', -, -, hfurther'⟩ := (h.steps hq).step_paced hr hd' hi hpaced (by
      rw [← hmore, List.drop_left]
      exact hno.2)
    exact ⟨d'', hd'', hfurther.trans hfurther'⟩

/-- What is written while files are analysed: where that starts, or what follows from a count of files of which
there are some. -/
theorem Reachable.analyzing (h : p.Reachable Service.Drifts) {e : Entry} (he : e ∈ p.log) {review : Int}
    {target : Text} {percentage : Int} {found analyzed : Option Int} {run : Option Text}
    (hr : e.request = .store (.move review target (.analyzing percentage found analyzed) run)) :
    ∃ files, p.fetched? e.task = some files ∧
      (percentage = Progress.analyzingStart ∧ analyzed = none ∨
        ∃ n : Nat, 0 < n ∧ n ≤ files.length ∧ analyzed = some (n : Int) ∧
          percentage = Run.percentage n files.length) := by
  have ho := h.history.orderly
  obtain ⟨before, rest, hlog⟩ := List.append_of_mem he
  have hbefore : Orderly before := ho.of_append hlog
  have hfetched : ∀ {files}, (memoryOf before e.task).files = some files → p.fetched? e.task = some files := by
    intro files hfiles
    obtain ⟨f, hf, htask, hlisting⟩ := takes_files.exists_mem hbefore hfiles
    have hmem : f ∈ p.log := hlog ▸ List.mem_append_left _ hf
    rw [Pool.fetched?, ← takes_files.eq_findSome? ho, ← htask]
    exact takes_files.of_mem ho hmem hlisting
  have hallows := (ho before e rest hlog).1
  rw [hr] at hallows
  obtain ⟨ticket, status, -, -, -, -, -, -, hw⟩ := hallows
  cases hw with
  | found files hfiles => exact ⟨files, hfetched hfiles, .inl ⟨rfl, rfl⟩⟩
  | analyzed files hfiles hrecords =>
    have hle := (sound_memoryOf hbefore e.task).length_records_le hfiles
    exact ⟨files, hfetched hfiles, .inr ⟨_, List.length_pos_of_ne_nil hrecords, hle, rfl, rfl⟩⟩

end Pool

/-- **Progress only rises, and tells no more than was done.** In any pool, whatever tokens are set and whatever
requests fail: the percentage of a review is there and between nothing and a hundred, and a hundred exactly if
the review is completed; as long as its pull request is not queued again it does not fall; and a review does not count
more files than it has rows. What is written while files are analysed lies between thirty and seventy: it is thirty
where no file is counted, and it is divided by the number of files fetched only where there are some. -/
theorem progress_rises {p : Pool} (h : p.Reachable Service.Drifts) :
    (∀ r ∈ p.tables.reviews, ∃ x, r.data.get? "progress" = some (.int x) ∧ 0 ≤ x ∧ x ≤ 100 ∧
      (x = 100 ↔ r.status = .completed) ∧
      (∀ j, r.data.get? "files_analyzed" = some j →
        ∃ n : Nat, j = .int n ∧ n ≤ (p.tables.fileChangesOf r.id).length) ∧
      ∀ q, Relation.ReflTransGen (Pool.Step Service.Drifts) p q →
        (∀ e ∈ q.log.drop p.log.length, ∀ ticket, e.ticket? = some ticket → ticket.review ≠ r.id) →
        ∃ s ∈ q.tables.reviews, s.id = r.id ∧ ∃ y, s.data.get? "progress" = some (.int y) ∧ x ≤ y) ∧
    ∀ e ∈ p.log, ∀ review target percentage found analyzed run,
      e.request = .store (.move review target (.analyzing percentage found analyzed) run) →
      30 ≤ percentage ∧ percentage ≤ 70 ∧
      ∃ files, p.fetched? e.task = some files ∧
        (percentage = 30 ∧ analyzed = none ∨
          ∃ n : Nat, 0 < n ∧ n ≤ files.length ∧ analyzed = some (n : Int) ∧
            percentage = Run.percentage n files.length) := by
  constructor
  · intro r hr
    obtain ⟨d, hd, rfl⟩ := Tables.dossier?_of_mem h.history.owned.tables hr
    obtain ⟨-, hrows, -⟩ := Tables.dossier?_eq_some_iff.1 hd
    obtain ⟨i, -, hpaced⟩ := h.paced hd
    obtain ⟨x, hx, hnonneg, -, hhundred, hdone⟩ := hpaced.progress
    refine ⟨x, hx, hnonneg, hhundred, hdone, hrows ▸ hpaced.analyzed, fun q hq hno => ?_⟩
    obtain ⟨d', hd', hfurther⟩ := h.noFurtherThan hq hd hno
    exact ⟨d'.review, Tables.review_mem hd', Tables.dossier?_id hd', hfurther x hx⟩
  · intro e he review target percentage found analyzed run hr
    obtain ⟨files, hfiles, hcases⟩ := h.analyzing he hr
    have hbounds : 30 ≤ percentage ∧ percentage ≤ 70 := by
      obtain ⟨rfl, -⟩ | ⟨n, -, hle, -, rfl⟩ := hcases
      · decide
      · exact ⟨Run.analyzingStart_le_percentage, Run.percentage_le_readyStart hle⟩
    exact ⟨hbounds.1, hbounds.2, files, hfiles, hcases⟩

/-- A played pool is reached from the one before its last moves. -/
theorem Pool.reaches_play (drifts : Service → Service → Prop) (fetch : Fetcher) (turns more : List Turn) :
    Relation.ReflTransGen (Pool.Step drifts) (play fetch turns) (play fetch (turns ++ more)) := by
  induction more using List.reverseRecOn with
  | nil =>
    rw [List.append_nil]
  | append_singleton more t ih =>
    have hlast : play fetch (turns ++ (more ++ [t])) = (play fetch (turns ++ more)).turn fetch t := by
      simp only [play, List.foldl_append, List.foldl_cons, List.foldl_nil]
    rw [hlast]
    cases t with
    | arrive worker event => exact ih.tail (.arrive worker event)
    | perform i =>
      simp only [turn]
      split
      · rename_i h
        exact ih.tail (.perform h fetch)
      · exact ih

/-- The percentage in the data of a review. -/
def Review.percentage? (r : Review) : Option Int :=
  match r.data.get? "progress" with
  | some (.int x) => some x
  | _ => none

/-- A delivery comes in, and its task makes some requests. -/
def advancing (requests : Nat) : Pool :=
  .play (fun _ _ _ _ => .ok twoFiles) ([.arrive 0 (dueReview .opened)] ++ List.replicate requests (.perform 0))

theorem progress_rises_advancing :
    (advancing 9).Reachable Service.Drifts ∧
    (∀ e ∈ (advancing 15).log.drop (advancing 9).log.length, e.ticket? = none) ∧
    ∃ r ∈ (advancing 9).tables.reviews, r.status = .inProgress ∧ r.data.get? "progress" = some (.int 50) ∧
      ∃ s ∈ (advancing 15).tables.reviews, s.id = r.id ∧
        ∃ y, s.data.get? "progress" = some (.int y) ∧ 50 ≤ y := by
  have h : (advancing 9).Reachable Service.Drifts := Pool.reachable_play ..
  have hreaches : Relation.ReflTransGen (Pool.Step Service.Drifts) (advancing 9) (advancing 15) :=
    Pool.reaches_play _ _ _ (List.replicate 6 (.perform 0))
  have hno : ∀ e ∈ (advancing 15).log.drop (advancing 9).log.length, e.ticket? = none := by decide +kernel
  have hany : (advancing 9).tables.reviews.any
      (fun r => r.status = .inProgress && r.percentage? == some 50) = true := by
    decide +kernel
  obtain ⟨r, hr, hhalf⟩ := List.any_eq_true.1 hany
  obtain ⟨x, hx, -, -, -, -, hrises⟩ := (progress_rises h).1 r hr
  rw [Review.percentage?, hx, Bool.and_eq_true, decide_eq_true_eq] at hhalf
  obtain ⟨hstatus, hfifty⟩ := hhalf
  obtain rfl : x = 50 := Option.some.inj (eq_of_beq hfifty)
  refine ⟨h, hno, r, hr, hstatus, hx, hrises _ hreaches fun e he ticket ht => ?_⟩
  rw [hno e he] at ht
  cases ht

end PullReview
