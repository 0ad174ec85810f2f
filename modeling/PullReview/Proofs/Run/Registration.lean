import PullReview.Proofs.Run.Registry
import PullReview.Proofs.Run.Metadata

/-!
# No token outlives its run

Calls on the lifecycle overlap in any way: handlers of events, and runs and failures of reviews called as they
are, of the same or of different reviews, with any request but those to the registry failing, and with anything
happening to the database between the requests (`Pool.Overlaps`). Where a task stands in its run is read off the
log (`phaseOf`): a run begins where its token is registered and ends where it is given back, which it does on
every way out (`LifecycleCall.program_brackets`). So every token that is registered belongs to a run that has not
returned (`no_token_outlives_its_run`).
-/

namespace PullReview

/-! ## Calls on the lifecycle -/

/-- A call on the lifecycle: the handler of an event, a run, or the failure of a review. -/
inductive LifecycleCall where
  | handle (event : Event)
  | run (r : Run)
  | fail (review : Int) (error : String) (named : Option Text)

def LifecycleCall.program : LifecycleCall → Program Outcome
  | handle event => event.process
  | run r => r.program
  | fail review error named => reportFailure review error named

/-- The pools that come about as calls overlap. Whatever becomes of the database and the clock meanwhile, the
registries are left to the calls. -/
inductive Pool.Overlaps : Pool → Prop
  | start (now : Moment) : Overlaps { service := { now } }
  | call {p : Pool} (h : Overlaps p) (worker : Nat) (c : LifecycleCall) :
    Overlaps { p with tasks := p.tasks ++ [⟨worker, c.program⟩] }
  | perform {p : Pool} (h : Overlaps p) {i worker : Nat} {r : Request}
    {next : Except Failure r.Reply → Program Outcome} (hi : p.tasks[i]? = some ⟨worker, .ask r next⟩)
    (fetch : Fetcher) : Overlaps (p.answered i worker r next (r.perform fetch worker p.service))
  | refuse {p : Pool} (h : Overlaps p) {i worker : Nat} {r : Request}
    {next : Except Failure r.Reply → Program Outcome} (hi : p.tasks[i]? = some ⟨worker, .ask r next⟩)
    (failure : Failure) (hr : r.CanReply (.error failure)) :
    Overlaps (p.answered i worker r next (.error failure, p.service))
  | change {p : Pool} (h : Overlaps p) (s : Service) (hs : s.cancellations = p.service.cancellations) :
    Overlaps { p with service := s }

theorem Pool.Reachable.overlaps {p : Pool} (h : p.Reachable Service.DriftsQuietly) : p.Overlaps := by
  induction h with
  | start now => exact .start now
  | step _ hq ih =>
    cases hq with
    | arrive worker event => exact ih.call worker (.handle event)
    | perform hi fetch => exact ih.perform hi fetch
    | refuse hi failure hr => exact ih.refuse hi failure hr
    | drift s hs => exact ih.change s hs.2

/-! ## Where a task stands -/

/-- A task has not begun its run, is inside it with a token, or has returned from it. -/
inductive Phase where
  | before
  | inside (review : Int) (token : Token)
  | returned
  deriving DecidableEq, Repr

namespace Phase

/-- A run is begun once, and given back as it was begun. -/
def Allows : Phase → Request → Prop
  | before, .startRun _ => True
  | inside _ _, .startRun _ | returned, .startRun _ => False
  | inside v t, .finishRun w u => w = v ∧ u = t
  | before, .finishRun .. | returned, .finishRun .. => False
  | _, _ => True

def after (ph : Phase) : (r : Request) → Except Failure r.Reply → Phase
  | .startRun v, .ok t => inside v t
  | .finishRun .., _ => returned
  | _, _ => ph

/-- A task is not inside a run. -/
def IsOut (ph : Phase) : Prop := ∀ v t, ph ≠ inside v t

end Phase

/-- Where a task stands, by what it has been told. -/
def phaseOf (log : List Entry) (task : Nat) : Phase :=
  (log.filter (·.task == task)).foldl (fun ph e => ph.after e.request e.reply) .before

theorem phaseOf_concat (log : List Entry) (e : Entry) (i : Nat) :
    phaseOf (log ++ [e]) i = if e.task = i then (phaseOf log i).after e.request e.reply else phaseOf log i := by
  unfold phaseOf
  by_cases h : e.task = i <;> simp [List.filter_append, List.foldl_append, h]

/-- Whether nothing is left to do. -/
def Program.isOver {α : Type} : Program α → Bool
  | done _ | failed _ => true
  | ask .. => false

/-- A task of a worker is inside a run with a token, and it has not returned. -/
structure Pool.InRun (p : Pool) (i worker : Nat) (v : Int) (t : Token) : Prop where
  phase : phaseOf p.log i = .inside v t
  unfinished : ∃ task, p.tasks[i]? = some task ∧ task.worker = worker ∧ task.left.isOver = false

/-- The request neither registers a token nor gives one back. -/
def Request.IsQuiet : Request → Prop
  | startRun _ | finishRun .. => False
  | _ => True

namespace Phase

variable {ph : Phase} {r : Request}

theorem isOut_before : before.IsOut := fun _ _ h => by cases h

theorem isOut_returned : returned.IsOut := fun _ _ h => by cases h

theorem allows_of_isQuiet (h : r.IsQuiet) : ph.Allows r := by
  cases r with
  | startRun v => cases h
  | finishRun v t => cases h
  | _ => cases ph <;> trivial

theorem after_of_isQuiet (h : r.IsQuiet) (reply : Except Failure r.Reply) : ph.after r reply = ph := by
  cases r with
  | startRun v => cases h
  | finishRun v t => cases h
  | _ => rfl

/-- Inside a run all requests are quiet but the one that gives its token back. -/
theorem eq_finishRun_or_isQuiet {v : Int} {t : Token} (h : (inside v t).Allows r) :
    r = .finishRun v t ∨ r.IsQuiet := by
  cases r with
  | startRun v => cases h
  | finishRun v' t' =>
    obtain ⟨rfl, rfl⟩ := h
    exact .inl rfl
  | _ => exact .inr trivial

theorem after_of_registered {e : Entry} {v : Int} {t : Token} (h : e.registered? = some (v, t)) (ph : Phase) :
    ph.after e.request e.reply = inside v t := by
  unfold Entry.registered? at h
  split at h
  · cases h
    rfl
  · cases h

end Phase

/-! ## Programs that give back what they take -/

namespace Program

variable {α β : Type} {ph : Phase} {post post' : Phase → Prop}

/-- From a phase, a program asks only what is allowed, whatever it is told, and ends in a phase as `post` says. -/
def Brackets : Program α → Phase → (Phase → Prop) → Prop
  | done _, ph, post | failed _, ph, post => post ph
  | ask r next, ph, post => ph.Allows r ∧ ∀ reply, (next reply).Brackets (ph.after r reply) post

theorem Brackets.rescue {p : Program α} {handle : Failure → Program α} (h : p.Brackets ph post)
    (hdone : ∀ ph, post ph → post' ph) (hfailed : ∀ ph e, post ph → (handle e).Brackets ph post') :
    (p.rescue handle).Brackets ph post' := by
  induction p generalizing ph with
  | done a => exact hdone ph h
  | failed e => exact hfailed ph e h
  | ask r next ih => exact ⟨h.1, fun reply => ih reply (h.2 reply)⟩

/-- A quiet program stays in its phase. -/
theorem Asks.brackets {p : Program α} (h : p.Asks Request.IsQuiet) (hpost : post ph) : p.Brackets ph post := by
  induction p with
  | done a => exact hpost
  | failed e => exact hpost
  | ask r next ih =>
    refine ⟨Phase.allows_of_isQuiet h.1, fun reply => ?_⟩
    rw [Phase.after_of_isQuiet h.1]
    exact ih reply (h.2 reply)

/-- Whichever way a quiet program ends, the token is given back after it. -/
theorem Asks.andFinally_brackets {p : Program α} (h : p.Asks Request.IsQuiet) (v : Int) (t : Token) :
    (p.andFinally (request (.finishRun v t))).Brackets (.inside v t) Phase.IsOut := by
  induction p with
  | done a =>
    refine ⟨⟨rfl, rfl⟩, fun reply => ?_⟩
    cases reply <;> exact Phase.isOut_returned
  | failed e =>
    refine ⟨⟨rfl, rfl⟩, fun reply => ?_⟩
    cases reply <;> exact Phase.isOut_returned
  | ask r next ih =>
    refine ⟨Phase.allows_of_isQuiet h.1, fun reply => ?_⟩
    rw [Phase.after_of_isQuiet h.1]
    exact ih reply (h.2 reply)

theorem asks_request {allowed : Request → Prop} {r : Request} (hr : allowed r) : (request r).Asks allowed := by
  refine ⟨hr, fun reply => ?_⟩
  cases reply <;> trivial

/-- A failure of the database is passed over or told, any other goes on. -/
theorem asks_told {allowed : Request → Prop} {c : Prop} [Decidable c] (a : α) (e : Failure) :
    (if c then .done a else .failed e : Program α).Asks allowed := by
  split <;> trivial

end Program

theorem reportFailure_quiet (review : Int) (error : String) (run : Option Text) :
    (reportFailure review error run).Asks Request.IsQuiet := by
  refine ⟨trivial, fun reply => ?_⟩
  rcases reply with e | (_ | _)
  · exact Program.asks_told _ e
  · trivial
  · trivial

namespace Run

theorem note_quiet (r : Run) (progress : Progress) : (r.note progress).Asks Request.IsQuiet := by
  refine ⟨trivial, fun reply => ?_⟩
  cases reply with
  | ok moved => trivial
  | error e => exact Program.asks_told _ e

theorem analyzeFiles_quiet (r : Run) (token : Token) (total : Nat) (files : List ChangedFile) (tally : Tally) :
    (r.analyzeFiles token total files tally).Asks Request.IsQuiet := by
  induction files generalizing tally with
  | nil => trivial
  | cons file files ih =>
    refine (Program.asks_request trivial).bind fun set => ?_
    split
    · trivial
    refine (Program.asks_request trivial).bind fun analysis => ?_
    refine (Program.asks_request trivial).bind fun recorded => ?_
    split
    · trivial
    · exact (r.note_quiet _).bind fun _ => ih _

theorem complete_quiet (r : Run) (tally : Tally) : (r.complete tally).Asks Request.IsQuiet := by
  refine (r.note_quiet _).bind fun _ => ?_
  refine (Program.asks_request trivial).bind fun moved => ?_
  split <;> trivial

theorem attempt_quiet (r : Run) (token : Token) : (r.attempt token).Asks Request.IsQuiet := by
  refine Program.Asks.rescue ?_ fun e => reportFailure_quiet ..
  refine (Program.asks_request trivial).bind fun moved => ?_
  split
  · trivial
  refine (Program.asks_request trivial).bind fun files => ?_
  refine (r.note_quiet _).bind fun _ => ?_
  refine (r.analyzeFiles_quiet token _ files _).bind fun ended => ?_
  cases ended with
  | error reason => trivial
  | ok tally => exact r.complete_quiet tally

theorem program_brackets (r : Run) : r.program.Brackets .before Phase.IsOut := by
  refine ⟨trivial, fun reply => ?_⟩
  cases reply with
  | ok token => exact (r.attempt_quiet token).andFinally_brackets r.review token
  | error e => exact Phase.isOut_before

end Run

namespace Handler

theorem cancelRuns_quiet (reviews : List Int) : (cancelRuns reviews).Asks Request.IsQuiet := by
  induction reviews with
  | nil => trivial
  | cons v reviews ih => exact (Program.asks_request trivial).bind fun _ => ih

theorem orReport_quiet {action : String} {call : StoreCall} {next : call.Reply → Program Outcome}
    (h : ∀ reply, (next reply).Asks Request.IsQuiet) : (orReport action call next).Asks Request.IsQuiet := by
  refine ⟨trivial, fun reply => ?_⟩
  cases reply with
  | ok reply => exact h reply
  | error e => exact Program.asks_told _ e

theorem close_quiet (pullRequest : Event.PullRequest) (repository : Event.Repository) :
    (close pullRequest repository).Asks Request.IsQuiet :=
  orReport_quiet fun reviews => (cancelRuns_quiet reviews).bind fun _ => trivial

theorem install_quiet (installation : Event.Installation) (repositories : List Event.Repository) :
    (install installation repositories).Asks Request.IsQuiet := by
  unfold install
  split
  · trivial
  · exact orReport_quiet fun _ => trivial

theorem uninstall_quiet (installation : Event.Installation) : (uninstall installation).Asks Request.IsQuiet :=
  orReport_quiet fun removal => (cancelRuns_quiet removal.reviews).bind fun _ => trivial

theorem gainRepositories_quiet (installation : Event.Installation) (repositories : List Event.Repository) :
    (gainRepositories installation repositories).Asks Request.IsQuiet :=
  orReport_quiet fun _ => trivial

theorem loseRepositories_quiet (installation : Event.Installation) (repositories : List Event.Repository) :
    (loseRepositories installation repositories).Asks Request.IsQuiet :=
  orReport_quiet fun _ => trivial

theorem review_brackets (pullRequest : Event.PullRequest) (repository : Event.Repository)
    (installation : Event.Installation) :
    (review pullRequest repository installation).Brackets .before Phase.IsOut := by
  refine ⟨trivial, fun reply => ?_⟩
  cases reply with
  | ok ticket => exact (Run.program_brackets _).rescue (fun _ h => h) fun _ e h => (reportFailure_quiet ..).brackets h
  | error e => exact (Program.asks_told _ e).brackets Phase.isOut_before

end Handler

theorem Event.program_brackets (event : Event) : event.program.Brackets .before Phase.IsOut := by
  cases event with
  | reviewDue action pullRequest repository installation => exact Handler.review_brackets ..
  | pullRequestClosed pullRequest repository installation => exact (Handler.close_quiet ..).brackets Phase.isOut_before
  | installationCreated installation repositories => exact (Handler.install_quiet ..).brackets Phase.isOut_before
  | installationDeleted installation => exact (Handler.uninstall_quiet _).brackets Phase.isOut_before
  | repositoriesAdded installation repositories => exact (Handler.gainRepositories_quiet ..).brackets Phase.isOut_before
  | repositoriesRemoved installation repositories =>
    exact (Handler.loseRepositories_quiet ..).brackets Phase.isOut_before

/-- **Every call gives back the token that it takes**, whatever it is told on the way. -/
theorem LifecycleCall.program_brackets (c : LifecycleCall) : c.program.Brackets .before Phase.IsOut := by
  cases c with
  | handle event => exact event.program_brackets.rescue (fun _ h => h) fun _ _ h => h
  | run r => exact Run.program_brackets r
  | fail review error named => exact (reportFailure_quiet review error named).brackets Phase.isOut_before

/-! ## The registries -/

namespace Pool

variable {p : Pool}

/-- Tasks go on as their phases ask, and every token registered is that of a task inside its run. -/
structure Bracketed (p : Pool) : Prop where
  tasks : ∀ {i : Nat} {task : Task}, p.tasks[i]? = some task → task.left.Brackets (phaseOf p.log i) Phase.IsOut
  entries : ∀ e ∈ p.log, e.task < p.tasks.length
  held : ∀ {w : Nat} {v : Int} {t : Token}, (p.service.cancellations w).token? v = some t →
    ∃ i task, p.tasks[i]? = some task ∧ task.worker = w ∧ phaseOf p.log i = .inside v t

/-- A task that has just come in has not begun a run. -/
theorem Bracketed.phaseOf_new (h : p.Bracketed) : phaseOf p.log p.tasks.length = .before := by
  have hlog : p.log.filter (·.task == p.tasks.length) = [] := by
    refine List.filter_eq_nil_iff.2 fun e he => ?_
    have hlt := h.entries e he
    simp only [beq_iff_eq]
    omega
  rw [phaseOf, hlog, List.foldl_nil]

theorem Bracketed.called (h : p.Bracketed) (worker : Nat) (c : LifecycleCall) :
    Bracketed { p with tasks := p.tasks ++ [⟨worker, c.program⟩] } := by
  constructor
  case tasks =>
    intro i task hi
    obtain hi | ⟨rfl, rfl⟩ := arrived_cases hi
    · exact h.tasks hi
    · rw [h.phaseOf_new]
      exact c.program_brackets
  case entries =>
    intro e he
    rw [List.length_append, List.length_singleton]
    exact Nat.lt_succ_of_lt (h.entries e he)
  case held =>
    intro w v t ht
    obtain ⟨i, task, hi, hworker, hphase⟩ := h.held ht
    exact ⟨i, task, by rw [List.getElem?_append_left (List.getElem?_eq_some_iff.1 hi).1, hi], hworker, hphase⟩

/-- The step of a reply: a token that the entry registers is that of its task, and one that it gives back is
registered no more. -/
theorem Bracketed.answered (h : p.Bracketed) {i worker : Nat} {r : Request}
    {next : Except Failure r.Reply → Program Outcome} (hi : p.tasks[i]? = some ⟨worker, .ask r next⟩)
    (outcome : Except Failure r.Reply × Service)
    (hmarks : Entry.Marks ⟨i, worker, r, outcome.1⟩ p.service.cancellations outcome.2.cancellations)
    (hreleased : ∀ v t, r = .finishRun v t → (outcome.2.cancellations worker).token? v ≠ some t) :
    (p.answered i worker r next outcome).Bracketed := by
  have hlt : i < p.tasks.length := (List.getElem?_eq_some_iff.1 hi).1
  obtain ⟨hallows, hnext⟩ := h.tasks hi
  constructor
  case tasks =>
    intro j task hj
    simp only [Pool.answered, phaseOf_concat]
    obtain ⟨rfl, rfl⟩ | ⟨hij, hj⟩ := answered_cases hj
    · rw [if_pos rfl]
      exact hnext outcome.1
    · rw [if_neg hij]
      exact h.tasks hj
  case entries =>
    intro e he
    simp only [Pool.answered, List.length_set]
    rcases List.mem_append.1 he with he | he
    · exact h.entries e he
    · rw [List.mem_singleton.1 he]
      exact hlt
  case held =>
    intro w v t ht
    have hself : (p.tasks.set i ⟨worker, next outcome.1⟩)[i]? = some ⟨worker, next outcome.1⟩ :=
      List.getElem?_set_self hlt
    simp only [Pool.answered, phaseOf_concat]
    rcases hmarks.token ht with hold | ⟨rfl, hregistered⟩
    · obtain ⟨j, task, hj, hworker, hphase⟩ := h.held hold
      by_cases hij : i = j
      · -- the task is inside its run, so the request is quiet or gives back this very token
        subst hij
        obtain rfl : task = ⟨worker, .ask r next⟩ := Option.some.inj (hj.symm.trans hi)
        rw [hphase] at hallows
        rcases Phase.eq_finishRun_or_isQuiet hallows with rfl | hquiet
        · rw [← hworker] at ht
          exact absurd ht (hreleased v t rfl)
        · refine ⟨i, _, hself, hworker, ?_⟩
          rw [if_pos rfl, hphase, Phase.after_of_isQuiet hquiet]
      · refine ⟨j, task, ?_, hworker, ?_⟩
        · rw [List.getElem?_set_ne hij, hj]
        · rw [if_neg hij, hphase]
    · refine ⟨i, _, hself, rfl, ?_⟩
      rw [if_pos rfl]
      exact Phase.after_of_registered hregistered _

theorem Overlaps.bracketed (h : p.Overlaps) : p.Bracketed := by
  induction h with
  | start now =>
    constructor
    case tasks => intro i task hi; simp at hi
    case entries => intro e he; cases he
    case held => intro w v t ht; simp [Cancellations.token?] at ht
  | call _ worker c ih => exact ih.called worker c
  | @perform p _ i worker r next hi fetch ih =>
    refine ih.answered hi _ (Entry.Happens.marks (.inl ⟨fetch, rfl⟩)) ?_
    rintro v t rfl hkept
    simp only [Request.perform, Service.withCancellations, if_pos] at hkept
    rw [Cancellations.token?_release] at hkept
    split at hkept
    · cases hkept
    · rename_i hother
      exact hother ⟨rfl, hkept⟩
  | @refuse p _ i worker r next hi failure hr ih =>
    refine ih.answered hi _ (Entry.Happens.marks (.inr ⟨⟨failure, rfl⟩, rfl⟩)) ?_
    rintro v t rfl
    cases hr
  | change _ s hs ih =>
    refine ⟨ih.tasks, ih.entries, fun ht => ih.held ?_⟩
    exact hs ▸ ht

/-- A token that is registered is that of a task inside its run. -/
theorem Overlaps.inRun_of_token? (h : p.Overlaps) {worker : Nat} {v : Int} {t : Token}
    (ht : (p.service.cancellations worker).token? v = some t) : ∃ i, p.InRun i worker v t := by
  obtain ⟨i, task, hi, hworker, hphase⟩ := h.bracketed.held ht
  have hleft := h.bracketed.tasks hi
  rw [hphase] at hleft
  refine ⟨i, hphase, task, hi, hworker, ?_⟩
  -- inside its run it cannot be over, for a program ends outside
  cases hprogram : task.left with
  | done a =>
    rw [hprogram] at hleft
    exact absurd rfl (hleft v t)
  | failed e =>
    rw [hprogram] at hleft
    exact absurd rfl (hleft v t)
  | ask r next => rfl

end Pool

theorem Cancellations.registered_eq_nil {c : Cancellations} (h : ∀ v, c.token? v = none) : c.registered = [] := by
  obtain ⟨flags, registered⟩ := c
  cases registered with
  | nil => rfl
  | cons e es => simpa [token?, List.lookup_cons] using h e.1

/-- **No token outlives its run.** However calls on the lifecycle overlap, whatever they are about and whichever of
their requests fail: a token that is registered for a review belongs to a run of it that has not returned. So
where no run is under way nothing is registered, and where none of a review is, cancelling it finds no token. -/
theorem no_token_outlives_its_run {p : Pool} (h : p.Overlaps) (worker : Nat) :
    (∀ v t, (p.service.cancellations worker).token? v = some t → ∃ i, p.InRun i worker v t) ∧
    ((∀ i v t, ¬ p.InRun i worker v t) → (p.service.cancellations worker).registered = []) ∧
    ∀ v, (∀ i t, ¬ p.InRun i worker v t) → ((p.service.cancellations worker).cancel v).1 = false := by
  have hnone : ∀ v, (∀ i t, ¬ p.InRun i worker v t) → (p.service.cancellations worker).token? v = none := by
    intro v hno
    refine Option.eq_none_iff_forall_ne_some.2 fun t ht => ?_
    obtain ⟨i, hi⟩ := h.inRun_of_token? ht
    exact hno i t hi
  refine ⟨fun v t ht => h.inRun_of_token? ht, fun hno => ?_, fun v hno => ?_⟩
  · exact Cancellations.registered_eq_nil fun v => hnone v fun i t => hno i v t
  · rw [Cancellations.cancel, hnone v hno, Option.isSome_none]

/-- The second run of a review holds its token while it is under way. Once both have returned, none is registered. -/
theorem no_token_outlives_its_run_overlapping :
    (overlapping 8).Overlaps ∧ ((overlapping 8).service.cancellations 0).token? 1 = some 1 ∧
    (∃ i, (overlapping 8).InRun i 0 1 1) ∧
    (overlapping 20).Overlaps ∧ (∀ i v t, ¬ (overlapping 20).InRun i 0 v t) ∧
    ((overlapping 20).service.cancellations 0).registered = [] ∧
    (((overlapping 20).service.cancellations 0).cancel 1).1 = false := by
  have hunderway : (overlapping 8).Overlaps := (Pool.reachable_play ..).overlaps
  have hover : (overlapping 20).Overlaps := (Pool.reachable_play ..).overlaps
  have htoken : ((overlapping 8).service.cancellations 0).token? 1 = some 1 := by decide +kernel
  have hdone : ((overlapping 20).tasks.all fun task => task.left.isOver) = true := by decide +kernel
  have hnone : ∀ i v t, ¬ (overlapping 20).InRun i 0 v t := by
    rintro i v t ⟨-, task, hi, -, hunfinished⟩
    rw [List.all_eq_true.1 hdone task (List.mem_of_getElem? hi)] at hunfinished
    cases hunfinished
  obtain ⟨hheld, -, -⟩ := no_token_outlives_its_run hunderway 0
  obtain ⟨-, hempty, hcancel⟩ := no_token_outlives_its_run hover 0
  exact ⟨hunderway, htoken, hheld 1 1 htoken, hover, hnone, hempty hnone, hcancel 1 fun i => hnone i 1⟩

end PullReview
