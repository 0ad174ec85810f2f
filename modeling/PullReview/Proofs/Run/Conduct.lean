import PullReview.Run.Handler
import PullReview.Run.Service

/-!
# The conduct of handlers

What a handler may ask depends only on what it has been told so far. `Memory` sums up its requests and
their replies, `Memory.Allows` says which request it may ask next, and `Event.process_keeps` says that
the handler of every event keeps to that, whatever it is told. A handler that keeps to it writes only
on behalf of the run it was given, records the files it fetched one by one and in order, completes a
review only after the last of them, and does not end a run before it has a reason to.
-/

namespace PullReview

/-- What is recorded for one file. -/
structure Record where
  status : Text
  analysis : Analysis
  complexity : Int

/-- The record of a file with its analysis. A file out of scope has no complexity. -/
def ChangedFile.recordOf (f : ChangedFile) (analysis : Analysis) : Record :=
  ⟨Named.name f.status, analysis, if analysis.inScope then f.complexity else 0⟩

/-- The record of a file, unless it cannot be analysed. -/
def ChangedFile.record (f : ChangedFile) : Except Text.LongNumeral Record := f.analyze.map f.recordOf

/-! ## Memory -/

/-- What a handler has been told. -/
structure Memory where
  /-- The review and the run it has queued. -/
  ticket : Option Ticket := none
  /-- The token under which the run is registered. -/
  token : Option Token := none
  /-- Whether the review has gone to `in_progress` for the run. -/
  begun : Bool := false
  /-- The files fetched. -/
  files : Option (List ChangedFile) := none
  /-- The files not recorded yet. -/
  left : List ChangedFile := []
  /-- What has been recorded, in order. -/
  records : List Record := []
  /-- The reviews it has cancelled. -/
  cancelled : List Int := []
  /-- Whether a write was refused. -/
  refused : Bool := false
  /-- Whether it has completed or failed its review. -/
  ended : Bool := false
  /-- Whether it has found its token set. -/
  stopped : Bool := false
  /-- Whether a store call has failed. -/
  failed : Bool := false

/-- Whether a reply can come: files are analysed as they are, and the registry does not fail. -/
def Request.CanReply : (r : Request) → Except Failure r.Reply → Prop
  | analyze file, .ok analysis => file.analyze = .ok analysis
  | startRun _, .error _ | isCancelled _, .error _ | cancelRun _, .error _ | finishRun .., .error _ => False
  | _, _ => True

namespace Memory

/-- The memory after one more request and its reply. -/
def after (m : Memory) : (r : Request) → Except Failure r.Reply → Memory
  | .store (.queue ..), .ok ticket => { m with ticket := some ticket }
  | .store (.move _ target _ _), .ok true =>
    if target = Named.name ReviewStatus.inProgress then { m with begun := true } else { m with ended := true }
  | .store (.move ..), .ok false => { m with refused := true }
  | .store (.addAnalysis _ _ status analysis complexity), .ok true =>
    { m with records := m.records ++ [⟨status, analysis, complexity⟩], left := m.left.tail }
  | .store (.addAnalysis ..), .ok false => { m with refused := true }
  | .store (.cancel ..), .ok reviews => { m with cancelled := reviews }
  | .store (.dropInstallation _), .ok removal => { m with cancelled := removal.reviews }
  | .store _, .ok _ => m
  | .store _, .error _ => { m with failed := true }
  | .fetchFiles .., .ok files => { m with files := some files, left := files }
  | .startRun _, .ok token => { m with token := some token }
  | .isCancelled _, .ok true => { m with stopped := true }
  | _, _ => m

/-- What the records add up to. -/
def tally (m : Memory) : Tally where
  analyzed := m.records.length
  issues := (m.records.flatMap (·.analysis.issues)).length
  toReview := m.records.countP (·.analysis.inScope)

/-- All files have been fetched and recorded. -/
def AllRecorded (m : Memory) : Prop := m.files.isSome = true ∧ m.left = []

/-- What a run may write about its review, and to which status it moves it. -/
inductive Writes (m : Memory) : ReviewStatus → Progress → Prop
  | fetching (h : m.begun = false) : Writes m .inProgress (.fetching Progress.fetchingStart)
  | found (files : List ChangedFile) (h : m.files = some files) (hr : m.records = []) :
    Writes m .inProgress (.analyzing Progress.analyzingStart (some files.length) none)
  | analyzed (files : List ChangedFile) (h : m.files = some files) (hr : m.records ≠ []) :
    Writes m .inProgress
      (.analyzing (Run.percentage m.tally.analyzed files.length) none (some m.tally.analyzed))
  | ready (h : m.AllRecorded) :
    Writes m .inProgress (.ready Progress.readyStart m.tally.analyzed m.tally.toReview)
  | completed (hb : m.begun = true) (h : m.AllRecorded) :
    Writes m .completed (.completed Progress.allDone m.tally.analyzed m.tally.issues)
  | failed (error : String) : Writes m .failed (.failed error)

/-- A run has a reason to end. -/
def Settled (m : Memory) : Prop := m.refused = true ∨ m.ended = true ∨ m.stopped = true ∨ m.failed = true

/-- What a handler may ask. -/
def Allows (m : Memory) : Request → Prop
  | .store (.queue ..) => m = {}
  | .store (.move review target progress run) =>
    ∃ ticket status, m.ticket = some ticket ∧ review = ticket.review ∧ run = some ticket.run ∧
      m.stopped = false ∧ m.ended = false ∧ target = Named.name status ∧ m.Writes status progress
  | .store (.addAnalysis review run status analysis complexity) =>
    (∃ ticket, m.ticket = some ticket ∧ review = ticket.review ∧ run = ticket.run) ∧ m.begun = true ∧
      m.ended = false ∧
      ∃ file rest, m.left = file :: rest ∧ file.analyze = .ok analysis ∧
        ⟨status, analysis, complexity⟩ = file.recordOf analysis
  | .store _ => m = {}
  | .fetchFiles .. => m.begun = true ∧ m.files = none
  | .analyze _ => True
  | .startRun review => m.token = none ∧ ∃ ticket, m.ticket = some ticket ∧ ticket.review = review
  | .isCancelled token => m.token = some token ∧ m.ended = false
  | .cancelRun review => review ∈ m.cancelled
  | .finishRun review token =>
    m.token = some token ∧ (∃ ticket, m.ticket = some ticket ∧ ticket.review = review) ∧ m.Settled

end Memory

/-! ## Programs that keep to it -/

namespace Program

variable {α β : Type}

/-- From a memory, a program asks only what is allowed, whatever it is told, and it ends as `post` says. -/
def Keeps : Program α → Memory → (Except Failure α → Memory → Prop) → Prop
  | done a, m, post => post (.ok a) m
  | failed e, m, post => post (.error e) m
  | ask r next, m, post => m.Allows r ∧ ∀ reply, r.CanReply reply → (next reply).Keeps (m.after r reply) post

theorem Keeps.mono {p : Program α} {m : Memory} {post post' : Except Failure α → Memory → Prop}
    (h : p.Keeps m post) (hp : ∀ result m, post result m → post' result m) : p.Keeps m post' := by
  induction p generalizing m with
  | done a => exact hp _ _ h
  | failed e => exact hp _ _ h
  | ask r next ih => exact ⟨h.1, fun reply hr => ih reply (h.2 reply hr)⟩

theorem Keeps.bind {p : Program α} {f : α → Program β} {m : Memory} {mid : Except Failure α → Memory → Prop}
    {post : Except Failure β → Memory → Prop} (h : p.Keeps m mid) (hf : ∀ a m, mid (.ok a) m → (f a).Keeps m post)
    (he : ∀ e m, mid (.error e) m → post (.error e) m) : (p.bind f).Keeps m post := by
  induction p generalizing m with
  | done a => exact hf _ _ h
  | failed e => exact he _ _ h
  | ask r next ih => exact ⟨h.1, fun reply hr => ih reply (h.2 reply hr)⟩

theorem Keeps.rescue {p : Program α} {handle : Failure → Program α} {m : Memory}
    {mid post : Except Failure α → Memory → Prop} (h : p.Keeps m mid)
    (ha : ∀ a m, mid (.ok a) m → post (.ok a) m)
    (hh : ∀ e m, mid (.error e) m → (handle e).Keeps m post) : (p.rescue handle).Keeps m post := by
  induction p generalizing m with
  | done a => exact ha _ _ h
  | failed e => exact hh _ _ h
  | ask r next ih => exact ⟨h.1, fun reply hr => ih reply (h.2 reply hr)⟩

theorem Keeps.andFinally {p : Program α} {last : Program Unit} {m : Memory}
    {mid post : Except Failure α → Memory → Prop} (h : p.Keeps m mid)
    (hl : ∀ result m, mid result m → last.Keeps m fun ended m => ended = .ok () ∧ post result m) :
    (p.andFinally last).Keeps m post := by
  induction p generalizing m with
  | done a =>
    refine (hl _ _ h).bind (fun _ m hm => hm.2) fun e m hm => ?_
    cases hm.1
  | failed e =>
    refine (hl _ _ h).bind (fun _ m hm => hm.2) fun e m hm => ?_
    cases hm.1
  | ask r next ih => exact ⟨h.1, fun reply hr => ih reply (h.2 reply hr)⟩

/-- One request and what follows a reply to it. -/
theorem keeps_request_bind {r : Request} {f : r.Reply → Program α} {m : Memory}
    {post : Except Failure α → Memory → Prop} (hr : m.Allows r)
    (hok : ∀ a, r.CanReply (.ok a) → (f a).Keeps (m.after r (.ok a)) post)
    (he : ∀ e, r.CanReply (.error e) → post (.error e) (m.after r (.error e))) :
    ((request r).bind f).Keeps m post := by
  refine ⟨hr, fun reply hreply => ?_⟩
  cases reply with
  | ok a => exact hok a hreply
  | error e => exact he e hreply

end Program

/-! ## Runs -/

namespace Memory

/-- A run is under way and may write. -/
structure Open (m : Memory) (ticket : Ticket) (token : Token) : Prop where
  ticket : m.ticket = some ticket
  token : m.token = some token
  stopped : m.stopped = false
  ended : m.ended = false

/-- A run has its files and those left to record. -/
structure Working (m : Memory) (ticket : Ticket) (token : Token) (files left : List ChangedFile) : Prop
    extends m.Open ticket token where
  begun : m.begun = true
  files : m.files = some files
  left : m.left = left

/-- A run is about to end. -/
structure Closing (m : Memory) (ticket : Ticket) (token : Token) : Prop where
  ticket : m.ticket = some ticket
  token : m.token = some token
  settled : m.Settled

/-- How a run ends: with an outcome it is about to end, with a failure it may still write. -/
def Leaves (ticket : Ticket) (token : Token) {α : Type} : Except Failure α → Memory → Prop
  | .ok _, m => m.Closing ticket token
  | .error _, m => m.Open ticket token

variable {m : Memory} {ticket : Ticket} {token : Token} {files left : List ChangedFile}

theorem Open.allows_move (h : m.Open ticket token) {status : ReviewStatus} {progress : Progress}
    (hw : m.Writes status progress) :
    m.Allows (.store (.move ticket.review (Named.name status) progress (some ticket.run))) :=
  ⟨ticket, status, h.ticket, rfl, rfl, h.stopped, h.ended, rfl, hw⟩

theorem Working.allRecorded (h : m.Working ticket token files []) : m.AllRecorded := by
  refine ⟨?_, h.left⟩
  rw [h.files]
  rfl

/-- A progress write leaves what a run works with as it is, whatever comes of it. -/
theorem Working.after_note (h : m.Working ticket token files left) (progress : Progress)
    (reply : Except Failure Bool) :
    (m.after (.store (.move ticket.review (Named.name ReviewStatus.inProgress) progress (some ticket.run)))
      reply).Working ticket token files left ∧
    (m.after (.store (.move ticket.review (Named.name ReviewStatus.inProgress) progress (some ticket.run)))
      reply).tally = m.tally := by
  obtain ⟨⟨h₁, h₂, h₃, h₄⟩, h₅, h₆, h₇⟩ := h
  rcases reply with e | (_ | _)
  · exact ⟨⟨⟨h₁, h₂, h₃, h₄⟩, h₅, h₆, h₇⟩, rfl⟩
  · exact ⟨⟨⟨h₁, h₂, h₃, h₄⟩, h₅, h₆, h₇⟩, rfl⟩
  · exact ⟨⟨⟨h₁, h₂, h₃, h₄⟩, rfl, h₆, h₇⟩, rfl⟩

theorem tally_append (m : Memory) (file : ChangedFile) (analysis : Analysis) :
    ({ m with records := m.records ++ [file.recordOf analysis], left := left } : Memory).tally =
      Run.count m.tally analysis := by
  simp only [tally, Run.count, List.length_append, List.length_singleton, List.flatMap_append,
    List.flatMap_singleton, List.countP_append, List.countP_singleton]
  rfl

/-- Recording a file brings a run to the next one. -/
theorem Working.after_addAnalysis {file : ChangedFile} {rest : List ChangedFile}
    (h : m.Working ticket token files (file :: rest)) (analysis : Analysis) :
    (m.after (.store (.addAnalysis ticket.review ticket.run (Named.name file.status) analysis
      (file.recordOf analysis).complexity)) (.ok true)).Working ticket token files rest ∧
    Run.count m.tally analysis = (m.after (.store (.addAnalysis ticket.review ticket.run (Named.name file.status)
      analysis (file.recordOf analysis).complexity)) (.ok true)).tally := by
  obtain ⟨⟨h₁, h₂, h₃, h₄⟩, h₅, h₆, h₇⟩ := h
  refine ⟨⟨⟨h₁, h₂, h₃, h₄⟩, h₅, h₆, ?_⟩, (m.tally_append file analysis).symm⟩
  simp only [after, h₇, List.tail_cons]

end Memory

section Runs

variable {r : Run} {m : Memory} {token : Token} {files left : List ChangedFile}

/-- The ticket of a run. -/
def Run.ticket (r : Run) : Ticket := ⟨r.review, r.run⟩

theorem Run.note_keeps (h : m.Working r.ticket token files left) {progress : Progress}
    (hw : m.Writes .inProgress progress) :
    (r.note progress).Keeps m fun _ m' => m'.Working r.ticket token files left ∧ m'.tally = m.tally := by
  refine ⟨h.allows_move hw, fun reply _ => ?_⟩
  have hafter := h.after_note progress reply
  cases reply with
  | ok moved => exact hafter
  | error e =>
    simp only
    split
    · exact hafter
    · exact hafter

/-- Failing a review on behalf of an open run gives the run a reason to end. -/
theorem reportFailure_keeps (h : m.Open r.ticket token) (error : String) :
    (reportFailure r.review error r.run).Keeps m fun result m' => m'.Closing r.ticket token ∧
      ∀ e, result = .error e → m'.Open r.ticket token := by
  refine ⟨h.allows_move (.failed error), fun reply _ => ?_⟩
  obtain ⟨h₁, h₂, h₃, h₄⟩ := h
  rcases reply with e | (_ | _)
  · have hfailed : ({ m with failed := true } : Memory).Closing r.ticket token :=
      ⟨h₁, h₂, .inr (.inr (.inr rfl))⟩
    simp only
    split
    · exact ⟨hfailed, fun _ he => nomatch he⟩
    · exact ⟨hfailed, fun _ _ => ⟨h₁, h₂, h₃, h₄⟩⟩
  · exact ⟨⟨h₁, h₂, .inl rfl⟩, fun _ he => nomatch he⟩
  · exact ⟨⟨h₁, h₂, .inr (.inl rfl)⟩, fun _ he => nomatch he⟩

/-- The induction over the files: with a tally that agrees with the memory, either all files are
recorded and the tally still agrees, or the run has a reason to end. -/
theorem Run.analyzeFiles_keeps {total : Nat} (ht : total = files.length) :
    ∀ {left : List ChangedFile} {m : Memory}, m.Working r.ticket token files left →
      (r.analyzeFiles token total left m.tally).Keeps m fun result m' =>
        match result with
        | .ok (.ok tally) => m'.Working r.ticket token files [] ∧ m'.tally = tally
        | .ok (.error _) => m'.Closing r.ticket token
        | .error _ => m'.Open r.ticket token
  | [], m, h => ⟨h, rfl⟩
  | file :: rest, m, h => by
    refine Program.keeps_request_bind (r := .isCancelled token) ⟨h.token, h.ended⟩ (fun set _ => ?_) nofun
    split
    · rename_i hset
      subst hset
      exact ⟨h.ticket, h.token, .inr (.inr (.inl rfl))⟩
    rename_i hset
    have hset : set = false := by simpa using hset
    subst hset
    refine Program.keeps_request_bind (r := .analyze file) trivial (fun analysis hanalysis => ?_)
      fun e _ => h.toOpen
    refine Program.keeps_request_bind
      (r := .store (.addAnalysis r.review r.run (Named.name file.status) analysis
        (file.recordOf analysis).complexity))
      ⟨⟨r.ticket, h.ticket, rfl, rfl⟩, h.begun, h.ended, file, rest, h.left, hanalysis, rfl⟩
      (fun recorded _ => ?_) fun e _ => ?_
    · cases recorded with
      | false => exact ⟨h.ticket, h.token, .inl rfl⟩
      | true =>
        obtain ⟨hw, htally⟩ := h.after_addAnalysis analysis
        refine (Run.note_keeps hw ?_).bind (fun _ m' hm => ?_) fun _ m' hm => hm.1.toOpen
        · rw [htally, ht]
          exact .analyzed files hw.files (List.append_ne_nil_of_right_ne_nil _ (List.cons_ne_nil _ _))
        · rw [htally, ← hm.2]
          exact analyzeFiles_keeps ht hm.1
    · exact ⟨h.ticket, h.token, h.stopped, h.ended⟩

theorem Run.complete_keeps (h : m.Working r.ticket token files []) :
    (r.complete m.tally).Keeps m (Memory.Leaves r.ticket token) := by
  refine (Run.note_keeps h (.ready h.allRecorded)).bind (fun _ m' hm => ?_) fun _ m' hm => hm.1.toOpen
  obtain ⟨hw, htally⟩ := hm
  rw [← htally]
  refine Program.keeps_request_bind (hw.allows_move (.completed hw.begun hw.allRecorded)) (fun moved _ => ?_)
    fun e _ => ?_
  · cases moved with
    | false => exact ⟨hw.ticket, hw.token, .inl rfl⟩
    | true => exact ⟨hw.ticket, hw.token, .inr (.inl rfl)⟩
  · exact ⟨hw.ticket, hw.token, hw.stopped, hw.ended⟩

/-- The steps of a run keep to what is allowed, from the moment its token is registered. -/
theorem Run.steps_keeps (h : m.Open r.ticket token) (hb : m.begun = false) (hf : m.files = none)
    (hr : m.records = []) : (r.steps token).Keeps m (Memory.Leaves r.ticket token) := by
  refine Program.keeps_request_bind (h.allows_move (.fetching hb)) (fun moved _ => ?_)
    fun e _ => ⟨h.ticket, h.token, h.stopped, h.ended⟩
  cases moved with
  | false => exact ⟨h.ticket, h.token, .inl rfl⟩
  | true =>
    refine Program.keeps_request_bind (r := .fetchFiles ..) ⟨rfl, hf⟩ (fun files _ => ?_)
      fun e _ => ⟨h.ticket, h.token, h.stopped, h.ended⟩
    have hw : Memory.Working { m with begun := true, files := some files, left := files } r.ticket token files
        files :=
      ⟨⟨h.ticket, h.token, h.stopped, h.ended⟩, rfl, rfl, rfl⟩
    refine (Run.note_keeps hw (.found files rfl hr)).bind (fun _ m₁ h₁ => ?_) fun _ m₁ h₁ => h₁.1.toOpen
    obtain ⟨hw₁, htally⟩ := h₁
    have hzero : m₁.tally = {} := by rw [htally]; simp [Memory.tally, hr]
    rw [← hzero]
    refine (Run.analyzeFiles_keeps rfl hw₁).bind (fun ended m₂ h₂ => ?_) fun _ m₂ h₂ => h₂
    cases ended with
    | error reason => exact h₂
    | ok tally => exact h₂.2 ▸ Run.complete_keeps h₂.1

theorem Run.attempt_keeps (h : m.Open r.ticket token) (hb : m.begun = false) (hf : m.files = none)
    (hr : m.records = []) :
    (r.attempt token).Keeps m fun result m' =>
      m'.Closing r.ticket token ∧ ∀ e, result = .error e → m'.Open r.ticket token :=
  (Run.steps_keeps h hb hf hr).rescue (fun _ _ hm => ⟨hm, nofun⟩) fun e _ hm => reportFailure_keeps hm e.message

/-- A run may only leave a failure open that it could still write. -/
theorem Run.program_keeps (r : Run) :
    r.program.Keeps { ticket := some r.ticket } fun result m' =>
      ∀ e, result = .error e → ∃ token, m'.Open r.ticket token := by
  refine Program.keeps_request_bind (r := .startRun r.review) ⟨rfl, r.ticket, rfl, rfl⟩ (fun token _ => ?_) nofun
  refine (Run.attempt_keeps ⟨rfl, rfl, rfl, rfl⟩ rfl rfl rfl).andFinally fun result m hm => ?_
  obtain ⟨hclosing, herror⟩ := hm
  refine ⟨⟨hclosing.token, ⟨r.ticket, hclosing.ticket, rfl⟩, hclosing.settled⟩, fun reply hreply => ?_⟩
  cases reply with
  | error e => cases hreply
  | ok _ => exact ⟨rfl, fun e he => ⟨token, herror e he⟩⟩

end Runs

/-! ## Handlers -/

section Handlers

variable {m : Memory} {post : Except Failure Outcome → Memory → Prop}

theorem Handler.cancelRuns_keeps {reviews : List Int} (h : ∀ v ∈ reviews, v ∈ m.cancelled) :
    (Handler.cancelRuns reviews).Keeps m fun _ _ => True := by
  induction reviews with
  | nil => trivial
  | cons v reviews ih =>
    refine Program.keeps_request_bind (r := .cancelRun v) (h v (List.mem_cons_self ..)) (fun found _ => ?_) nofun
    exact ih fun u hu => h u (List.mem_cons_of_mem v hu)

theorem Handler.orReport_keeps {action : String} {call : StoreCall} {next : call.Reply → Program Outcome}
    (hcall : Memory.Allows {} (.store call))
    (hnext : ∀ reply, (next reply).Keeps (Memory.after {} (.store call) (.ok reply)) fun _ _ => True) :
    (Handler.orReport action call next).Keeps {} fun _ _ => True := by
  refine ⟨hcall, fun reply _ => ?_⟩
  cases reply with
  | ok reply => exact hnext reply
  | error e =>
    simp only
    split <;> trivial

theorem Handler.review_keeps (pullRequest : Event.PullRequest) (repository : Event.Repository)
    (installation : Event.Installation) :
    (Handler.review pullRequest repository installation).Keeps {} fun _ _ => True := by
  refine ⟨rfl, fun reply _ => ?_⟩
  cases reply with
  | error e =>
    simp only
    split <;> trivial
  | ok ticket =>
    refine (Run.program_keeps _).rescue (fun _ _ _ => trivial) fun e m hm => ?_
    obtain ⟨token, hopen⟩ := hm e rfl
    exact (reportFailure_keeps hopen e.message).mono fun _ _ _ => trivial

end Handlers

/-- **The conduct of handlers.** The handler of every event asks only what its memory allows. -/
theorem Event.process_keeps (e : Event) : e.process.Keeps {} fun _ _ => True := by
  suffices h : e.program.Keeps {} fun _ _ => True from h.rescue (fun _ _ _ => trivial) fun _ _ _ => trivial
  cases e with
  | reviewDue action pullRequest repository installation =>
    exact Handler.review_keeps pullRequest repository installation
  | pullRequestClosed pullRequest repository installation =>
    refine Handler.orReport_keeps rfl fun reviews => ?_
    refine Program.Keeps.bind (Handler.cancelRuns_keeps fun v hv => hv) (fun _ _ _ => ?_) fun _ _ _ => ?_
    · trivial
    · trivial
  | installationCreated installation repositories =>
    simp only [program, Handler.install]
    split
    · trivial
    · exact Handler.orReport_keeps rfl fun _ => trivial
  | installationDeleted installation =>
    refine Handler.orReport_keeps rfl fun removal => ?_
    refine Program.Keeps.bind (Handler.cancelRuns_keeps fun v hv => hv) (fun _ _ _ => ?_) fun _ _ _ => ?_
    · trivial
    · trivial
  | repositoriesAdded installation repositories => exact Handler.orReport_keeps rfl fun _ => trivial
  | repositoriesRemoved installation repositories => exact Handler.orReport_keeps rfl fun _ => trivial

end PullReview
