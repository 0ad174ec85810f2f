import PullReview.Proofs.Run.Isolation
import PullReview.Proofs.Run.Composition

/-!
# Where the data of a review come from

However the handlers of any deliveries interleave and whichever requests fail: the data of a review are
the records merged since the delivery that queued its current run, and nothing older (`data_agrees`). So
they are taken as a record of a step that goes with the review's status, and they describe the pull
request as that delivery did. To speak of it, a pool is told apart by the deliveries that have come in
(`Pool.ReachedBy`); a task queues nothing but what its delivery asks for (`Event.process_asks`).
-/

namespace PullReview

/-! ## What a program asks -/

namespace Program

variable {α β : Type} {allowed : Request → Prop}

/-- Whatever it is told, a program asks only such requests. -/
def Asks (allowed : Request → Prop) : Program α → Prop
  | done _ | failed _ => True
  | ask r next => allowed r ∧ ∀ reply, (next reply).Asks allowed

theorem Asks.bind {p : Program α} {f : α → Program β} (h : p.Asks allowed) (hf : ∀ a, (f a).Asks allowed) :
    (p.bind f).Asks allowed := by
  induction p with
  | done a => exact hf a
  | failed e => trivial
  | ask r next ih => exact ⟨h.1, fun reply => ih reply (h.2 reply)⟩

theorem Asks.rescue {p : Program α} {handle : Failure → Program α} (h : p.Asks allowed)
    (hh : ∀ e, (handle e).Asks allowed) : (p.rescue handle).Asks allowed := by
  induction p with
  | done a => trivial
  | failed e => exact hh e
  | ask r next ih => exact ⟨h.1, fun reply => ih reply (h.2 reply)⟩

theorem Asks.andFinally {p : Program α} {last : Program Unit} (h : p.Asks allowed) (hl : last.Asks allowed) :
    (p.andFinally last).Asks allowed := by
  induction p with
  | done a => exact hl.bind fun _ => trivial
  | failed e => exact hl.bind fun _ => trivial
  | ask r next ih => exact ⟨h.1, fun reply => ih reply (h.2 reply)⟩

end Program

/-- What may be asked on behalf of an event: a review is queued only for a pull request whose review is due,
as the event describes it. -/
def Event.Warrants (event : Event) : Request → Prop
  | .store (.queue number repository installation summary) =>
    ∃ action pullRequest repo inst, event = .reviewDue action pullRequest repo inst ∧
      number = pullRequest.number ∧ repository = repo.fullName ∧ installation = inst.id ∧
      summary = pullRequest.summary
  | _ => True

theorem Program.asks_composes {allowed : Request → Prop} (hrun : ∀ r : Request, r.IsOfRun → allowed r) :
    Program.Composes allowed (Program.Asks allowed) := by
  constructor
  case done => exact fun _ => trivial
  case failed => exact fun _ => trivial
  case ask => exact fun hr hnext => ⟨hr, hnext⟩
  case bind => exact Program.Asks.bind
  case rescue => exact Program.Asks.rescue
  case andFinally => exact Program.Asks.andFinally
  case ofRun => exact fun r hr _ => hrun r hr
  case note =>
    refine fun r progress => ⟨hrun _ trivial, fun reply => ?_⟩
    cases reply with
    | ok moved => trivial
    | error e =>
      simp only
      split <;> trivial

/-- A handler begins with the call of its event; all else that it asks is of the run. -/
theorem Event.process_asks_of {event : Event} {allowed : Request → Prop} (hrun : ∀ r : Request, r.IsOfRun → allowed r)
    (hcall : ∀ call ∈ event.firstCall?, allowed (.store call)) : event.process.Asks allowed :=
  Event.process_of (Program.asks_composes hrun) hcall

/-- The handler of an event queues nothing but what the event asks for. -/
theorem Event.process_asks (event : Event) : event.process.Asks event.Warrants := by
  apply Event.process_asks_of
  case hrun =>
    intro r hr
    cases r with
    | store call =>
      cases call with
      | queue number repository installation summary => cases hr
      | _ => trivial
    | _ => trivial
  case hcall =>
    intro call hcall
    cases event with
    | reviewDue action pullRequest repository installation =>
      cases hcall
      exact ⟨action, pullRequest, repository, installation, rfl, rfl, rfl, rfl, rfl⟩
    | installationCreated installation repositories =>
      obtain ⟨account, -, rfl⟩ := Option.map_eq_some_iff.1 hcall
      trivial
    | _ =>
      cases hcall
      trivial

/-! ## Pools and their deliveries -/

/-- The delivery that comes in with a move. -/
def Turn.event? : Turn → Option Event
  | .arrive _ event => some event
  | .perform _ => none

namespace Pool

/-- The pools that can come about when these deliveries come in, in this order. The `i`th is handled by task
`i`. -/
inductive ReachedBy (drifts : Service → Service → Prop) : List Event → Pool → Prop
  | start (now : Moment) : ReachedBy drifts [] { service := { now } }
  | arrive {events : List Event} {p : Pool} (h : ReachedBy drifts events p) (worker : Nat) (event : Event) :
    ReachedBy drifts (events ++ [event]) { p with tasks := p.tasks ++ [⟨worker, event.process⟩] }
  | step {events : List Event} {p q : Pool} (h : ReachedBy drifts events p) (hq : p.Step drifts q)
    (hlength : q.tasks.length = p.tasks.length) : ReachedBy drifts events q

variable {drifts : Service → Service → Prop} {events : List Event} {p q : Pool}

theorem ReachedBy.reachable (h : p.ReachedBy drifts events) : p.Reachable drifts := by
  induction h with
  | start now => exact .start now
  | arrive _ worker event ih => exact ih.step (.arrive worker event)
  | step _ hq _ ih => exact ih.step hq

theorem length_answered (p : Pool) (i worker : Nat) (r : Request) (next : Except Failure r.Reply → Program Outcome)
    (outcome : Except Failure r.Reply × Service) :
    (p.answered i worker r next outcome).tasks.length = p.tasks.length := List.length_set

/-- Every pool has been reached by some deliveries. -/
theorem reachable_iff : p.Reachable drifts ↔ ∃ events, p.ReachedBy drifts events := by
  constructor
  · intro h
    induction h with
    | start now => exact ⟨[], .start now⟩
    | step _ hq ih =>
      obtain ⟨events, h⟩ := ih
      cases hq with
      | arrive worker event => exact ⟨_, h.arrive worker event⟩
      | perform hi fetch => exact ⟨events, h.step (.perform hi fetch) (length_answered ..)⟩
      | refuse hi failure hr => exact ⟨events, h.step (.refuse hi failure hr) (length_answered ..)⟩
      | drift s hs => exact ⟨events, h.step (.drift s hs) rfl⟩
  · rintro ⟨events, h⟩
    exact h.reachable

/-- A played pool has been reached by the deliveries among its moves. -/
theorem reachedBy_play (drifts : Service → Service → Prop) (fetch : Fetcher) (turns : List Turn) :
    (play fetch turns).ReachedBy drifts (turns.filterMap Turn.event?) := by
  induction turns using List.reverseRecOn with
  | nil => exact .start 0
  | append_singleton turns t ih =>
    rw [play, List.foldl_append, List.filterMap_append]
    cases t with
    | arrive worker event => exact ih.arrive worker event
    | perform i =>
      simp only [List.foldl_cons, List.foldl_nil, turn, List.filterMap_cons, List.filterMap_nil, Turn.event?,
        List.append_nil]
      split
      · rename_i h
        exact ih.step (.perform h fetch) (length_answered ..)
      · exact ih

theorem ReachedBy.length_tasks (h : p.ReachedBy drifts events) : p.tasks.length = events.length := by
  induction h with
  | start now => rfl
  | arrive _ worker event ih => simp [ih]
  | step _ _ hlength ih => rw [hlength, ih]

section Allowed

variable {allowed : Event → Request → Prop}

/-- What tasks have left to ask, given what the handlers of their deliveries ask. -/
theorem ReachedBy.left_asks (hasks : ∀ event : Event, event.process.Asks (allowed event))
    (h : p.ReachedBy drifts events) {i : Nat} {t : Task} (hi : p.tasks[i]? = some t) :
    ∃ event, events[i]? = some event ∧ t.left.Asks (allowed event) := by
  induction h generalizing i t with
  | start now => simp at hi
  | @arrive events p h worker event ih =>
    obtain hi | ⟨rfl, rfl⟩ := arrived_cases hi
    · obtain ⟨f, hf, hleft⟩ := ih hi
      exact ⟨f, by rw [List.getElem?_append_left (List.getElem?_eq_some_iff.1 hf).1, hf], hleft⟩
    · exact ⟨event, by rw [h.length_tasks, List.getElem?_concat_length], hasks event⟩
  | @step events p q h hq hlength ih =>
    have hanswered : ∀ {j worker : Nat} {r : Request} {next : Except Failure r.Reply → Program Outcome}
        (outcome : Except Failure r.Reply × Service), p.tasks[j]? = some ⟨worker, .ask r next⟩ →
        (p.answered j worker r next outcome).tasks[i]? = some t →
        ∃ event, events[i]? = some event ∧ t.left.Asks (allowed event) := by
      intro j worker r next outcome hj hi
      obtain ⟨rfl, rfl⟩ | ⟨-, hi⟩ := answered_cases hi
      · obtain ⟨event, hevent, -, hnext⟩ := ih hj
        exact ⟨event, hevent, hnext outcome.1⟩
      · exact ih hi
    cases hq with
    | arrive worker event => simp at hlength
    | perform hj fetch => exact hanswered _ hj hi
    | refuse hj failure hr => exact hanswered _ hj hi
    | drift s hs => exact ih hi

/-- What has been asked is on behalf of the delivery of its task. -/
theorem ReachedBy.asked (hasks : ∀ event : Event, event.process.Asks (allowed event)) (h : p.ReachedBy drifts events) :
    ∀ e ∈ p.log, ∃ event, events[e.task]? = some event ∧ allowed event e.request := by
  induction h with
  | start now => exact fun e he => by cases he
  | arrive _ worker event ih =>
    intro e he
    obtain ⟨f, hf, hr⟩ := ih e he
    exact ⟨f, by rw [List.getElem?_append_left (List.getElem?_eq_some_iff.1 hf).1, hf], hr⟩
  | @step events p q h hq hlength ih =>
    have hanswered : ∀ {j worker : Nat} {r : Request} {next : Except Failure r.Reply → Program Outcome}
        (outcome : Except Failure r.Reply × Service), p.tasks[j]? = some ⟨worker, .ask r next⟩ →
        ∀ e ∈ (p.answered j worker r next outcome).log,
          ∃ event, events[e.task]? = some event ∧ allowed event e.request := by
      intro j worker r next outcome hj e he
      rcases List.mem_append.1 he with he | he
      · exact ih e he
      · obtain ⟨event, hevent, hr, -⟩ := h.left_asks hasks hj
        rw [List.mem_singleton.1 he]
        exact ⟨event, hevent, hr⟩
    cases hq with
    | arrive worker event => simp at hlength
    | perform hj fetch => exact hanswered _ hj
    | refuse hj failure hr => exact hanswered _ hj
    | drift s hs => exact ih

end Allowed

/-- What is asked, and what is left to be asked, is on behalf of the delivery that a task handles. -/
structure Serves (events : List Event) (p : Pool) : Prop where
  length : p.tasks.length = events.length
  left : ∀ {i : Nat} {t : Task}, p.tasks[i]? = some t →
    ∃ event, events[i]? = some event ∧ t.left.Asks event.Warrants
  asked : ∀ e ∈ p.log, ∃ event, events[e.task]? = some event ∧ event.Warrants e.request

theorem ReachedBy.serves (h : p.ReachedBy drifts events) : p.Serves events :=
  ⟨h.length_tasks, h.left_asks Event.process_asks, h.asked Event.process_asks⟩

end Pool

/-! ## Reviews since they were queued -/

/-- The steps that go with a status. -/
def ReviewStatus.steps : ReviewStatus → List ProgressStep
  | pending => [.queued]
  | inProgress => [.fetching, .analyzing, .ready]
  | completed => [.completed]
  | failed => [.failed]
  | cancelled => [.cancelled]

/-- What was recorded for a review that was queued with a summary, and then by the entries since. -/
def recordsSince (v : Int) (summary : PullRequestSummary) (later : List Entry) : List Progress :=
  .queued summary :: later.filterMap (·.progress? v)

/-- A review goes back to an entry of the log, at which task `i` queued it with a summary for the run it has.
None of the entries since has queued it again, and only the task and cancellations have recorded anything
for it. Its data are all that was recorded, and the last of that goes with its status. -/
structure Review.Since (r : Review) (log : List Entry) (i : Nat) (summary : PullRequestSummary)
    (later : List Entry) : Prop where
  queueing : ∃ before worker, log = before ++ ⟨i, worker,
    .store (.queue r.number r.repository r.installation summary), .ok ⟨r.id, r.run⟩⟩ :: later
  latest : ∀ e ∈ later, ∀ ticket, e.ticket? = some ticket → ticket.review ≠ r.id
  recorders : ∀ e ∈ later, ∀ p, e.progress? r.id = some p → (e.task = i ∨ r.id ∈ e.cancelled) ∧ p.step ≠ .queued
  data : r.data = Progress.merged (recordsSince r.id summary later)
  last : ∃ earlier p, recordsSince r.id summary later = earlier ++ [p] ∧ p.step ∈ r.status.steps

namespace Review.Since

variable {r : Review} {log later : List Entry} {i : Nat} {summary : PullRequestSummary} {e : Entry}

/-- A review that has just been queued. -/
theorem queued {ticket : Ticket} {now : Moment} {number : Int} {repository : Text} {installation : Int}
    (ht : e.ticket? = some ticket) (hq : e.request = .store (.queue number repository installation summary)) :
    (Dossier.queued ticket now number repository installation summary).review.Since (log ++ [e]) e.task summary
      [] := by
  obtain ⟨i, worker, _, _, _, _, rfl⟩ := Entry.exists_of_ticket ht
  cases hq
  exact ⟨⟨log, worker, rfl⟩, List.forall_mem_nil _, List.forall_mem_nil _, rfl,
    ⟨[], .queued summary, rfl, List.mem_singleton_self _⟩⟩

/-- The task that queued a review remembers its run. -/
theorem ticket (h : r.Since log i summary later) (ho : Orderly log) :
    (memoryOf log i).ticket = some ⟨r.id, r.run⟩ := by
  obtain ⟨before, worker, hlog⟩ := h.queueing
  have hmem : ⟨i, worker, .store (.queue r.number r.repository r.installation summary), .ok ⟨r.id, r.run⟩⟩ ∈ log :=
    hlog ▸ List.mem_append_right _ List.mem_cons_self
  exact takes_ticket.of_mem ho hmem rfl

/-- The data of a review are taken as a record of a step that goes with its status. -/
theorem ofJson (h : r.Since log i summary later) :
    ∃ progress, Progress.ofJson (.obj r.data) = .ok progress ∧ progress.step ∈ r.status.steps := by
  obtain ⟨earlier, p, hrecords, hp⟩ := h.last
  obtain ⟨q, hq, hstep⟩ := Progress.ofJson_merged earlier p
  exact ⟨q, by rw [h.data, hrecords, hq], hstep ▸ hp⟩

end Review.Since

theorem Entry.ticket?_of_cancelled {e : Entry} {v : Int} (h : v ∈ e.cancelled) : e.ticket? = none := by
  cases ht : e.ticket? with
  | none => rfl
  | some ticket =>
    rw [cancelled_of_ticket ht] at h
    cases h

/-- The members that describe a pull request, as a delivery tells of it. -/
def Event.PullRequest.metadata (p : Event.PullRequest) : Members :=
  [("pr_title", .str p.title), ("pr_author", .str p.author), ("pr_url", .str p.url), ("head_sha", .str p.head.sha),
    ("base_sha", .str p.base.sha), ("changed_files", .int p.changedFiles), ("additions", .int p.additions),
    ("deletions", .int p.deletions)]

end PullReview
