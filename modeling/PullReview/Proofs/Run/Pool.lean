import PullReview.Proofs.Run.Log

/-!
# Handlers side by side

A pool holds a service and the tasks that handle the deliveries come in so far. Its steps take the
tasks forward one request at a time, in any order: a request is performed, or it is refused with a
failure and does nothing. Between them the surroundings may change (`Service.Drifts`). The log of a
pool keeps every request with its reply.

What happens to the service is told by the log alone: `Pool.Reachable.history` forgets the tasks and
keeps that every entry of the log was allowed to its task by what the task had been told before.
-/

namespace PullReview

/-! ## Pools -/

/-- A handler under way, on behalf of a worker. -/
structure Task where
  worker : Nat
  left : Program Outcome

structure Pool where
  service : Service
  tasks : List Task := []
  log : List Entry := []

/-- What may change by itself: the clock, whether the database answers, and the registries, but not
what the tables hold nor which runs are drawn. -/
def Service.Drifts (s s' : Service) : Prop :=
  s'.database.tables = s.database.tables ∧ s'.database.runs = s.database.runs

/-- The same, with the registries left to the handlers. -/
def Service.DriftsQuietly (s s' : Service) : Prop := s.Drifts s' ∧ s'.cancellations = s.cancellations

namespace Pool

def tables (p : Pool) : Tables := p.service.database.tables

/-- The task has queued a review and drawn a run for it. -/
def Runs (p : Pool) (i : Nat) (ticket : Ticket) : Prop := ∃ e ∈ p.log, e.task = i ∧ e.ticket? = some ticket

/-- The files that the task has fetched. -/
def fetched? (p : Pool) (i : Nat) : Option (List ChangedFile) :=
  (p.log.filter (·.task == i)).findSome? Entry.listing?

/-- The pool after a reply to the request of a task. -/
def answered (p : Pool) (i worker : Nat) (r : Request) (next : Except Failure r.Reply → Program Outcome)
    (outcome : Except Failure r.Reply × Service) : Pool where
  service := outcome.2
  tasks := p.tasks.set i ⟨worker, next outcome.1⟩
  log := p.log ++ [⟨i, worker, r, outcome.1⟩]

/-- One step of a pool. -/
inductive Step (drifts : Service → Service → Prop) (p : Pool) : Pool → Prop
  | arrive (worker : Nat) (event : Event) :
    Step drifts p { p with tasks := p.tasks ++ [⟨worker, event.process⟩] }
  | perform {i worker : Nat} {r : Request} {next : Except Failure r.Reply → Program Outcome}
    (h : p.tasks[i]? = some ⟨worker, .ask r next⟩) (fetch : Fetcher) :
    Step drifts p (p.answered i worker r next (r.perform fetch worker p.service))
  | refuse {i worker : Nat} {r : Request} {next : Except Failure r.Reply → Program Outcome}
    (h : p.tasks[i]? = some ⟨worker, .ask r next⟩) (failure : Failure) (hr : r.CanReply (.error failure)) :
    Step drifts p (p.answered i worker r next (.error failure, p.service))
  | drift (s : Service) (h : drifts p.service s) : Step drifts p { p with service := s }

/-- The pools that can come about, from an empty database. -/
inductive Reachable (drifts : Service → Service → Prop) : Pool → Prop
  | start (now : Moment) : Reachable drifts { service := { now } }
  | step {p q : Pool} (h : Reachable drifts p) (hq : p.Step drifts q) : Reachable drifts q

end Pool

/-! ## Played pools -/

/-- A move in a pool: a delivery comes in, or a task is taken one request further. -/
inductive Turn where
  | arrive (worker : Nat) (event : Event)
  | perform (task : Nat)

namespace Pool

/-- The pool after a move. -/
def turn (fetch : Fetcher) (p : Pool) : Turn → Pool
  | .arrive worker event => { p with tasks := p.tasks ++ [⟨worker, event.process⟩] }
  | .perform i =>
    match p.tasks[i]? with
    | some ⟨worker, .ask r next⟩ => p.answered i worker r next (r.perform fetch worker p.service)
    | _ => p

/-- The pool after some moves, with all listings given beforehand. -/
def play (fetch : Fetcher) (turns : List Turn) : Pool := turns.foldl (turn fetch) { service := { now := 0 } }

theorem reachable_play (drifts : Service → Service → Prop) (fetch : Fetcher) (turns : List Turn) :
    (play fetch turns).Reachable drifts := by
  induction turns using List.reverseRecOn with
  | nil => exact .start 0
  | append_singleton turns t ih =>
    rw [play, List.foldl_append]
    cases t with
    | arrive worker event => exact ih.step (.arrive worker event)
    | perform i =>
      simp only [List.foldl_cons, List.foldl_nil, turn]
      split
      · rename_i h
        exact ih.step (.perform h fetch)
      · exact ih

end Pool

/-! ## Histories -/

/-- An entry happens to a service: its request is performed or refused. -/
def Entry.Happens (e : Entry) (s s' : Service) : Prop :=
  (∃ fetch, e.request.perform fetch e.worker s = (e.reply, s')) ∨ ((∃ failure, e.reply = .error failure) ∧ s' = s)

/-- What has happened to a service, entry by entry. -/
inductive History (drifts : Service → Service → Prop) : Service → List Entry → Prop
  | start (now : Moment) : History drifts { now } []
  | entry {s s' : Service} {log : List Entry} {e : Entry} (h : History drifts s log) (he : e.Follows log)
    (hw : ∀ f ∈ log, f.task = e.task → f.worker = e.worker) (hs : e.Happens s s') :
    History drifts s' (log ++ [e])
  | drift {s s' : Service} {log : List Entry} (h : History drifts s log) (hs : drifts s s') : History drifts s' log

theorem History.orderly {drifts : Service → Service → Prop} {s : Service} {log : List Entry}
    (h : History drifts s log) : Orderly log := by
  induction h with
  | start now => exact fun before e rest h => by simp at h
  | entry _ he _ _ ih => exact orderly_concat.2 ⟨ih, he⟩
  | drift _ _ ih => exact ih

theorem History.worker_eq {drifts : Service → Service → Prop} {s : Service} {log : List Entry}
    (h : History drifts s log) {e f : Entry} (he : e ∈ log) (hf : f ∈ log) (ht : e.task = f.task) :
    e.worker = f.worker := by
  induction h with
  | start now => cases he
  | entry _ _ hw _ ih =>
    rcases List.mem_append.1 he with he | he <;> rcases List.mem_append.1 hf with hf | hf
    · exact ih he hf
    · rw [List.mem_singleton.1 hf] at ht ⊢
      exact hw e he ht
    · rw [List.mem_singleton.1 he] at ht ⊢
      exact (hw f hf ht.symm).symm
    · rw [List.mem_singleton.1 he, List.mem_singleton.1 hf]
  | drift _ _ ih => exact ih he hf

theorem History.mono {drifts drifts' : Service → Service → Prop} (hd : ∀ s s', drifts s s' → drifts' s s')
    {s : Service} {log : List Entry} (h : History drifts s log) : History drifts' s log := by
  induction h with
  | start now => exact .start now
  | entry _ he hw hs ih => exact .entry ih he hw hs
  | drift _ hs ih => exact .drift ih (hd _ _ hs)

/-- A performed request replies only what can come. -/
theorem Request.canReply_perform (fetch : Fetcher) (worker : Nat) (s : Service) (r : Request) :
    r.CanReply (r.perform fetch worker s).1 := by
  cases r with
  | analyze file =>
    simp only [perform]
    cases h : file.analyze with
    | ok analysis => exact h
    | error e => trivial
  | store _ | fetchFiles | startRun | isCancelled | cancelRun | finishRun => trivial

namespace Pool

variable {drifts : Service → Service → Prop} {p q : Pool}

/-- A task after an arrival was there before, or it is the new one. -/
theorem arrived_cases {tasks : List Task} {new t : Task} {i : Nat} (h : (tasks ++ [new])[i]? = some t) :
    tasks[i]? = some t ∨ (i = tasks.length ∧ t = new) := by
  rw [List.getElem?_append] at h
  split at h
  · exact .inl h
  · obtain ⟨hnew, rfl⟩ := List.getElem?_eq_some_iff.1 h
    rw [List.length_singleton] at hnew
    exact .inr ⟨by omega, List.getElem_singleton hnew⟩

/-- A task after an answer is the one that got it, or another as it was. -/
theorem answered_cases {i worker : Nat} {r : Request} {next : Except Failure r.Reply → Program Outcome}
    {outcome : Except Failure r.Reply × Service} {j : Nat} {t : Task}
    (h : (p.answered i worker r next outcome).tasks[j]? = some t) :
    (j = i ∧ t = ⟨worker, next outcome.1⟩) ∨ (i ≠ j ∧ p.tasks[j]? = some t) := by
  simp only [Pool.answered, List.getElem?_set] at h
  split at h
  · rename_i hij
    split at h
    · exact .inl ⟨hij.symm, (Option.some.inj h).symm⟩
    · cases h
  · rename_i hij
    exact .inr ⟨hij, h⟩

/-- What the tasks of a pool have to do with its log. -/
structure Conducted (p : Pool) : Prop where
  keeps : ∀ {i : Nat} {t : Task}, p.tasks[i]? = some t → t.left.Keeps (memoryOf p.log i) fun _ _ => True
  workers : ∀ e ∈ p.log, ∃ t, p.tasks[e.task]? = some t ∧ t.worker = e.worker

theorem Conducted.follows (h : p.Conducted) {i worker : Nat} {r : Request}
    {next : Except Failure r.Reply → Program Outcome} (hi : p.tasks[i]? = some ⟨worker, .ask r next⟩)
    {reply : Except Failure r.Reply} (hr : r.CanReply reply) : Entry.Follows ⟨i, worker, r, reply⟩ p.log :=
  ⟨(h.keeps hi).1, hr⟩

theorem Conducted.answered (h : p.Conducted) {i worker : Nat} {r : Request}
    {next : Except Failure r.Reply → Program Outcome} (hi : p.tasks[i]? = some ⟨worker, .ask r next⟩)
    (outcome : Except Failure r.Reply × Service) (hr : r.CanReply outcome.1) :
    (p.answered i worker r next outcome).Conducted := by
  have hlt : i < p.tasks.length := (List.getElem?_eq_some_iff.1 hi).1
  constructor
  case keeps =>
    intro j t hj
    simp only [Pool.answered, memoryOf_concat]
    obtain ⟨rfl, rfl⟩ | ⟨hij, hj⟩ := answered_cases hj
    · rw [if_pos rfl]
      exact (h.keeps hi).2 _ hr
    · rw [if_neg hij]
      exact h.keeps hj
  case workers =>
    intro e he
    simp only [Pool.answered, List.getElem?_set]
    rcases List.mem_append.1 he with he | he
    · obtain ⟨t, ht, hworker⟩ := h.workers e he
      by_cases hie : i = e.task
      · rw [← hie, hi, Option.some.injEq] at ht
        subst ht
        rw [if_pos hie, if_pos hlt]
        exact ⟨_, rfl, hworker⟩
      · exact ⟨t, by rw [if_neg hie, ht], hworker⟩
    · rw [List.mem_singleton.1 he, if_pos rfl, if_pos hlt]
      exact ⟨_, rfl, rfl⟩

/-- A task that has just come in has been told nothing. -/
theorem Conducted.memoryOf_new (h : p.Conducted) {i : Nat} (hi : p.tasks.length ≤ i) : memoryOf p.log i = {} := by
  have hlog : p.log.filter (·.task == i) = [] := by
    refine List.filter_eq_nil_iff.2 fun e he => ?_
    obtain ⟨t, ht, -⟩ := h.workers e he
    have hlt := (List.getElem?_eq_some_iff.1 ht).1
    simp only [beq_iff_eq]
    omega
  rw [memoryOf, hlog, List.foldl_nil]

theorem Conducted.step (h : p.Conducted) (hq : p.Step drifts q) : q.Conducted := by
  cases hq with
  | arrive worker event =>
    constructor
    case keeps =>
      intro i t hi
      obtain hi | ⟨rfl, rfl⟩ := arrived_cases hi
      · exact h.keeps hi
      · rw [h.memoryOf_new (Nat.le_refl _)]
        exact event.process_keeps
    case workers =>
      intro e he
      obtain ⟨t, ht, hworker⟩ := h.workers e he
      exact ⟨t, by rw [List.getElem?_append_left (List.getElem?_eq_some_iff.1 ht).1, ht], hworker⟩
  | perform hi fetch => exact h.answered hi _ (Request.canReply_perform ..)
  | refuse hi failure hr => exact h.answered hi _ hr
  | drift s hs => exact ⟨h.keeps, h.workers⟩

theorem Reachable.conducted (h : p.Reachable drifts) : p.Conducted := by
  induction h with
  | start now => exact ⟨fun hi => by simp at hi, fun e he => by cases he⟩
  | step _ hq ih => exact ih.step hq

/-- What holds of the handler of every event as it comes in, and stays with a task whatever it is told and
whatever others do, holds of what all tasks have left. -/
theorem Reachable.left_induction {P : List Entry → Nat → Program Outcome → Prop}
    (arrives : ∀ {log : List Entry} {i : Nat} (event : Event), (∀ e ∈ log, e.task ≠ i) → P log i event.process)
    (answered : ∀ {log : List Entry} {i worker : Nat} {r : Request} {next : Except Failure r.Reply → Program Outcome}
      (reply : Except Failure r.Reply), P log i (.ask r next) → P (log ++ [⟨i, worker, r, reply⟩]) i (next reply))
    (others : ∀ {log : List Entry} {i : Nat} {left : Program Outcome} {e : Entry}, e.task ≠ i → P log i left →
      P (log ++ [e]) i left)
    (h : p.Reachable drifts) {i : Nat} {t : Task} (hi : p.tasks[i]? = some t) : P p.log i t.left := by
  induction h generalizing i t with
  | start now => simp at hi
  | @step p q h hq ih =>
    have hanswered : ∀ {j worker : Nat} {r : Request} {next : Except Failure r.Reply → Program Outcome}
        (outcome : Except Failure r.Reply × Service), p.tasks[j]? = some ⟨worker, .ask r next⟩ →
        (p.answered j worker r next outcome).tasks[i]? = some t →
        P (p.answered j worker r next outcome).log i t.left := by
      intro j worker r next outcome hj hi
      obtain ⟨rfl, rfl⟩ | ⟨hij, hi⟩ := answered_cases hi
      · exact answered outcome.1 (ih hj)
      · exact others hij (ih hi)
    cases hq with
    | arrive worker event =>
      obtain hi | ⟨rfl, rfl⟩ := arrived_cases hi
      · exact ih hi
      · refine arrives event fun e he htask => ?_
        obtain ⟨t, ht, -⟩ := h.conducted.workers e he
        have hbound := (List.getElem?_eq_some_iff.1 ht).1
        omega
    | perform hj fetch => exact hanswered _ hj hi
    | refuse hj failure hr => exact hanswered _ hj hi
    | drift s hs => exact ih hi

/-- **The log of a pool tells its history.** -/
theorem Reachable.history (h : p.Reachable drifts) : History drifts p.service p.log := by
  induction h with
  | start now => exact .start now
  | @step p q h hq ih =>
    have hc := h.conducted
    have hworker : ∀ {i : Nat} {t : Task}, p.tasks[i]? = some t →
        ∀ f ∈ p.log, f.task = i → f.worker = t.worker := by
      rintro i t hi f hf rfl
      obtain ⟨t', ht', hw⟩ := hc.workers f hf
      rw [hi, Option.some.injEq] at ht'
      exact ht' ▸ hw.symm
    cases hq with
    | arrive worker event => exact ih
    | perform hi fetch =>
      exact .entry ih (hc.follows hi (Request.canReply_perform ..)) (hworker hi) (.inl ⟨fetch, rfl⟩)
    | refuse hi failure hr => exact .entry ih (hc.follows hi hr) (hworker hi) (.inr ⟨⟨failure, rfl⟩, rfl⟩)
    | drift s hs => exact .drift ih hs

end Pool

end PullReview
