import PullReview.Proofs.Run.Isolation
import PullReview.Proofs.Run.Composition
import PullReview.Proofs.Store.Lagging

/-!
# Lost progress

Progress writes are best effort. Two pools are set side by side in which the same happens, but that in one of them
some of these writes fail as the database fails (`Pool.after`). All handlers come to the same outcomes, and the
databases differ in nothing but when a review was last changed and what such writes tell of it
(`lost_notes_leave_outcome`).

A handler goes on in one way from such a write, whatever comes of it (`Program.Forgives`), and store calls do not
notice that one was lost (`Request.perform_lags`). What a lost write would have told is told again when the review
is completed, and a handler whose outcome is that has completed it (`Program.Earns`).
-/

namespace PullReview

/-! ## Going on from lost writes -/

namespace Request

/-- The review is completed. -/
def completes : (r : Request) → Except Failure r.Reply → Bool
  | store (.move _ target _ _), .ok true => target = Named.name ReviewStatus.completed
  | _, _ => false

end Request

/-- A reply, or a failure of the database. -/
def Overlooked {ρ : Type} (reply : Except Failure ρ) : Prop := ∀ e, reply = .error e → e.isDatabase = true

namespace Program

variable {α β : Type}

/-- A program goes on in one way from each best-effort write, whatever comes of it. -/
def Forgives : Program α → Prop
  | done _ | failed _ => True
  | ask r next =>
    (r.isNote = true → ∃ left, ∀ reply, Overlooked reply → next reply = left) ∧ ∀ reply, (next reply).Forgives

theorem Forgives.bind {p : Program α} {f : α → Program β} (h : p.Forgives) (hf : ∀ a, (f a).Forgives) :
    (p.bind f).Forgives := by
  induction p with
  | done a => exact hf a
  | failed e => trivial
  | ask r next ih =>
    refine ⟨fun hr => ?_, fun reply => ih reply (h.2 reply)⟩
    obtain ⟨left, hleft⟩ := h.1 hr
    exact ⟨left.bind f, fun reply hreply => congrArg (·.bind f) (hleft reply hreply)⟩

theorem Forgives.rescue {p : Program α} {handle : Failure → Program α} (h : p.Forgives)
    (hh : ∀ e, (handle e).Forgives) : (p.rescue handle).Forgives := by
  induction p with
  | done a => trivial
  | failed e => exact hh e
  | ask r next ih =>
    refine ⟨fun hr => ?_, fun reply => ih reply (h.2 reply)⟩
    obtain ⟨left, hleft⟩ := h.1 hr
    exact ⟨left.rescue handle, fun reply hreply => congrArg (·.rescue handle) (hleft reply hreply)⟩

theorem Forgives.andFinally {p : Program α} {last : Program Unit} (h : p.Forgives) (hl : last.Forgives) :
    (p.andFinally last).Forgives := by
  induction p with
  | done a => exact hl.bind fun _ => trivial
  | failed e => exact hl.bind fun _ => trivial
  | ask r next ih =>
    refine ⟨fun hr => ?_, fun reply => ih reply (h.2 reply)⟩
    obtain ⟨left, hleft⟩ := h.1 hr
    exact ⟨left.andFinally last, fun reply hreply => congrArg (·.andFinally last) (hleft reply hreply)⟩

/-- Until a review has been completed, a program does not end with such a value. -/
def Earns (such : α → Prop) : Program α → Prop
  | done a => ¬ such a
  | failed _ => True
  | ask r next => ∀ reply, r.completes reply = false → (next reply).Earns such

theorem earns_bind {such : β → Prop} (p : Program α) {f : α → Program β} (hf : ∀ a, (f a).Earns such) :
    (p.bind f).Earns such := by
  induction p with
  | done a => exact hf a
  | failed e => trivial
  | ask r next ih => exact fun reply _ => ih reply

theorem Earns.rescue {such : α → Prop} {p : Program α} {handle : Failure → Program α} (h : p.Earns such)
    (hh : ∀ e, (handle e).Earns such) : (p.rescue handle).Earns such := by
  induction p with
  | done a => exact h
  | failed e => exact hh e
  | ask r next ih => exact fun reply hreply => ih reply (h reply hreply)

theorem Earns.andFinally {such : α → Prop} {p : Program α} (h : p.Earns such) (last : Program Unit) :
    (p.andFinally last).Earns such := by
  induction p with
  | done a => exact earns_bind last fun _ => h
  | failed e => exact earns_bind last fun _ => trivial
  | ask r next ih => exact fun reply hreply => ih reply (h reply hreply)

end Program

theorem Program.forgives_composes : Program.Composes (fun r => r.isNote = false) Program.Forgives := by
  constructor
  case done => exact fun _ => trivial
  case failed => exact fun _ => trivial
  case ask =>
    refine fun hr hnext => ⟨fun hnote => ?_, hnext⟩
    rw [hr] at hnote
    cases hnote
  case bind => exact Program.Forgives.bind
  case rescue => exact Program.Forgives.rescue
  case andFinally => exact Program.Forgives.andFinally
  case ofRun => exact fun _ _ hnote => hnote
  case note =>
    refine fun r progress => ⟨fun _ => ⟨.done (), fun reply hreply => ?_⟩, fun reply => ?_⟩
    · cases reply with
      | ok moved => rfl
      | error e => exact if_pos (hreply e rfl)
    · cases reply with
      | ok moved => trivial
      | error e =>
        simp only
        split <;> trivial

/-- Handlers overlook what comes of best-effort writes. -/
theorem Event.process_forgives (event : Event) : event.process.Forgives := by
  refine Event.process_of Program.forgives_composes fun call hcall => ?_
  cases event with
  | installationCreated installation repositories =>
    obtain ⟨account, -, rfl⟩ := Option.map_eq_some_iff.1 hcall
    rfl
  | _ =>
    cases hcall
    rfl

/-! ## What handlers earn -/

/-- The outcome of a run that has completed its review. -/
def Outcome.IsCompleted (o : Outcome) : Prop := o.status = some .completed

theorem reportFailure_earns (review : Int) (error : String) (run : Option Text) :
    (reportFailure review error run).Earns Outcome.IsCompleted := by
  intro reply _
  rcases reply with e | (_ | _)
  · simp only
    split
    · simp [Program.Earns, Outcome.IsCompleted]
    · trivial
  · simp [Program.Earns, Outcome.IsCompleted]
  · simp [Program.Earns, Outcome.IsCompleted]

namespace Run

theorem stopped_earns (r : Run) (reason : StopReason) :
    (Program.done (r.stopped reason)).Earns Outcome.IsCompleted := by
  simp [Program.Earns, Outcome.IsCompleted, stopped]

theorem complete_earns (r : Run) (tally : Tally) : (r.complete tally).Earns Outcome.IsCompleted := by
  apply Program.earns_bind
  intro _ reply hreply
  rcases reply with e | (_ | _)
  · trivial
  · exact r.stopped_earns _
  · simp [Request.completes] at hreply

theorem steps_earns (r : Run) (token : Token) : (r.steps token).Earns Outcome.IsCompleted := by
  refine Program.earns_bind _ fun moved => ?_
  split
  · exact r.stopped_earns _
  refine Program.earns_bind _ fun files => Program.earns_bind _ fun _ => Program.earns_bind _ fun ended => ?_
  cases ended with
  | error reason => exact r.stopped_earns reason
  | ok tally => exact r.complete_earns tally

theorem program_earns (r : Run) : r.program.Earns Outcome.IsCompleted := by
  refine Program.earns_bind _ fun token => Program.Earns.andFinally ?_ _
  exact (r.steps_earns token).rescue fun e => reportFailure_earns _ _ _

end Run

namespace Handler

theorem orReport_earns {action : String} {call : StoreCall} {next : call.Reply → Program Outcome}
    (hnext : ∀ reply, (next reply).Earns Outcome.IsCompleted) :
    (orReport action call next).Earns Outcome.IsCompleted := by
  intro reply _
  cases reply with
  | ok reply => exact hnext reply
  | error e =>
    simp only
    split
    · simp [Program.Earns, Outcome.IsCompleted]
    · trivial

end Handler

theorem Event.process_earns (event : Event) : event.process.Earns Outcome.IsCompleted := by
  have hplain : ∀ outcome : Outcome, outcome.status ≠ some .completed →
      (Program.done outcome).Earns Outcome.IsCompleted := fun _ h => h
  suffices h : event.program.Earns Outcome.IsCompleted from h.rescue fun _ => hplain _ (by simp)
  cases event with
  | reviewDue action pullRequest repository installation =>
    intro reply _
    cases reply with
    | error e =>
      simp only
      split
      · exact hplain _ (by simp)
      · trivial
    | ok ticket => exact (Run.program_earns _).rescue fun e => reportFailure_earns _ _ _
  | pullRequestClosed pullRequest repository installation =>
    refine Handler.orReport_earns fun reviews => Program.earns_bind _ fun _ => hplain _ ?_
    simp only
    split <;> simp
  | installationCreated installation repositories =>
    obtain ⟨id, account⟩ := installation
    cases account with
    | none => exact hplain _ (by simp)
    | some account => exact Handler.orReport_earns fun _ => hplain _ (by simp)
  | installationDeleted installation =>
    exact Handler.orReport_earns fun removal => Program.earns_bind _ fun _ => hplain _ (by simp)
  | repositoriesAdded installation repositories => exact Handler.orReport_earns fun _ => hplain _ (by simp)
  | repositoriesRemoved installation repositories => exact Handler.orReport_earns fun _ => hplain _ (by simp)

/-! ## Completed runs -/

namespace Entry

variable {e : Entry} {log : List Entry}

theorem exists_of_completes (h : e.request.completes e.reply = true) :
    ∃ i w review progress run,
      e = ⟨i, w, .store (.move review (Named.name ReviewStatus.completed) progress run), .ok true⟩ := by
  obtain ⟨i, w, r, reply⟩ := e
  cases r with
  | store call =>
    cases call with
    | move review target progress run =>
      rcases reply with failure | (_ | _)
      · cases h
      · cases h
      · obtain rfl : target = Named.name ReviewStatus.completed := of_decide_eq_true h
        exact ⟨i, w, review, progress, run, rfl⟩
    | _ => cases h
  | _ => cases h

theorem ends_of_completes (h : e.request.completes e.reply = true) : e.ends = true := by
  obtain ⟨i, w, review, progress, run, rfl⟩ := exists_of_completes h
  rfl

end Entry

/-- The review of a run that has been completed stays so. -/
theorem History.completed {s : Service} {log : List Entry} (h : History Service.Drifts s log) {v : Int} {d : Dossier}
    (hd : s.database.tables.dossier? v = some d) {e : Entry} (he : e ∈ log)
    (hc : e.request.completes e.reply = true) (hticket : (memoryOf log e.task).ticket = some ⟨v, d.review.run⟩) :
    d.review.status = .completed := by
  induction h generalizing v d e with
  | start now => cases he
  | drift _ hs ih => exact ih (hs.1 ▸ hd) he hc hticket
  | @entry s s' log f h hf hw hs ih =>
    have hturns := (hs.effects hf h.owned.tables).turns v
    rw [hd] at hturns
    generalize hbefore : s.database.tables.dossier? v = before at hturns
    have hold : ∀ {d₀ : Dossier}, s.database.tables.dossier? v = some d₀ → d₀.review.run = d.review.run →
        f.ticket? ≠ some ⟨v, d.review.run⟩ → e ∈ log → d₀.review.status = .completed := by
      intro d₀ hd₀ hrun hnew he
      refine ih hd₀ he hc ?_
      rw [hrun]
      exact (ticket_concat hticket).resolve_left fun hqueued => hnew hqueued.1
    obtain ⟨i, w, review, progress, run, hentry⟩ := Entry.exists_of_completes hc
    rcases List.mem_append.1 he with he | he
    · cases hturns with
      | @queued _ ticket number repository installation summary ht hv =>
        -- who has queued the review under this run had done nothing before
        have hqueues : (memoryOf (log ++ [f]) f.task).ticket = some ticket := by rw [(hf.of_ticket ht).2]
        have htask : e.task = f.task := (h.entry hf hw hs).owned.unique hticket hqueues rfl
        have hended : (memoryOf log f.task).ended = true := ended_iff.2 ⟨e, he, htask, Entry.ends_of_completes hc⟩
        rw [(hf.of_ticket ht).1] at hended
        cases hended
      | cancelled reason hcancel ha =>
        have hdone := hold hbefore rfl (fun ht => by rw [Entry.cancelled_of_ticket ht] at hcancel; cases hcancel) he
        rw [hdone] at ha
        cases ha
      | moved hmoves hmoving hwrites hsucc =>
        have hdone := hold hbefore rfl (by rw [hmoves]; simp [Entry.ticket?]) he
        rw [hdone] at hsucc
        cases hsucc
      | extended id commentId hextends ha =>
        have hdone := hold hbefore rfl (by rw [hextends]; simp [Entry.ticket?]) he
        exact hdone
      | kept _ htouch hwritten => exact hold hbefore rfl (fun ht => htouch (.inl ⟨_, ht, rfl⟩)) he
    · obtain rfl : e = f := List.mem_singleton.1 he
      subst hentry
      cases hturns with
      | queued _ number repository installation summary ht hv => cases ht
      | cancelled reason hcancel ha => cases hcancel
      | moved hmoves hmoving hwrites hsucc =>
        have hrequest := congrArg Entry.request hmoves
        simp only [Request.store.injEq, StoreCall.move.injEq] at hrequest
        exact (ReviewStatus.eq_of_name_eq hrequest.2.1).symm
      | extended id commentId hextends ha => cases congrArg Entry.request hextends
      | kept _ htouch hwritten =>
        obtain ⟨ticket, -, hknown, rfl, -⟩ := hf.1
        have hsame := takes_ticket.concat hf hknown
        rw [hticket, Option.some.injEq] at hsame
        exact absurd (by rw [← hsame]; rfl) hwritten

/-- A task that is done with such an outcome has completed its review. -/
theorem Pool.Reachable.exists_completes {drifts : Service → Service → Prop} {p : Pool} (h : p.Reachable drifts)
    {i worker : Nat} {outcome : Outcome} (hi : p.tasks[i]? = some ⟨worker, .done outcome⟩)
    (houtcome : outcome.IsCompleted) : ∃ e ∈ p.log, e.task = i ∧ e.request.completes e.reply = true := by
  suffices hearns : (∃ e ∈ p.log, e.task = i ∧ e.request.completes e.reply = true) ∨
      (Program.done outcome).Earns Outcome.IsCompleted from hearns.resolve_right fun hno => hno houtcome
  refine h.left_induction (P := fun log i left =>
    (∃ e ∈ log, e.task = i ∧ e.request.completes e.reply = true) ∨ left.Earns Outcome.IsCompleted) ?_ ?_ ?_ hi
  · intro log i event _
    exact .inr event.process_earns
  · intro log i worker r next reply hearns
    rcases hearns with ⟨e, he, hcompletes⟩ | hearns
    · exact .inl ⟨e, List.mem_append_left _ he, hcompletes⟩
    · cases hreply : r.completes reply with
      | true => exact .inl ⟨_, List.mem_append_right _ (List.mem_singleton_self _), rfl, hreply⟩
      | false => exact .inr (hearns reply hreply)
  · intro log i left e _ hearns
    exact hearns.imp_left fun ⟨f, hf, hcompletes⟩ => ⟨f, List.mem_append_left _ hf, hcompletes⟩

/-! ## Runs that have begun -/

namespace Entry

/-- Whether a run begins or goes on. -/
def begins : Entry → Bool
  | ⟨_, _, .store (.move _ target _ _), .ok true⟩ => target = Named.name ReviewStatus.inProgress
  | _ => false

variable {e : Entry}

theorem exists_of_begins (h : e.begins = true) : ∃ i w review progress run,
    e = ⟨i, w, .store (.move review (Named.name ReviewStatus.inProgress) progress run), .ok true⟩ := by
  unfold begins at h
  split at h
  · obtain rfl := of_decide_eq_true h
    exact ⟨_, _, _, _, _, rfl⟩
  · cases h

theorem begun_after (m : Memory) (e : Entry) : (m.after e.request e.reply).begun = (m.begun || e.begins) := by
  obtain ⟨i, w, r, reply⟩ := e
  have hsame : ∀ b : Bool, b = (b || false) := fun b => (Bool.or_false b).symm
  cases r with
  | store call =>
    cases call with
    | move review target progress run =>
      rcases reply with failure | (_ | _)
      · exact hsame _
      · exact hsame _
      · by_cases htarget : target = Named.name ReviewStatus.inProgress
        · simp [Memory.after, begins, htarget]
        · simp [Memory.after, begins, htarget]
    | addAnalysis => rcases reply with failure | (_ | _) <;> exact hsame _
    | _ => rcases reply with failure | reply <;> exact hsame _
  | isCancelled => rcases reply with failure | (_ | _) <;> exact hsame _
  | _ => rcases reply with failure | reply <;> exact hsame _

end Entry

theorem begun_iff {log : List Entry} {i : Nat} :
    (memoryOf log i).begun = true ↔ ∃ e ∈ log, e.task = i ∧ e.begins = true :=
  memoryOf_flag_iff rfl Entry.begun_after

/-- A run has begun before it has its files. -/
theorem begun_of_files {log : List Entry} (ho : Orderly log) {i : Nat} (h : (memoryOf log i).files.isSome = true) :
    (memoryOf log i).begun = true := by
  obtain ⟨files, hfiles⟩ := Option.isSome_iff_exists.1 h
  obtain ⟨e, he, rfl, hlisting⟩ := takes_files.exists_mem ho hfiles
  obtain ⟨before, rest, rfl⟩ := List.append_of_mem he
  have hbegun : (memoryOf before e.task).begun = true := by
    have hfollows := ho before e rest rfl
    unfold Entry.listing? at hlisting
    split at hlisting
    · exact hfollows.1.1
    · cases hlisting
  obtain ⟨f, hf, htask, hbegins⟩ := begun_iff.1 hbegun
  exact begun_iff.2 ⟨f, List.mem_append_left _ hf, htask, hbegins⟩

theorem Database.fitsColumn_of_move {db : Database} {t : Tables} {now : Moment} {review : Int} {target : Text}
    {progress : Progress} {run : Option Text} {moved : Bool}
    (h : db.move now review target progress run = .ok (moved, t)) : fitsColumn review = true := by
  unfold move at h
  cases hstatement : db.statement [review] with
  | error e =>
    rw [hstatement] at h
    cases h
  | ok u => exact (statement_eq_ok_iff.1 hstatement).2.2 (.int review) (List.mem_singleton_self _)

/-- A run has begun for a review whose id fits its column. -/
theorem History.fitsColumn_of_begins {drifts : Service → Service → Prop} {s : Service} {log : List Entry}
    (h : History drifts s log) {e : Entry} (he : e ∈ log) (hb : e.begins = true) :
    ∃ ticket, (memoryOf log e.task).ticket = some ticket ∧ fitsColumn ticket.review = true := by
  induction h with
  | start now => cases he
  | drift _ _ ih => exact ih he
  | entry h hf _ hs ih =>
    rcases List.mem_append.1 he with he | he
    · obtain ⟨ticket, hticket, hfits⟩ := ih he
      exact ⟨ticket, takes_ticket.concat hf hticket, hfits⟩
    · rw [← List.mem_singleton.1 he] at hf hs ⊢
      obtain ⟨i, w, review, progress, run, rfl⟩ := Entry.exists_of_begins hb
      obtain ⟨ticket, -, hticket, rfl, -⟩ := hf.1
      exact ⟨ticket, takes_ticket.concat hf hticket, Database.fitsColumn_of_move hs.transaction.1⟩

/-! ## Side by side -/

/-- The service with other rows of reviews. -/
def Service.withReviews (s : Service) (us : List Review) : Service := { s with database := s.database.withReviews us }

/-- **Requests do not notice** that writes were lost: they are told the same. -/
theorem Request.perform_lags {loses : Ticket → Prop} {s : Service} {us : List Review}
    (h : List.Forall₂ (Review.Lags loses) s.database.tables.reviews us) (fetch : Fetcher) (worker : Nat) {r : Request}
    (hcompleted : ∀ review progress run,
      r = .store (.move review (Named.name ReviewStatus.completed) progress run) → progress.step = .completed) :
    (r.perform fetch worker (s.withReviews us)).1 = (r.perform fetch worker s).1 ∧
    ∃ us', (r.perform fetch worker (s.withReviews us)).2 = (r.perform fetch worker s).2.withReviews us' ∧
      List.Forall₂ (Review.Lags loses) (r.perform fetch worker s).2.database.tables.reviews us' := by
  cases r with
  | store call =>
    have hcall : ∀ review progress run, call = .move review (Named.name ReviewStatus.completed) progress run →
        progress.step = .completed :=
      fun review progress run hcall => hcompleted review progress run (congrArg Request.store hcall)
    obtain ⟨hreply, us', hdatabase, hreviews⟩ := StoreCall.perform_lags h s.now hcall
    exact ⟨hreply, us', congrArg (fun database => { s with database }) hdatabase, hreviews⟩
  | _ => exact ⟨rfl, us, rfl, h⟩

/-- A review is completed with a record of that step. -/
theorem Memory.Allows.step_of_completed {m : Memory} {review : Int} {progress : Progress} {run : Option Text}
    (h : m.Allows (.store (.move review (Named.name ReviewStatus.completed) progress run))) :
    progress.step = .completed := by
  obtain ⟨ticket, status, -, -, -, -, -, hname, hwrites⟩ := h
  obtain rfl : ReviewStatus.completed = status := ReviewStatus.eq_of_name_eq hname
  cases hwrites
  rfl

/-- Best-effort writes are made on behalf of a run that has its files. -/
theorem Memory.Allows.of_isNote {m : Memory} {r : Request} (h : m.Allows r) (hr : r.isNote = true) :
    ∃ ticket progress, m.ticket = some ticket ∧ m.files.isSome = true ∧ progress.isNote = true ∧
      r = .store (.move ticket.review (Named.name ReviewStatus.inProgress) progress (some ticket.run)) := by
  cases r with
  | store call =>
    cases call with
    | move review target progress run =>
      obtain ⟨ticket, status, hticket, rfl, rfl, -, -, rfl, hwrites⟩ := h
      have hgoes : status = .inProgress ∧ m.files.isSome = true := by
        cases hwrites with
        | found files hfiles | analyzed files hfiles => exact ⟨rfl, by rw [hfiles]; rfl⟩
        | ready hall => exact ⟨rfl, hall.1⟩
        | fetching | completed | failed => cases hr
      obtain ⟨rfl, hfiles⟩ := hgoes
      exact ⟨ticket, progress, hticket, hfiles, hr, rfl⟩
    | _ => cases hr
  | _ => cases hr

/-- Losing a best-effort write leaves what lags behind, and the task does not notice. -/
theorem Pool.Reachable.note_lags {p : Pool} (h : p.Reachable Service.Drifts) {loses : Ticket → Prop} {us : List Review}
    (hlags : List.Forall₂ (Review.Lags loses) p.tables.reviews us) {i worker : Nat} {r : Request}
    {next : Except Failure r.Reply → Program Outcome} (hi : p.tasks[i]? = some ⟨worker, .ask r next⟩)
    (hr : r.isNote = true) (hloses : ∀ ticket, p.Runs i ticket → loses ticket) (fetch : Fetcher) :
    Overlooked (r.perform fetch worker p.service).1 ∧
    p.service.withReviews us = (r.perform fetch worker p.service).2.withReviews us ∧
    List.Forall₂ (Review.Lags loses) (r.perform fetch worker p.service).2.database.tables.reviews us := by
  have hh := h.history
  obtain ⟨ticket, progress, hticket, hfiles, hnote, rfl⟩ := Memory.Allows.of_isNote (h.conducted.keeps hi).1 hr
  have hbegun : (memoryOf p.log i).begun = true := begun_of_files hh.orderly hfiles
  have hfits : fitsColumn ticket.review = true := by
    obtain ⟨e, he, rfl, hbegins⟩ := begun_iff.1 hbegun
    obtain ⟨ticket', hticket', hfits⟩ := hh.fitsColumn_of_begins he hbegins
    rw [hticket, Option.some.injEq] at hticket'
    exact hticket' ▸ hfits
  have hstarted : ∀ r ∈ p.tables.reviews, r.id = ticket.review → r.run = ticket.run → r.status ≠ .pending := by
    intro r hr hid hrun
    obtain ⟨d, hd, rfl⟩ := Tables.dossier?_of_mem hh.owned.tables hr
    obtain ⟨j, hj, htracks⟩ := hh.traced hd
    obtain rfl : j = i := hh.owned.unique hj hticket hrun
    exact htracks.begun hbegun
  obtain ⟨hoverlooked, hsame, hreviews⟩ := StoreCall.perform_noted p.service.now hh.owned.tables hlags hnote
    (hloses ticket (takes_ticket.exists_mem hh.orderly hticket)) hstarted hfits rfl
  exact ⟨hoverlooked, congrArg (fun database => { p.service with database }) hsame, hreviews⟩

/-! ## What happens to a pool -/

/-- What may happen to a pool. A request that is made may be marked: the failure that it meets instead, if it is a
best-effort write and such writes are lost. -/
inductive Happening where
  | arrive (worker : Nat) (event : Event)
  | perform (task : Nat) (fetch : Fetcher) (mark : Option String)
  | refuse (task : Nat) (failure : Failure)
  | drift (now : Moment) (isUp hasTables : Bool) (cancellations : Nat → Cancellations)

namespace Request

/-- Whether a request may fail. The registry does not. -/
def mayFail : Request → Bool
  | startRun _ | isCancelled _ | cancelRun _ | finishRun .. => false
  | store _ | fetchFiles .. | analyze _ => true

theorem canReply_error_iff {r : Request} {failure : Failure} : r.CanReply (.error failure) ↔ r.mayFail = true := by
  cases r <;> simp [CanReply, mayFail]

/-- Makes a request, or loses it as it is marked. -/
def performMarked (mark : Option String) (fetch : Fetcher) (worker : Nat) (s : Service) (r : Request) :
    Except Failure r.Reply × Service :=
  match mark with
  | some message => if r.isNote then (.error (.database message), s) else r.perform fetch worker s
  | none => r.perform fetch worker s

end Request

namespace Pool

/-- The pool after one more thing has happened, with marked writes lost or not. -/
def next (lossy : Bool) (p : Pool) : Happening → Pool
  | .arrive worker event => { p with tasks := p.tasks ++ [⟨worker, event.process⟩] }
  | .perform i fetch mark =>
    match p.tasks[i]? with
    | some ⟨worker, .ask r next⟩ =>
      p.answered i worker r next (r.performMarked (if lossy then mark else none) fetch worker p.service)
    | _ => p
  | .refuse i failure =>
    match p.tasks[i]? with
    | some ⟨worker, .ask r next⟩ =>
      if r.mayFail then p.answered i worker r next (.error failure, p.service) else p
    | _ => p
  | .drift now isUp hasTables cancellations =>
    { p with service := { database := { p.service.database with isUp, hasTables }, now, cancellations } }

/-- The pool after some happenings, from an empty database, with marked writes lost or not. -/
def after (lossy : Bool) (now : Moment) (happenings : List Happening) : Pool :=
  happenings.foldl (next lossy) { service := { now } }

theorem after_concat (lossy : Bool) (now : Moment) (happenings : List Happening) (x : Happening) :
    after lossy now (happenings ++ [x]) = (after lossy now happenings).next lossy x := by
  rw [after, List.foldl_append]
  rfl

variable {p q : Pool} {lossy : Bool} {x : Happening}

theorem Reachable.next (h : p.Reachable Service.Drifts) (lossy : Bool) (x : Happening) :
    (p.next lossy x).Reachable Service.Drifts := by
  cases x with
  | arrive worker event => exact h.step (.arrive worker event)
  | perform i fetch mark =>
    simp only [Pool.next]
    split
    · rename_i worker r next hi
      unfold Request.performMarked
      split
      · by_cases hr : r.isNote = true
        · rw [if_pos hr]
          refine h.step (.refuse hi _ (Request.canReply_error_iff.2 ?_))
          obtain ⟨_, _, _, _, _, rfl⟩ := Memory.Allows.of_isNote (h.conducted.keeps hi).1 hr
          rfl
        · rw [if_neg hr]
          exact h.step (.perform hi fetch)
      · exact h.step (.perform hi fetch)
    · exact h
  | refuse i failure =>
    simp only [Pool.next]
    split
    · rename_i hi
      split
      · rename_i hfail
        exact h.step (.refuse hi failure (Request.canReply_error_iff.2 hfail))
      · exact h
    · exact h
  | drift now isUp hasTables cancellations => exact h.step (.drift _ ⟨rfl, rfl⟩)

theorem reachable_after (lossy : Bool) (now : Moment) (happenings : List Happening) :
    (after lossy now happenings).Reachable Service.Drifts := by
  induction happenings using List.reverseRecOn with
  | nil => exact .start now
  | append_singleton happenings x ih =>
    rw [after_concat]
    exact ih.next lossy x

/-- Any step of a pool is something that happens to it. -/
theorem Step.exists_next (h : p.Step Service.Drifts q) : ∃ x, q = p.next false x := by
  cases h with
  | arrive worker event => exact ⟨.arrive worker event, rfl⟩
  | @perform i worker r next hi fetch =>
    refine ⟨.perform i fetch none, ?_⟩
    simp only [Pool.next, hi]
    rfl
  | @refuse i worker r next hi failure hr =>
    refine ⟨.refuse i failure, ?_⟩
    simp only [Pool.next, hi, Request.canReply_error_iff.1 hr, if_true]
  | drift s hs =>
    refine ⟨.drift s.now s.database.isUp s.database.hasTables s.cancellations, ?_⟩
    obtain ⟨htables, hdrawn⟩ := hs
    simp only [Pool.next, ← htables, ← hdrawn]

/-- Pools come about by what happens. -/
theorem reachable_iff_after : p.Reachable Service.Drifts ↔ ∃ now happenings, p = after false now happenings := by
  constructor
  · intro h
    induction h with
    | start now => exact ⟨now, [], rfl⟩
    | step _ hq ih =>
      obtain ⟨now, happenings, rfl⟩ := ih
      obtain ⟨x, rfl⟩ := hq.exists_next
      exact ⟨now, happenings ++ [x], (after_concat ..).symm⟩
  · rintro ⟨now, happenings, rfl⟩
    exact reachable_after ..

/-- Logs only grow. -/
theorem log_next (lossy : Bool) (p : Pool) (x : Happening) : p.log <+: (p.next lossy x).log := by
  cases x with
  | arrive | drift => exact List.prefix_rfl
  | perform i fetch mark =>
    simp only [next]
    split
    · exact List.prefix_append ..
    · exact List.prefix_rfl
  | refuse i failure =>
    simp only [next]
    split
    · split
      · exact List.prefix_append ..
      · exact List.prefix_rfl
    · exact List.prefix_rfl

/-- All handlers have the same left to do, and the services are the same but for rows of reviews that lag behind. -/
structure Lags (loses : Ticket → Prop) (p q : Pool) : Prop where
  tasks : q.tasks = p.tasks
  service : q.service = p.service.withReviews q.tables.reviews
  reviews : List.Forall₂ (Review.Lags loses) p.tables.reviews q.tables.reviews

/-- All tasks forgive. -/
theorem Reachable.forgives {drifts : Service → Service → Prop} (h : p.Reachable drifts) {i : Nat} {t : Task}
    (hi : p.tasks[i]? = some t) : t.left.Forgives :=
  h.left_induction (P := fun _ _ left => left.Forgives) (fun event _ => event.process_forgives)
    (fun reply hleft => hleft.2 reply) (fun _ hleft => hleft) hi

namespace Lags

variable {loses : Ticket → Prop}

theorem answered (h : p.Lags loses q) {i worker : Nat} {r : Request} {next : Except Failure r.Reply → Program Outcome}
    {result result' : Except Failure r.Reply × Service} {us : List Review} (hleft : next result'.1 = next result.1)
    (hservice : result'.2 = result.2.withReviews us)
    (hreviews : List.Forall₂ (Review.Lags loses) result.2.database.tables.reviews us) :
    (p.answered i worker r next result).Lags loses (q.answered i worker r next result') := by
  have hus : result'.2.database.tables.reviews = us := by
    rw [hservice]
    rfl
  constructor
  case tasks => simp only [Pool.answered, hleft, h.tasks]
  case service =>
    show result'.2 = result.2.withReviews result'.2.database.tables.reviews
    rw [hus, hservice]
  case reviews =>
    show List.Forall₂ (Review.Lags loses) result.2.database.tables.reviews result'.2.database.tables.reviews
    rw [hus]
    exact hreviews

/-- The step: the same happens in both pools, but that in one a marked write is lost. -/
theorem next (hp : p.Reachable Service.Drifts) (h : p.Lags loses q) (x : Happening)
    (hloses : ∀ i fetch message ticket, x = .perform i fetch (some message) → p.Runs i ticket → loses ticket) :
    (p.next false x).Lags loses (q.next true x) := by
  cases x with
  | arrive worker event => exact ⟨by simp only [Pool.next, h.tasks], h.service, h.reviews⟩
  | drift now isUp hasTables cancellations =>
    refine ⟨h.tasks, ?_, h.reviews⟩
    simp only [Pool.next, h.service]
    rfl
  | refuse i failure =>
    rcases hi : p.tasks[i]? with _ | ⟨worker, value | e | ⟨r, next⟩⟩
    · simpa only [Pool.next, h.tasks, hi] using h
    · simpa only [Pool.next, h.tasks, hi] using h
    · simpa only [Pool.next, h.tasks, hi] using h
    · simp only [Pool.next, h.tasks, hi]
      split
      · exact h.answered rfl h.service h.reviews
      · exact h
  | perform i fetch mark =>
    rcases hi : p.tasks[i]? with _ | ⟨worker, value | e | ⟨r, next⟩⟩
    · simpa only [Pool.next, h.tasks, hi] using h
    · simpa only [Pool.next, h.tasks, hi] using h
    · simpa only [Pool.next, h.tasks, hi] using h
    · simp only [Pool.next, h.tasks, hi]
      -- what is made in both is told the same
      have hmade : (p.answered i worker r next (r.perform fetch worker p.service)).Lags loses
          (q.answered i worker r next (r.perform fetch worker q.service)) := by
        obtain ⟨hreply, us, hservice, hreviews⟩ := Request.perform_lags h.reviews fetch worker (r := r) (by
          rintro review progress run rfl
          exact Memory.Allows.step_of_completed (hp.conducted.keeps hi).1)
        rw [← h.service] at hreply hservice
        exact h.answered (congrArg next hreply) hservice hreviews
      show (p.answered i worker r next (r.perform fetch worker p.service)).Lags loses
        (q.answered i worker r next (r.performMarked mark fetch worker q.service))
      cases mark with
      | none => exact hmade
      | some message =>
        by_cases hr : r.isNote = true
        · rw [Request.performMarked, if_pos hr]
          obtain ⟨hoverlooked, hservice, hreviews⟩ :=
            hp.note_lags h.reviews hi hr (fun ticket => hloses i fetch message ticket rfl) fetch
          obtain ⟨left, hleft⟩ := (hp.forgives hi).1 hr
          have hlost : Overlooked (.error (.database message) : Except Failure r.Reply) := by
            intro e he
            cases he
            rfl
          refine h.answered ?_ (h.service.trans hservice) hreviews
          rw [hleft _ hoverlooked, hleft _ hlost]
        · rw [Request.performMarked, if_neg hr]
          exact hmade

end Lags

/-- A run has made a marked request. -/
def Loses (p : Pool) (happenings : List Happening) (ticket : Ticket) : Prop :=
  ∃ i fetch message, p.Runs i ticket ∧ .perform i fetch (some message) ∈ happenings

/-- The run lemma: only runs that have made marked requests lose anything. -/
theorem after_lags (now : Moment) (happenings : List Happening) :
    (after false now happenings).Lags ((after false now happenings).Loses happenings) (after true now happenings) := by
  induction happenings using List.reverseRecOn with
  | nil => exact ⟨rfl, rfl, .nil⟩
  | append_singleton happenings x ih =>
    rw [after_concat, after_concat]
    have hruns : ∀ {i ticket}, (after false now happenings).Runs i ticket →
        ((after false now happenings).next false x).Runs i ticket :=
      fun ⟨e, he, hticket⟩ => ⟨e, (log_next false _ x).subset he, hticket⟩
    have hmono : ∀ ticket, (after false now happenings).Loses happenings ticket →
        ((after false now happenings).next false x).Loses (happenings ++ [x]) ticket :=
      fun ticket ⟨i, fetch, message, hrun, hmem⟩ =>
        ⟨i, fetch, message, hruns hrun, List.mem_append_left _ hmem⟩
    have hbefore : (after false now happenings).Lags
        (((after false now happenings).next false x).Loses (happenings ++ [x])) (after true now happenings) :=
      ⟨ih.tasks, ih.service, ih.reviews.imp fun _ _ hlags => hlags.mono hmono⟩
    refine hbefore.next (reachable_after ..) x fun i fetch message ticket hx hrun => ?_
    exact ⟨i, fetch, message, hruns hrun, List.mem_append_right _ (List.mem_singleton.2 hx.symm)⟩

end Pool

/-- **Lost progress writes do not change the outcome.** Of two pools in which the same happens, let one lose any of
its best-effort writes, those that are marked. All handlers come to the same, and the databases are the same but for
when a review was last changed and what is told under some keys of its data: of those, a review that was completed,
or whose run tells so in its outcome, only lacks what such writes alone tell; and one whose run has lost nothing
lacks nothing. -/
theorem lost_notes_leave_outcome (now : Moment) (happenings : List Happening) :
    let p := Pool.after false now happenings
    let q := Pool.after true now happenings
    q.tasks = p.tasks ∧
    q.service = p.service.withReviews q.tables.reviews ∧
    List.Forall₂ (fun r s =>
      s = { r with data := s.data, updatedAt := s.updatedAt } ∧
      (∀ key ∉ (["step", "progress", "files_found", "files_analyzed", "files_to_review"] : List Text),
        s.data.get? key = r.data.get? key) ∧
      (r.status = .completed ∨ (∃ i worker outcome, p.Runs i ⟨r.id, r.run⟩ ∧
          p.tasks[i]? = some ⟨worker, .done outcome⟩ ∧ outcome.status = some .completed) →
        ∀ key ∉ (["files_found", "files_to_review"] : List Text), s.data.get? key = r.data.get? key) ∧
      ((∀ i fetch message, p.Runs i ⟨r.id, r.run⟩ → .perform i fetch (some message) ∉ happenings) → s = r))
      p.tables.reviews q.tables.reviews := by
  intro p q
  have hp : p.Reachable Service.Drifts := Pool.reachable_after ..
  obtain ⟨htasks, hservice, hreviews⟩ : p.Lags (p.Loses happenings) q := Pool.after_lags now happenings
  refine ⟨htasks, hservice, ?_⟩
  refine ((List.forall₂_and_left _ _).2 ⟨fun r hr => hr, hreviews⟩).imp fun r s hboth => ?_
  obtain ⟨hr, hlags⟩ := hboth
  have hcompleted : ∀ {i worker outcome}, p.Runs i ⟨r.id, r.run⟩ → p.tasks[i]? = some ⟨worker, .done outcome⟩ →
      outcome.status = some .completed → r.status = .completed := by
    rintro i worker outcome ⟨e, he, rfl, hticket⟩ hi houtcome
    obtain ⟨f, hf, htask, hcompletes⟩ := hp.exists_completes hi houtcome
    obtain ⟨d, hd, rfl⟩ := Tables.dossier?_of_mem hp.history.owned.tables hr
    refine hp.history.completed hd hf hcompletes ?_
    rw [htask]
    exact takes_ticket.of_mem hp.history.orderly he hticket
  refine ⟨hlags.row, hlags.data, ?_, fun hno => ?_⟩
  · rintro (hstatus | ⟨i, worker, outcome, hrun, hi, houtcome⟩)
    · exact hlags.completed hstatus
    · exact hlags.completed (hcompleted hrun hi houtcome)
  · rcases hlags.same with hsame | ⟨i, fetch, message, hrun, hmem⟩
    · exact hsame
    · exact absurd hmem (hno i fetch message hrun)

/-- A delivery comes in, and all that its run asks for is marked. -/
def marking : List Happening :=
  .arrive 0 (dueReview .opened) ::
    List.replicate 20 (.perform 0 (fun _ _ _ _ => .ok twoFiles) (some "database is locked"))

example : (Pool.after true 0 marking).tables.reviews.map (fun r =>
    (r.status, (r.data.get? "files_found").isSome, (r.data.get? "files_analyzed").isSome)) =
      [(.completed, false, true)] := by
  decide +kernel

end PullReview
