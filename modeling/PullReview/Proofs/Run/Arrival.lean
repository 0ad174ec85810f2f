import PullReview.Proofs.Run.Alone

/-!
# Deliveries one after the other

What handling a delivery to its end does to the database, which answers all the time. A delivery that
makes a review due leaves of it what the pull request and the files fetched give (`Event.due_alone`,
`Event.due_carries`); every other delivery comes to its one store call (`Event.process_database`).
-/

namespace PullReview

/-! ## A delivery that makes a review due -/

namespace Event.PullRequest

/-- The review of a pull request when it has just been queued. -/
def dossier (p : Event.PullRequest) (repository : Event.Repository) (installation : Event.Installation) : Dossier :=
  .queued ⟨0, ""⟩ 0 p.number repository.fullName installation.id p.summary

/-- The call that queues the review of a pull request. -/
def queueCall (p : Event.PullRequest) (repository : Event.Repository) (installation : Event.Installation) :
    StoreCall :=
  .queue p.number repository.fullName installation.id p.summary

/-- The run that is drawn for a pull request. -/
def run (p : Event.PullRequest) (repository : Event.Repository) (installation : Event.Installation)
    (db : Database) : Run :=
  { review := db.tables.idFor p.number repository.fullName, run := db.nextRun, installation := installation.id
    repository := repository.fullName, number := p.number }

/-- What the listing of its files gives for a pull request. -/
def fetched (p : Event.PullRequest) (repository : Event.Repository) (installation : Event.Installation)
    (fetch : Fetcher) : Except Failure (List ChangedFile) :=
  fetch installation.id (splitFullName repository.fullName).1 (splitFullName repository.fullName).2 p.number

/-- What is left of the review of a pull request that is handled by itself. A review whose id does not fit
stays as it was queued. -/
def reviewed (p : Event.PullRequest) (repository : Event.Repository) (installation : Event.Installation)
    (idFits : Bool) (fetched : Except Failure (List ChangedFile)) : Dossier :=
  if idFits then (p.dossier repository installation).concluded fetched else p.dossier repository installation

theorem reviewed_key (p : Event.PullRequest) (repository : Event.Repository) (installation : Event.Installation)
    (idFits : Bool) (fetched : Except Failure (List ChangedFile)) :
    (p.reviewed repository installation idFits fetched).review.key = (p.number, repository.fullName) := by
  unfold reviewed
  split
  · exact Dossier.concluded_key ..
  · rfl

/-- What is stored when the review of a pull request is queued can be bound. -/
def Fits (p : Event.PullRequest) (repository : Event.Repository) (installation : Event.Installation) : Prop :=
  fitsColumn p.number = true ∧ repository.fullName.isPlain = true ∧ fitsColumn installation.id = true

instance (p : Event.PullRequest) (repository : Event.Repository) (installation : Event.Installation) :
    Decidable (p.Fits repository installation) :=
  inferInstanceAs (Decidable (_ ∧ _))

theorem fault?_eq_none_iff {p : Event.PullRequest} {repository : Event.Repository}
    {installation : Event.Installation} :
    Param.fault? [p.number, repository.fullName, installation.id] = none ↔ p.Fits repository installation := by
  simp [Fits, Param.fault?_eq_none_iff]

end Event.PullRequest

namespace Event

section Due

variable (fetch : Fetcher) (worker : Nat) {s : Service} (action : QueueAction) {pullRequest : Event.PullRequest}
  (repository : Event.Repository) {installation : Event.Installation}

/-- The review is queued. -/
theorem perform_queueCall (hw : s.database.tables.WellFormed) (ha : s.database.Available)
    (hfits : pullRequest.Fits repository installation) :
    let ticket := (pullRequest.run repository installation s.database).ticket
    ∃ s', (Request.store (pullRequest.queueCall repository installation)).perform fetch worker s = (.ok ticket, s') ∧
      s'.database.Available ∧
      s'.database.tables.Carries s.database.tables ticket (pullRequest.dossier repository installation) := by
  intro ticket
  have hqueue : (pullRequest.queueCall repository installation).transaction s.database s.now = _ :=
    Database.queue_place ha hw s.now s.database.nextRun (Event.PullRequest.fault?_eq_none_iff.2 hfits)
      pullRequest.summary
  exact ⟨_, Request.perform_store_ok hqueue, ha.stored (pullRequest.queueCall repository installation) _,
    .queued ticket s.now pullRequest.number repository.fullName installation.id pullRequest.summary, rfl,
    .queued .., rfl, rfl, rfl⟩

/-- The review is queued and its run follows. -/
theorem due_queued (hw : s.database.tables.WellFormed) (ha : s.database.Available)
    (hfits : pullRequest.Fits repository installation) :
    let r := pullRequest.run repository installation s.database
    ∃ s', s'.database.Available ∧
      s'.database.tables.Carries s.database.tables r.ticket (pullRequest.dossier repository installation) ∧
      (reviewDue action pullRequest repository installation).program.run fetch worker s =
        (r.program.rescue fun e => reportFailure r.review e.message r.run).run fetch worker s' := by
  obtain ⟨s', hqueue, ha', hcarries⟩ := perform_queueCall fetch worker repository hw ha hfits
  exact ⟨s', ha', hcarries, Program.run_ask hqueue⟩

/-- A pull request of which a number fits no column or the repository cannot be encoded is not queued. -/
theorem due_refused (ha : s.database.Available)
    (hfits : ¬ pullRequest.Fits repository installation) :
    let s' := ((reviewDue action pullRequest repository installation).process.run fetch worker s).2
    s'.database.Available ∧ s'.database.tables = s.database.tables := by
  obtain ⟨e, he⟩ := Option.ne_none_iff_exists'.1 (mt Event.PullRequest.fault?_eq_none_iff.1 hfits)
  have hqueue : (pullRequest.queueCall repository installation).transaction s.database s.now = .error e :=
    Database.queue_error ha s.now s.database.nextRun he pullRequest.summary
  have hrun : (reviewDue action pullRequest repository installation).program.run fetch worker s =
      (.error e, s.stored (pullRequest.queueCall repository installation) s.database.tables) := by
    obtain ⟨-, hunbindable⟩ := Param.exists_of_fault? he
    refine (Program.run_ask (Request.perform_store_error hqueue)).trans ?_
    simp only [Failure.isDatabase_of_isUnbindable hunbindable, Failure.isRejection_of_isUnbindable hunbindable]
    rfl
  rw [process, Program.run_rescue, hrun]
  exact ⟨ha.stored .., rfl⟩

/-- A review whose id fits no column is queued and left so. -/
theorem due_unfit (hw : s.database.tables.WellFormed) (ha : s.database.Available)
    (hfits : pullRequest.Fits repository installation)
    (hid : fitsColumn (s.database.tables.idFor pullRequest.number repository.fullName) = false) :
    let s' := ((reviewDue action pullRequest repository installation).process.run fetch worker s).2
    s'.database.Available ∧
      s'.database.tables.Carries s.database.tables (pullRequest.run repository installation s.database).ticket
        (pullRequest.dossier repository installation) := by
  obtain ⟨s₁, h₁, hcarries, hrun⟩ := due_queued fetch worker action repository hw ha hfits
  obtain ⟨s₂, hprogram, hsame⟩ := (pullRequest.run repository installation s.database).program_unfit
    fetch worker hid h₁
  have hended : (reviewDue action pullRequest repository installation).program.run fetch worker s =
      (.error .integerRange, s₂) := by
    rw [hrun, Program.run_rescue, hprogram]
    exact Program.run_ask (Run.perform_move_unfit fetch worker hid (hsame ▸ h₁) ..)
  rw [process, Program.run_rescue, hended]
  exact ⟨hsame ▸ h₁, hsame ▸ hcarries⟩

/-- **A delivery that makes a review due, handled by itself.** What it leaves of the review follows from
the pull request and the files fetched alone. -/
theorem due_program_alone (hw : s.database.tables.WellFormed) (ha : s.database.Available)
    (hfits : pullRequest.Fits repository installation)
    (hid : fitsColumn (s.database.tables.idFor pullRequest.number repository.fullName) = true) :
    let r := pullRequest.run repository installation s.database
    let queued := pullRequest.dossier repository installation
    let fetched := pullRequest.fetched repository installation fetch
    ∃ s', (reviewDue action pullRequest repository installation).program.run fetch worker s =
        (.ok (r.outcome (queued.ran fetched).1), s') ∧
      s'.database.Available ∧
      s'.database.tables.Carries s.database.tables r.ticket (queued.concluded fetched) := by
  intro r queued fetched
  obtain ⟨s₁, h₁, hcarries, hrun⟩ := due_queued fetch worker action repository hw ha hfits
  obtain ⟨s₂, hprogram, h₂⟩ := r.program_alone fetch worker hid h₁ hcarries List.mem_cons_self
  refine ⟨s₂, ?_, h₂⟩
  rw [Program.run_rescue, hprogram] at hrun
  exact hrun

/-- Nothing is left open, so the outcome is that of the handler. -/
theorem process_run_ok {e : Event} {outcome : Outcome} {s' : Service}
    (h : e.program.run fetch worker s = (.ok outcome, s')) : e.process.run fetch worker s = (.ok outcome, s') := by
  rw [process, Program.run_rescue, h]

theorem due_alone (hw : s.database.tables.WellFormed) (ha : s.database.Available)
    (hfits : pullRequest.Fits repository installation)
    (hid : fitsColumn (s.database.tables.idFor pullRequest.number repository.fullName) = true) :
    let r := pullRequest.run repository installation s.database
    let queued := pullRequest.dossier repository installation
    let fetched := pullRequest.fetched repository installation fetch
    ∃ s', (reviewDue action pullRequest repository installation).process.run fetch worker s =
        (.ok (r.outcome (queued.ran fetched).1), s') ∧
      s'.database.Available ∧
      s'.database.tables.Carries s.database.tables r.ticket (queued.concluded fetched) := by
  intro r queued fetched
  obtain ⟨s', hrun, h⟩ := due_program_alone fetch worker action repository hw ha hfits hid
  exact ⟨s', process_run_ok fetch worker hrun, h⟩

/-- What is left of the review, whether or not its id fits a column. -/
theorem due_carries (hw : s.database.tables.WellFormed) (ha : s.database.Available)
    (hfits : pullRequest.Fits repository installation) :
    let r := pullRequest.run repository installation s.database
    let s' := ((reviewDue action pullRequest repository installation).process.run fetch worker s).2
    s'.database.tables.Carries s.database.tables r.ticket
      (pullRequest.reviewed repository installation (fitsColumn r.review)
        (pullRequest.fetched repository installation fetch)) := by
  intro r s'
  unfold PullRequest.reviewed
  cases hid : fitsColumn r.review with
  | false => exact (due_unfit fetch worker action repository hw ha hfits hid).2
  | true =>
    obtain ⟨s₁, hrun, -, hcarries⟩ := due_alone fetch worker action repository hw ha hfits hid
    rwa [show s' = s₁ from congrArg Prod.snd hrun]

end Due

/-! ## The other deliveries -/

/-- Whether a delivery makes a review due. -/
def isDue : Event → Bool
  | reviewDue .. => true
  | _ => false

/-- The one store call of a delivery that makes no review due. An installation without its account makes
none. -/
def soleCall? : Event → Option StoreCall
  | reviewDue .. => none
  | pullRequestClosed pullRequest repository _ =>
    some (.cancel pullRequest.number repository.fullName Progress.closedReason)
  | installationCreated installation repositories =>
    installation.account.map fun a => .saveInstallation installation.id a.login a.kind repositories
  | installationDeleted installation => some (.dropInstallation installation.id)
  | repositoriesAdded installation repositories =>
    some (.saveRepositories installation.id repositories (installation.account.map (·.login))
      ((installation.account.map (·.kind)).getD "User"))
  | repositoriesRemoved installation repositories =>
    some (.dropRepositories installation.id (repositories.map (·.id)))

section Sole

variable {fetch : Fetcher} {worker : Nat} {s : Service}

theorem process_service (e : Event) :
    (e.process.run fetch worker s).2 = (e.program.run fetch worker s).2 := by
  rw [process, Program.run_rescue]
  obtain ⟨result, s'⟩ := e.program.run fetch worker s
  cases result <;> rfl

/-- Asking runs to stop does not touch the database. -/
theorem cancelRuns_database (fetch : Fetcher) (worker : Nat) (reviews : List Int) (s : Service) :
    ∃ s', (Handler.cancelRuns reviews).run fetch worker s = (.ok (), s') ∧ s'.database = s.database := by
  induction reviews generalizing s with
  | nil => exact ⟨s, rfl, rfl⟩
  | cons v reviews ih =>
    obtain ⟨s', hrun, hsame⟩ := ih (s.withCancellations worker ((s.cancellations worker).cancel v).2)
    exact ⟨s', (Program.run_request_ok (r := .cancelRun v) rfl).trans hrun, hsame⟩

theorem orReport_database {action : String} {call : StoreCall} {next : call.Reply → Program Outcome}
    (h : ∀ reply s, ((next reply).run fetch worker s).2.database = s.database) :
    ((Handler.orReport action call next).run fetch worker s).2.database = (call.perform s.now s.database).2 := by
  cases hcall : call.perform s.now s.database with
  | mk reply db =>
    have hperform : (Request.store call).perform fetch worker s = (reply, { s with database := db }) := by
      simp only [Request.perform, hcall]
    rw [Handler.orReport, Program.run_ask hperform]
    cases reply with
    | ok reply => exact h reply _
    | error e =>
      dsimp only
      split <;> rfl

/-- **The other deliveries.** They do to the database what their store call does. -/
theorem process_database {e : Event} (h : e.isDue = false) :
    (e.process.run fetch worker s).2.database =
      match e.soleCall? with
      | none => s.database
      | some call => (call.perform s.now s.database).2 := by
  have hcancel : ∀ (reviews : List Int) (outcome : Outcome) (s : Service),
      ((Handler.cancelRuns reviews).bind fun _ => .done outcome).run fetch worker s |>.2.database = s.database := by
    intro reviews outcome s
    obtain ⟨s', hrun, hsame⟩ := cancelRuns_database fetch worker reviews s
    rw [Program.run_bind_ok hrun]
    exact hsame
  rw [process_service]
  cases e with
  | reviewDue => cases h
  | pullRequestClosed => exact orReport_database fun reviews => hcancel reviews _
  | installationCreated installation repositories =>
    obtain ⟨id, account⟩ := installation
    cases account with
    | none => rfl
    | some account => exact orReport_database fun _ _ => rfl
  | installationDeleted => exact orReport_database fun removal => hcancel removal.reviews _
  | repositoriesAdded => exact orReport_database fun _ _ => rfl
  | repositoriesRemoved => exact orReport_database fun _ _ => rfl

end Sole

end Event

/-! ## Deliveries one after the other -/

/-- A delivery that comes in at some moment and is handled by a worker. -/
structure Arrival where
  worker : Nat
  now : Moment
  event : Event

namespace Service

/-- The service after a delivery has been handled to its end. -/
def handled (fetch : Fetcher) (s : Service) (a : Arrival) : Service :=
  (a.event.process.run fetch a.worker { s with now := a.now }).2

theorem handled_wellFormed (fetch : Fetcher) {s : Service} (h : s.database.tables.WellFormed) (a : Arrival) :
    (s.handled fetch a).database.tables.WellFormed :=
  a.event.process.run_keeps (·.tables.WellFormed) (fun _ r h => r.perform_wellFormed _ _ h) h

theorem handled_available (fetch : Fetcher) {s : Service} (h : s.database.Available) (a : Arrival) :
    (s.handled fetch a).database.Available :=
  a.event.process.run_keeps Database.Available (fun _ r h => r.perform_available _ _ h) h

section Handled

variable {s : Service} (fetch : Fetcher) (worker : Nat) (now : Moment) (action : QueueAction)
  (pullRequest : Event.PullRequest) (repository : Event.Repository) (installation : Event.Installation)

theorem handled_due (hw : s.database.tables.WellFormed) (ha : s.database.Available)
    (hfits : pullRequest.Fits repository installation) :
    let id := s.database.tables.idFor pullRequest.number repository.fullName
    (s.handled fetch ⟨worker, now, .reviewDue action pullRequest repository installation⟩).database.tables.Carries
      s.database.tables ⟨id, s.database.nextRun⟩
      (pullRequest.reviewed repository installation (fitsColumn id)
        (pullRequest.fetched repository installation fetch)) :=
  Event.due_carries fetch worker action repository (s := { s with now }) hw ha hfits

theorem handled_refused (ha : s.database.Available)
    (hfits : ¬ pullRequest.Fits repository installation) :
    (s.handled fetch ⟨worker, now, .reviewDue action pullRequest repository installation⟩).database.tables =
      s.database.tables :=
  (Event.due_refused fetch worker action repository (s := { s with now }) ha hfits).2

theorem handled_sole {event : Event} (h : event.isDue = false) (s : Service) :
    (s.handled fetch ⟨worker, now, event⟩).database =
      match event.soleCall? with
      | none => s.database
      | some call => (call.perform now s.database).2 :=
  Event.process_database (s := { s with now }) h

end Handled

end Service

end PullReview
