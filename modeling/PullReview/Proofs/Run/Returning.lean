import PullReview.Proofs.Run.Metadata
import PullReview.Proofs.Store.Transaction

/-!
# Handlers that return

Whatever the listing gives and whenever the database fails: the handler of an event returns an outcome, unless
the store call that it begins with carries an integer that fits no column or a text that cannot be encoded
(`handler_fails_iff`). A failing database is told in the outcome, and whatever goes wrong in a run fails the review;
but the failure for such a value is none of the database, and at the first call nothing else stands around it.

`Program.Ends` says what a program ends with whatever it may be told, which is what it ends with however
it is interrupted (`Program.Ends.runInterrupted`).
-/

namespace PullReview

/-! ## Interruptions by outages -/

/-- The points of requests on the database. -/
def Point.isStore : Point → Bool
  | fetch | analyze | beginRun => false
  | queue | move | addAnalysis | cancel | saveInstallation | saveRepositories | dropRepositories
  | dropInstallation => true

theorem StoreCall.isStore_point (call : StoreCall) : call.point.isStore = true := by
  cases call <;> rfl

/-- What a request may be told when store calls fail as the database does or for what they carry, and the registry
does not fail. -/
def Request.MayReply : (r : Request) → Except Failure r.Reply → Prop
  | store call, .error e =>
    e.isDatabase = true ∨ e.isUnbindable = true ∧ ∃ t, ∃ p ∈ call.carried t, p.isBindable = false
  | isCancelled _, .error _ | cancelRun _, .error _ | finishRun .., .error _ => False
  | _, _ => True

namespace Interruption

variable {ν : Type} {all : List (Interruption ν)} {asked : List Request} {r : Request} {s s' : Service}
  {notes : List ν} {e : Failure}

/-- An interruption under which store calls fail only as a failing database makes them fail. It may let others
do anything, and make any other request fail in any way. -/
def IsOutage (i : Interruption ν) : Prop := i.point.isStore = true → ∀ e ∈ i.raises, e.isDatabase = true

theorem exists_raises_of_actAll (h : actAll all s = (some e, s', notes)) : ∃ i ∈ all, e ∈ i.raises := by
  induction all generalizing s notes with
  | nil => cases h
  | cons i all ih =>
    unfold actAll at h
    cases hraises : i.raises with
    | some f =>
      simp only [hraises] at h
      cases h
      exact ⟨i, List.mem_cons_self, hraises⟩
    | none =>
      simp only [hraises] at h
      rcases hrest : actAll all (i.act s).1 with ⟨failure, after, more⟩
      rw [hrest] at h
      cases h
      obtain ⟨j, hj, hraises⟩ := ih hrest
      exact ⟨j, List.mem_cons_of_mem i hj, hraises⟩

theorem mem_due {i : Interruption ν} (h : i ∈ due all asked r) : i ∈ all ∧ r.point? = some i.point := by
  unfold due at h
  cases hpoint : r.point? with
  | none =>
    rw [hpoint] at h
    cases h
  | some point =>
    simp only [hpoint, List.mem_filter, Bool.and_eq_true, beq_iff_eq] at h
    exact ⟨h.1, by rw [h.2.1]⟩

/-- What a request is told when an outage makes it fail. -/
theorem mayReply_of_actAll (hall : ∀ i ∈ all, i.IsOutage) (h : actAll (due all asked r) s = (some e, s', notes)) :
    r.MayReply (.error e) := by
  obtain ⟨i, hi, hraises⟩ := exists_raises_of_actAll h
  obtain ⟨hmem, hpoint⟩ := mem_due hi
  cases r with
  | store call =>
    have hstore : i.point.isStore = true := Option.some.inj hpoint ▸ call.isStore_point
    exact .inl (hall i hmem hstore e hraises)
  | isCancelled token => cases hpoint
  | cancelRun review => cases hpoint
  | finishRun review token => cases hpoint
  | fetchFiles | analyze | startRun => trivial

end Interruption

theorem Request.mayReply_perform (fetch : Fetcher) (worker : Nat) (s : Service) (r : Request) :
    r.MayReply (r.perform fetch worker s).1 := by
  cases r with
  | store call =>
    have hreply : (Request.perform fetch worker s (.store call)).1 = (call.perform s.now s.database).1 := rfl
    rw [hreply]
    cases h : (call.perform s.now s.database).1 with
    | ok reply => trivial
    | error e => exact (StoreCall.perform_error_cases h).imp_right fun h => ⟨h.1, s.database.tables, h.2.2⟩
  | fetchFiles installation owner name number => trivial
  | analyze file => trivial
  | startRun review => trivial
  | isCancelled token => trivial
  | cancelRun review => trivial
  | finishRun review token => trivial

/-! ## First requests -/

section First

variable {α ν : Type} {all : List (Interruption ν)} {r : Request} {s : Service}

/-- The service as it finds a request that is asked first, unless the request is made to fail. -/
def Interruption.found? (all : List (Interruption ν)) (r : Request) (s : Service) : Option Service :=
  match Interruption.actAll (Interruption.due all [] r) s with
  | (none, found, _) => some found
  | (some _, _, _) => none

variable (fetch : Fetcher) (worker : Nat)

theorem Program.runInterrupted_found {found : Service} (h : Interruption.found? all r s = some found)
    (next : Except Failure r.Reply → Program α) :
    ∃ c, (ask r next).runInterrupted all fetch worker { service := s } =
      (next (r.perform fetch worker found).1).runInterrupted all fetch worker c := by
  unfold Interruption.found? at h
  rw [runInterrupted]
  rcases hact : Interruption.actAll (Interruption.due all [] r) s with ⟨_ | e, after, notes⟩
  · rw [hact] at h
    cases h
    exact ⟨_, rfl⟩
  · rw [hact] at h
    cases h

theorem Program.runInterrupted_not_found (hall : ∀ i ∈ all, i.IsOutage) {call : StoreCall}
    (h : Interruption.found? all (.store call) s = none) (next : Except Failure call.Reply → Program α) :
    ∃ e c, e.isDatabase = true ∧
      (ask (.store call) next).runInterrupted all fetch worker { service := s } =
        (next (.error e)).runInterrupted all fetch worker c := by
  unfold Interruption.found? at h
  rw [runInterrupted]
  rcases hact : Interruption.actAll (Interruption.due all [] (.store call)) s with ⟨_ | e, after, notes⟩
  · rw [hact] at h
    cases h
  · obtain ⟨i, hi, hraises⟩ := Interruption.exists_raises_of_actAll hact
    obtain ⟨hmem, hpoint⟩ := Interruption.mem_due hi
    have hstore : i.point.isStore = true := Option.some.inj hpoint ▸ call.isStore_point
    exact ⟨e, _, hall i hmem hstore e hraises, rfl⟩

end First

/-! ## What programs end with -/

namespace Program

variable {α β : Type} {post : Except Failure α → Prop} {p : Program α}

/-- Whatever it may be told, a program ends like that. -/
def Ends (post : Except Failure α → Prop) : Program α → Prop
  | done a => post (.ok a)
  | failed e => post (.error e)
  | ask r next => ∀ reply, r.MayReply reply → (next reply).Ends post

theorem Ends.mono {post' : Except Failure α → Prop} (h : p.Ends post) (hpost : ∀ result, post result → post' result) :
    p.Ends post' := by
  induction p with
  | done a => exact hpost _ h
  | failed e => exact hpost _ h
  | ask r next ih =>
    intro reply hreply
    exact ih reply (h reply hreply)

/-- A program whose failures are all gone on with. -/
theorem rescue_ends {handle : Failure → Program α} (hok : ∀ a, post (.ok a)) (hhandle : ∀ e, (handle e).Ends post) :
    (p.rescue handle).Ends post := by
  induction p with
  | done a => exact hok a
  | failed e => exact hhandle e
  | ask r next ih =>
    intro reply _
    exact ih reply

/-- **However it is interrupted by outages**, a program ends as it may. -/
theorem Ends.runInterrupted {ν : Type} {all : List (Interruption ν)} (hall : ∀ i ∈ all, i.IsOutage) (h : p.Ends post)
    (fetch : Fetcher) (worker : Nat) (c : Course ν) : post (p.runInterrupted all fetch worker c).1 := by
  induction p generalizing c with
  | done a => exact h
  | failed e => exact h
  | ask r next ih =>
    unfold Program.runInterrupted
    rcases hact : Interruption.actAll (Interruption.due all c.asked r) c.service with ⟨_ | e, service, notes⟩
    · exact ih _ (h _ (Request.mayReply_perform fetch worker service r)) _
    · exact ih _ (h _ (Interruption.mayReply_of_actAll hall hact)) _

end Program

/-! ## What handlers end with -/

/-- The run that a call draws, as its reply tells. -/
def StoreCall.ticket? : (call : StoreCall) → call.Reply → Option Ticket
  | queue .., ticket => some ticket
  | move .., _ | addAnalysis .., _ | cancel .., _ | saveInstallation .., _ | saveRepositories .., _
  | dropRepositories .., _ | dropInstallation .., _ => none

/-- An outcome is returned. -/
def Returned (result : Except Failure Outcome) : Prop := ∃ outcome, result = .ok outcome

/-- A statement could not be given a value. -/
def Unbound (result : Except Failure Outcome) : Prop := ∃ e, result = .error e ∧ e.isUnbindable = true

theorem Returned.not_unbound {result : Except Failure Outcome} (h : Returned result) : ¬ Unbound result := by
  obtain ⟨outcome, rfl⟩ := h
  rintro ⟨e, he, -⟩
  cases he

/-- Failing a review ends with an outcome, whatever becomes of the review; only its id could be in the way. -/
theorem reportFailure_ends (review : Int) (error run : String) :
    (reportFailure review error (some run)).Ends fun result =>
      Returned result ∨ Unbound result ∧ fitsColumn review = false := by
  intro reply hreply
  cases reply with
  | ok moved => cases moved <;> exact .inl ⟨_, rfl⟩
  | error e =>
    rcases hreply with hdatabase | ⟨hunbindable, t, p, hp, hbinds⟩
    · simp only [hdatabase, if_true]
      exact .inl ⟨_, rfl⟩
    · -- the target and the run are plain
      have hreview : p = .int review := by
        have hcarried : p ∈ [.int review, .text (Named.name ReviewStatus.failed), .text run] := by
          rw [StoreCall.carried] at hp
          split at hp
          · exact hp
          · exact List.mem_cons.2 (.inl (List.mem_singleton.1 hp))
        simp only [List.mem_cons, List.not_mem_nil, or_false] at hcarried
        rcases hcarried with rfl | rfl | rfl <;> first | rfl | cases hbinds
      rw [hreview] at hbinds
      simp only [Failure.isDatabase_of_isUnbindable hunbindable]
      exact .inr ⟨⟨e, rfl, hunbindable⟩, hbinds⟩

namespace Handler

theorem cancelRuns_ends (reviews : List Int) (outcome : Outcome) :
    ((cancelRuns reviews).bind fun _ => .done outcome).Ends Returned := by
  induction reviews with
  | nil => exact ⟨outcome, rfl⟩
  | cons review reviews ih =>
    intro reply hreply
    cases reply with
    | ok found => exact ih
    | error e => cases hreply

/-- A handler begins with a store call, tells of the database when that fails, and ends with an outcome when
the call succeeds; but it passes on the failure for a value. -/
structure Begins (p : Program Outcome) (call : StoreCall)
    (next : Except Failure call.Reply → Program Outcome) : Prop where
  asks : p = .ask (.store call) next
  reports : ∀ {e : Failure}, e.isDatabase = true → ∃ outcome, next (.error e) = .done outcome
  passes : ∀ {e : Failure}, e.isUnbindable = true → next (.error e) = .failed e
  goesOn : ∀ reply, (next (.ok reply)).Ends fun result =>
    Returned result ∨ Unbound result ∧ ∃ ticket ∈ call.ticket? reply, fitsColumn ticket.review = false

theorem orReport_begins (action : String) (call : StoreCall) {next : call.Reply → Program Outcome}
    (hnext : ∀ reply, (next reply).Ends Returned) : ∃ goOn, Begins (orReport action call next) call goOn := by
  refine ⟨_, rfl, ?_, ?_, ?_⟩
  case refine_1 =>
    intro e hdatabase
    simp only [hdatabase, if_true]
    exact ⟨_, rfl⟩
  case refine_2 =>
    intro e hunbindable
    simp only [Failure.isDatabase_of_isUnbindable hunbindable]
    rfl
  case refine_3 =>
    intro reply
    exact (hnext reply).mono fun result => .inl

theorem review_begins (pullRequest : Event.PullRequest) (repository : Event.Repository)
    (installation : Event.Installation) :
    ∃ next,
      Begins (review pullRequest repository installation) (pullRequest.queueCall repository installation) next := by
  refine ⟨_, rfl, ?_, ?_, ?_⟩
  case refine_1 =>
    intro e hdatabase
    simp only [hdatabase, Bool.true_or, if_true]
    exact ⟨_, rfl⟩
  case refine_2 =>
    intro e hunbindable
    simp only [Failure.isDatabase_of_isUnbindable hunbindable, Failure.isRejection_of_isUnbindable hunbindable]
    rfl
  case refine_3 =>
    intro ticket
    -- whatever the run fails with, its review is failed
    apply Program.rescue_ends
    case hok =>
      intro outcome
      exact .inl ⟨outcome, rfl⟩
    case hhandle =>
      intro e
      apply (reportFailure_ends ticket.review e.message ticket.run).mono
      rintro result (h | ⟨h, hfits⟩)
      · exact .inl h
      · exact .inr ⟨h, ticket, rfl, hfits⟩

end Handler

namespace Handler.Begins

variable {p : Program Outcome} {call : StoreCall} {next : Except Failure call.Reply → Program Outcome} {ν : Type}
  {all : List (Interruption ν)} {s found : Service}

theorem returned_of_not_found (h : Begins p call next) (hall : ∀ i ∈ all, i.IsOutage)
    (hfound : Interruption.found? all (.store call) s = none) (fetch : Fetcher) (worker : Nat) :
    Returned (p.runInterrupted all fetch worker { service := s }).1 := by
  obtain ⟨e, c, hdatabase, hrun⟩ := Program.runInterrupted_not_found fetch worker hall hfound next
  obtain ⟨outcome, hreports⟩ := h.reports hdatabase
  rw [h.asks, hrun, hreports]
  exact ⟨outcome, rfl⟩

theorem returned_of_database (h : Begins p call next) (hfound : Interruption.found? all (.store call) s = some found)
    {e : Failure} (hperform : (call.perform found.now found.database).1 = .error e) (hdatabase : e.isDatabase = true)
    (fetch : Fetcher) (worker : Nat) : Returned (p.runInterrupted all fetch worker { service := s }).1 := by
  obtain ⟨c, hrun⟩ := Program.runInterrupted_found fetch worker hfound next
  have hreply : (Request.perform fetch worker found (.store call)).1 = .error e := hperform
  obtain ⟨outcome, hreports⟩ := h.reports hdatabase
  rw [h.asks, hrun, hreply, hreports]
  exact ⟨outcome, rfl⟩

theorem unbound_of_unbindable (h : Begins p call next)
    (hfound : Interruption.found? all (.store call) s = some found) {e : Failure}
    (hperform : (call.perform found.now found.database).1 = .error e) (hunbindable : e.isUnbindable = true)
    (fetch : Fetcher) (worker : Nat) : Unbound (p.runInterrupted all fetch worker { service := s }).1 := by
  obtain ⟨c, hrun⟩ := Program.runInterrupted_found fetch worker hfound next
  have hreply : (Request.perform fetch worker found (.store call)).1 = .error e := hperform
  rw [h.asks, hrun, hreply, h.passes hunbindable]
  exact ⟨e, rfl, hunbindable⟩

theorem ends_of_ok (h : Begins p call next) (hall : ∀ i ∈ all, i.IsOutage)
    (hfound : Interruption.found? all (.store call) s = some found) {reply : call.Reply}
    (hperform : (call.perform found.now found.database).1 = .ok reply) (fetch : Fetcher) (worker : Nat) :
    Returned (p.runInterrupted all fetch worker { service := s }).1 ∨
      Unbound (p.runInterrupted all fetch worker { service := s }).1 ∧
        ∃ ticket ∈ call.ticket? reply, fitsColumn ticket.review = false := by
  obtain ⟨c, hrun⟩ := Program.runInterrupted_found fetch worker hfound next
  have hreply : (Request.perform fetch worker found (.store call)).1 = .ok reply := hperform
  rw [h.asks, hrun, hreply]
  exact (h.goesOn reply).runInterrupted hall fetch worker c

end Handler.Begins

/-- The handler of an event begins with its call, or has nothing to do. -/
theorem Event.program_begins (event : Event) :
    (event.firstCall? = none ∧ ∃ outcome, event.program = .done outcome) ∨
    ∃ call next, event.firstCall? = some call ∧ Handler.Begins event.program call next := by
  have hdone : ∀ outcome : Outcome, (Program.done outcome).Ends Returned := fun outcome => ⟨outcome, rfl⟩
  cases event with
  | reviewDue action pullRequest repository installation =>
    obtain ⟨next, hbegins⟩ := Handler.review_begins pullRequest repository installation
    exact .inr ⟨_, next, rfl, hbegins⟩
  | pullRequestClosed pullRequest repository installation =>
    obtain ⟨next, hbegins⟩ := Handler.orReport_begins "cancel_reviews"
      (.cancel pullRequest.number repository.fullName Progress.closedReason) fun reviews =>
        Handler.cancelRuns_ends reviews _
    exact .inr ⟨_, next, rfl, hbegins⟩
  | installationCreated installation repositories =>
    obtain ⟨id, account⟩ := installation
    cases account with
    | none => exact .inl ⟨rfl, _, rfl⟩
    | some account =>
      obtain ⟨next, hbegins⟩ := Handler.orReport_begins "record_installation"
        (.saveInstallation id account.login account.kind repositories) fun count => hdone _
      exact .inr ⟨_, next, rfl, hbegins⟩
  | installationDeleted installation =>
    obtain ⟨next, hbegins⟩ := Handler.orReport_begins "remove_installation" (.dropInstallation installation.id)
      fun removal => Handler.cancelRuns_ends removal.reviews _
    exact .inr ⟨_, next, rfl, hbegins⟩
  | repositoriesAdded installation repositories =>
    obtain ⟨next, hbegins⟩ := Handler.orReport_begins "add_repositories"
      (.saveRepositories installation.id repositories (installation.account.map (·.login))
        ((installation.account.map (·.kind)).getD "User")) fun count => hdone _
    exact .inr ⟨_, next, rfl, hbegins⟩
  | repositoriesRemoved installation repositories =>
    obtain ⟨next, hbegins⟩ := Handler.orReport_begins "remove_repositories"
      (.dropRepositories installation.id (repositories.map (·.id))) fun count => hdone _
    exact .inr ⟨_, next, rfl, hbegins⟩

/-- The reviews that the handler of an event queues have ids that fit a column. -/
def Event.QueuesFitting {ν : Type} (event : Event) (all : List (Interruption ν)) (s : Service) : Prop :=
  ∀ call ∈ event.firstCall?, ∀ found ∈ Interruption.found? all (.store call) s, ∀ reply,
    (call.perform found.now found.database).1 = .ok reply →
    ∀ ticket ∈ call.ticket? reply, fitsColumn ticket.review = true

/-- **When a handler fails.** Whatever the listing gives, whatever others do meanwhile and whenever the database
fails: the handler of an event returns an outcome, or fails as a value could not be bound. It does the latter exactly
when the call that it begins with finds the tables and carries an integer that fits no column or a text that cannot be
encoded. -/
theorem handler_fails_iff {ν : Type} (event : Event) {all : List (Interruption ν)} (hall : ∀ i ∈ all, i.IsOutage)
    (fetch : Fetcher) (worker : Nat) (s : Service) :
    let result := (event.program.runInterrupted all fetch worker { service := s }).1
    (Returned result ∨ Unbound result) ∧
    (event.QueuesFitting all s →
      (Unbound result ↔
        ∃ call ∈ event.firstCall?, ∃ found ∈ Interruption.found? all (.store call) s,
          found.database.Available ∧ ∃ p ∈ call.carried found.database.tables, p.isBindable = false)) := by
  intro result
  obtain ⟨hnone, outcome, hprogram⟩ | ⟨call, next, hcall, hbegins⟩ := event.program_begins
  · have hreturned : Returned result := by
      refine ⟨outcome, ?_⟩
      show (event.program.runInterrupted all fetch worker { service := s }).1 = _
      rw [hprogram]
      rfl
    refine ⟨.inl hreturned, fun _ => ?_⟩
    simp [hreturned.not_unbound, hnone]
  · simp only [hcall, Option.mem_some_iff, exists_eq_left']
    cases hfound : Interruption.found? all (.store call) s with
    | none =>
      have hreturned : Returned result := hbegins.returned_of_not_found hall hfound fetch worker
      refine ⟨.inl hreturned, fun _ => ?_⟩
      simp [hreturned.not_unbound]
    | some found =>
      have hunbindable := @StoreCall.perform_unbindable_iff call found.now found.database
      simp only [Option.mem_some_iff, exists_eq_left', ← hunbindable]
      cases hperform : (call.perform found.now found.database).1 with
      | ok reply =>
        have hends := hbegins.ends_of_ok hall hfound hperform fetch worker
        refine ⟨hends.imp_right And.left, ?_⟩
        intro hfitting
        rcases hends with hreturned | ⟨-, ticket, hticket, hunfit⟩
        · exact iff_of_false hreturned.not_unbound (by simp)
        · rw [hfitting call hcall found hfound reply hperform ticket hticket] at hunfit
          cases hunfit
      | error e =>
        rcases StoreCall.perform_error_cases hperform with hdatabase | ⟨hvalue, -⟩
        · have hreturned : Returned result := hbegins.returned_of_database hfound hperform hdatabase fetch worker
          refine ⟨.inl hreturned, fun _ => iff_of_false hreturned.not_unbound ?_⟩
          rintro ⟨e', he, hvalue⟩
          obtain rfl : e = e' := Except.error.inj he
          rw [Failure.isDatabase_of_isUnbindable hvalue] at hdatabase
          cases hdatabase
        · have hfails : Unbound result := hbegins.unbound_of_unbindable hfound hperform hvalue fetch worker
          exact ⟨.inr hfails, fun _ => iff_of_true hfails ⟨e, rfl, hvalue⟩⟩

/-- The removal of an installation whose id fits no column. -/
def oddUninstallation : Event := .installationDeleted { id := 9223372036854775808 }

/-- A review due in a repository whose name cannot be encoded. -/
def oddlyNamed : Event :=
  .reviewDue .opened { number := 12 } { id := 501, fullName := .unpaired } { id := 77 }

/-- Their handlers fail, with nothing else the matter. -/
theorem oddUninstallation_fails :
    (oddUninstallation.program.run (fun _ _ _ _ => .ok []) 0 { now := 0 }).1 = .error .integerRange ∧
      (oddlyNamed.program.run (fun _ _ _ _ => .ok []) 0 { now := 0 }).1 =
        .error (.unencodable { first := ⟨0⟩, position := 0, count := 1 }) :=
  ⟨rfl, rfl⟩

/-- The database stops answering before the first file is recorded. -/
def downWhileRecording : Interruption Unit where
  point := .addAnalysis
  call := 1
  act s := ({ s with database := s.database.answering false }, [])
  raises := none

/-- The handler of a review during which the database stops answering returns; that of the odd removal does
not. -/
theorem handler_fails_iff_recording :
    Returned ((dueReview .opened).program.runInterrupted [downWhileRecording] (fun _ _ _ _ => .ok twoFiles) 0
      { service := { now := 0 } }).1 ∧
    Unbound (oddUninstallation.program.runInterrupted [downWhileRecording] (fun _ _ _ _ => .ok []) 0
      { service := { now := 0 } }).1 := by
  have hall : ∀ i ∈ [downWhileRecording], i.IsOutage := by
    intro i hi _ e he
    cases List.mem_singleton.1 hi
    cases he
  constructor
  · have hfitting : (dueReview .opened).QueuesFitting [downWhileRecording] { now := 0 } := by
      intro call hcall found hfound reply hreply ticket hticket
      cases hcall
      cases hfound
      cases hreply
      cases hticket
      decide
    obtain ⟨hends, hiff⟩ :=
      handler_fails_iff (dueReview .opened) hall (fun _ _ _ _ => .ok twoFiles) 0 { now := 0 }
    rcases hends with hreturned | hfails
    · exact hreturned
    · obtain ⟨call, hcall, found, -, -, p, hp, hunbound⟩ := (hiff hfitting).1 hfails
      cases hcall
      have hbinds : ∀ p ∈ ([.int 12, .text "acme/widgets", .int 77] : List Param), p.isBindable = true := by decide
      rw [hbinds p hp] at hunbound
      cases hunbound
  · have hfitting : oddUninstallation.QueuesFitting [downWhileRecording] { now := 0 } := by
      intro call hcall found hfound reply hreply ticket hticket
      cases hcall
      cases hticket
    obtain ⟨-, hiff⟩ := handler_fails_iff oddUninstallation hall (fun _ _ _ _ => .ok []) 0 { now := 0 }
    refine (hiff hfitting).2 ⟨_, rfl, _, rfl, ⟨rfl, rfl⟩, .int 9223372036854775808, ?_, ?_⟩
    · exact List.mem_singleton_self _
    · decide

end PullReview
