import PullReview.Run.Program

/-!
# Running programs

A service is the database, the clock and a cancellation registry for each worker. Running a program
performs its requests one after the other. In an interrupted run, others act on the service just
before chosen requests, and may make such a request fail instead.

| here | there |
| --- | --- |
| `Service` | `ReviewLifecycle` (review_lifecycle:86-97), one for each worker, on one `ReviewStore` |
| `Fetcher` | `ChangedFilesFetcher` |
| `Interruption` | other threads, and a collaborator that raises, between two calls |
-/

namespace PullReview

structure Service where
  database : Database := {}
  now : Moment
  /-- The registry of each worker. -/
  cancellations : Nat → Cancellations := fun _ => {}

/-- What the listing of changed files gives for an installation, an owner, a name and a number. -/
abbrev Fetcher := Int → Text → Text → Int → Except Failure (List ChangedFile)

namespace Service

/-- The service with another registry for a worker. -/
def withCancellations (s : Service) (worker : Nat) (c : Cancellations) : Service :=
  { s with cancellations := fun w => if w = worker then c else s.cancellations w }

end Service

/-- Performs a request of a worker: the reply or failure, and the service after it. -/
def Request.perform (fetch : Fetcher) (worker : Nat) (s : Service) :
    (r : Request) → Except Failure r.Reply × Service
  | store call =>
    let (reply, database) := call.perform s.now s.database
    (reply, { s with database })
  | fetchFiles installation owner name number => (fetch installation owner name number, s)
  | analyze file => (file.analyze.mapError .longNumeral, s)
  | startRun review =>
    let (token, c) := (s.cancellations worker).register review
    (.ok token, s.withCancellations worker c)
  | isCancelled token => (.ok ((s.cancellations worker).isSet token), s)
  | cancelRun review =>
    let (found, c) := (s.cancellations worker).cancel review
    (.ok found, s.withCancellations worker c)
  | finishRun review token =>
    (.ok (), s.withCancellations worker ((s.cancellations worker).release review token))

/-- Runs a program of a worker by itself. -/
def Program.run (fetch : Fetcher) (worker : Nat) : Program α → Service → Except Failure α × Service
  | done a, s => (.ok a, s)
  | failed e, s => (.error e, s)
  | ask r next, s =>
    let (reply, s) := r.perform fetch worker s
    (next reply).run fetch worker s

namespace Program

/-- Running one program and then another. -/
theorem run_bind (p : Program α) (f : α → Program β) (fetch : Fetcher) (worker : Nat) (s : Service) :
    (p.bind f).run fetch worker s =
      match p.run fetch worker s with
      | (.ok a, s) => (f a).run fetch worker s
      | (.error e, s) => (.error e, s) := by
  induction p generalizing s with
  | done => rfl
  | failed => rfl
  | ask r next ih => exact ih _ _

theorem run_rescue (p : Program α) (handle : Failure → Program α) (fetch : Fetcher) (worker : Nat)
    (s : Service) :
    (p.rescue handle).run fetch worker s =
      match p.run fetch worker s with
      | (.ok a, s) => (.ok a, s)
      | (.error e, s) => (handle e).run fetch worker s := by
  induction p generalizing s with
  | done => rfl
  | failed => rfl
  | ask r next ih => exact ih _ _

theorem run_andFinally (p : Program α) (last : Program Unit) (fetch : Fetcher) (worker : Nat)
    (s : Service) :
    (p.andFinally last).run fetch worker s =
      match p.run fetch worker s with
      | (result, s) =>
        match last.run fetch worker s with
        | (.ok (), s) => (result, s)
        | (.error e, s) => (.error e, s) := by
  induction p generalizing s with
  | done a =>
    refine (run_bind last (fun _ => done a) fetch worker s).trans ?_
    simp only [run]
    split <;> simp_all
  | failed e =>
    refine (run_bind last (fun _ => failed e) fetch worker s).trans ?_
    simp only [run]
    split <;> simp_all
  | ask r next ih => exact ih _ _

end Program

/-! ## Interrupted runs -/

/-- What steps in before the `call`th request at a point: it acts on the service, leaving notes, and
may make the request fail. -/
structure Interruption (ν : Type) where
  point : Point
  call : Nat
  act : Service → Service × List ν
  raises : Option Failure

/-- Lets interruptions act in order, up to the first that makes the request fail. -/
def Interruption.actAll : List (Interruption ν) → Service → Option Failure × Service × List ν
  | [], s => (none, s, [])
  | i :: is, s =>
    let (s, notes) := i.act s
    match i.raises with
    | some e => (some e, s, notes)
    | none =>
      let (failure, s, more) := actAll is s
      (failure, s, notes ++ more)

/-- An interrupted run so far: the service, the requests asked, and the notes left. -/
structure Course (ν : Type) where
  service : Service
  asked : List Request := []
  notes : List ν := []

/-- The interruptions due before a request, given the requests asked before it. -/
def Interruption.due (all : List (Interruption ν)) (asked : List Request) (r : Request) :
    List (Interruption ν) :=
  match r.point? with
  | none => []
  | some point =>
    let call := asked.countP (·.point? == some point) + 1
    all.filter fun i => i.point == point && i.call == call

/-- Runs a program of a worker with interruptions. -/
def Program.runInterrupted (all : List (Interruption ν)) (fetch : Fetcher) (worker : Nat) :
    Program α → Course ν → Except Failure α × Course ν
  | done a, c => (.ok a, c)
  | failed e, c => (.error e, c)
  | ask r next, c =>
    let (failure, service, notes) := Interruption.actAll (Interruption.due all c.asked r) c.service
    let c : Course ν := { service, asked := c.asked ++ [r], notes := c.notes ++ notes }
    match failure with
    | some e => (next (.error e)).runInterrupted all fetch worker c
    | none =>
      let (reply, service) := r.perform fetch worker c.service
      (next reply).runInterrupted all fetch worker { c with service }

/-- The arguments of the listings asked for in a run. -/
def Course.fetches (c : Course ν) : List (Int × Text × Text × Int) :=
  c.asked.filterMap fun
    | .fetchFiles installation owner name number => some (installation, owner, name, number)
    | _ => none

/-- A run that nothing interrupts. -/
theorem Program.runInterrupted_nil (p : Program α) (fetch : Fetcher) (worker : Nat) (c : Course ν) :
    let (result, after) := p.runInterrupted [] fetch worker c
    (result, after.service) = p.run fetch worker c.service ∧ after.notes = c.notes := by
  induction p generalizing c with
  | done | failed => exact ⟨rfl, rfl⟩
  | ask r next ih =>
    have hdue : Interruption.due [] c.asked r = ([] : List (Interruption ν)) := by
      unfold Interruption.due; split <;> rfl
    simp only [runInterrupted, hdue, Interruption.actAll, List.append_nil]
    exact ih _ _

end PullReview
