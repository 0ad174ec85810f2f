import PullReview.Proofs.Run.Arrival
import PullReview.Proofs.Store.Merged

/-!
# Handlers put together

Handlers are put together from requests: a program goes on with the value of another, or with its failure, or runs
a last one after it. A property that goes over to what is put together (`Program.Composes`) holds of the handler
of every event once it holds of its requests (`Event.process_of`).
-/

namespace PullReview

/-- The store call that the handler of an event begins with. -/
def Event.firstCall? : Event → Option StoreCall
  | .reviewDue _ pullRequest repository installation => some (pullRequest.queueCall repository installation)
  | event => event.soleCall?

namespace Request

/-- What a run asks, and what looks after tokens. -/
def IsOfRun : Request → Prop
  | .store (.move ..) | .store (.addAnalysis ..) => True
  | .store _ => False
  | _ => True

/-- A best-effort write. -/
def isNote : Request → Bool
  | .store (.move _ _ progress _) => progress.isNote
  | _ => false

end Request

/-- A property of programs goes over to what is put together from them. Programs that ask an allowed request have
it if all have it that follow the reply; best-effort writes have it as they are. -/
structure Program.Composes (allowed : Request → Prop) (P : ∀ {α : Type}, Program α → Prop) : Prop where
  done : ∀ {α : Type} (a : α), P (.done a)
  failed : ∀ {α : Type} (e : Failure), P (.failed e : Program α)
  ask : ∀ {α : Type} {r : Request} {next : Except Failure r.Reply → Program α}, allowed r →
    (∀ reply, P (next reply)) → P (.ask r next)
  bind : ∀ {α β : Type} {p : Program α} {f : α → Program β}, P p → (∀ a, P (f a)) → P (p.bind f)
  rescue : ∀ {α : Type} {p : Program α} {handle : Failure → Program α}, P p → (∀ e, P (handle e)) →
    P (p.rescue handle)
  andFinally : ∀ {α : Type} {p : Program α} {last : Program Unit}, P p → P last → P (p.andFinally last)
  ofRun : ∀ r : Request, r.IsOfRun → r.isNote = false → allowed r
  note : ∀ (r : Run) (progress : Progress), P (r.note progress)

section Composes

variable {allowed : Request → Prop} {P : ∀ {α : Type}, Program α → Prop}

namespace Program.Composes

theorem request (h : Composes allowed P) {r : Request} (hr : r.IsOfRun) (hnote : r.isNote = false) :
    P (Program.request r) := by
  refine h.ask (h.ofRun r hr hnote) fun reply => ?_
  cases reply with
  | ok a => exact h.done a
  | error e => exact h.failed e

/-- A failure of the database is told in an outcome. -/
theorem told (h : Composes allowed P) {c : Prop} [Decidable c] (outcome : Outcome) (e : Failure) :
    P (if c then .done outcome else .failed e) := by
  split
  · exact h.done outcome
  · exact h.failed e

end Program.Composes

theorem reportFailure_of (h : Program.Composes allowed P) (review : Int) (error : String) (run : Option Text) :
    P (reportFailure review error run) := by
  refine h.ask (h.ofRun _ trivial rfl) fun reply => ?_
  rcases reply with e | (_ | _)
  · exact h.told _ e
  · exact h.done _
  · exact h.done _

namespace Run

theorem analyzeFiles_of (h : Program.Composes allowed P) (r : Run) (token : Token) (total : Nat)
    (files : List ChangedFile) (tally : Tally) : P (r.analyzeFiles token total files tally) := by
  induction files generalizing tally with
  | nil => exact h.done _
  | cons file files ih =>
    refine h.bind (h.request (r := .isCancelled token) trivial rfl) fun set => ?_
    split
    · exact h.done _
    refine h.bind (h.request (r := .analyze file) trivial rfl) fun analysis => ?_
    refine h.bind (h.request (r := .store (.addAnalysis ..)) trivial rfl) fun recorded => ?_
    split
    · exact h.done _
    · exact h.bind (h.note r _) fun _ => ih _

theorem complete_of (h : Program.Composes allowed P) (r : Run) (tally : Tally) : P (r.complete tally) := by
  refine h.bind (h.note r _) fun _ => ?_
  refine h.bind (h.request (r := .store (.move ..)) trivial rfl) fun moved => ?_
  split
  · exact h.done _
  · exact h.done _

theorem steps_of (h : Program.Composes allowed P) (r : Run) (token : Token) : P (r.steps token) := by
  refine h.bind (h.request (r := .store (.move ..)) trivial rfl) fun moved => ?_
  split
  · exact h.done _
  refine h.bind (h.request (r := .fetchFiles ..) trivial rfl) fun files => ?_
  refine h.bind (h.note r _) fun _ => ?_
  refine h.bind (analyzeFiles_of h r token _ files _) fun ended => ?_
  cases ended with
  | error reason => exact h.done _
  | ok tally => exact complete_of h r tally

theorem program_of (h : Program.Composes allowed P) (r : Run) : P r.program := by
  refine h.bind (h.request (r := .startRun r.review) trivial rfl) fun token => ?_
  have hattempt : P (r.attempt token) := h.rescue (steps_of h r token) fun e => reportFailure_of h ..
  exact h.andFinally hattempt (h.request trivial rfl)

end Run

namespace Handler

theorem cancelRuns_of (h : Program.Composes allowed P) (reviews : List Int) : P (cancelRuns reviews) := by
  induction reviews with
  | nil => exact h.done ()
  | cons v reviews ih => exact h.bind (h.request (r := .cancelRun v) trivial rfl) fun _ => ih

theorem orReport_of (h : Program.Composes allowed P) {action : String} {call : StoreCall}
    {next : call.Reply → Program Outcome} (hcall : allowed (.store call)) (hnext : ∀ reply, P (next reply)) :
    P (orReport action call next) := by
  refine h.ask hcall fun reply => ?_
  cases reply with
  | ok reply => exact hnext reply
  | error e => exact h.told _ e

end Handler

/-- **What holds of handlers.** A property that goes over to what is put together holds of the handler of an event,
if the call of the event is allowed. -/
theorem Event.process_of (h : Program.Composes allowed P) {event : Event}
    (hcall : ∀ call ∈ event.firstCall?, allowed (.store call)) : P event.process := by
  suffices hprogram : P event.program from h.rescue hprogram fun _ => h.done _
  have hcancel : ∀ (reviews : List Int) (outcome : Outcome),
      P ((Handler.cancelRuns reviews).bind fun _ => .done outcome) := by
    intro reviews outcome
    exact h.bind (Handler.cancelRuns_of h reviews) fun _ => h.done outcome
  cases event with
  | reviewDue action pullRequest repository installation =>
    refine h.ask (hcall _ rfl) fun reply => ?_
    cases reply with
    | error e => exact h.told _ e
    | ok ticket => exact h.rescue (Run.program_of h _) fun e => reportFailure_of h ..
  | pullRequestClosed pullRequest repository installation =>
    exact Handler.orReport_of h (hcall _ rfl) fun reviews => hcancel reviews _
  | installationCreated installation repositories =>
    obtain ⟨id, account⟩ := installation
    cases account with
    | none => exact h.done _
    | some account => exact Handler.orReport_of h (hcall _ rfl) fun _ => h.done _
  | installationDeleted installation =>
    exact Handler.orReport_of h (hcall _ rfl) fun removal => hcancel removal.reviews _
  | repositoriesAdded installation repositories => exact Handler.orReport_of h (hcall _ rfl) fun _ => h.done _
  | repositoriesRemoved installation repositories => exact Handler.orReport_of h (hcall _ rfl) fun _ => h.done _

end Composes

end PullReview
