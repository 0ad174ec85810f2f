import PullReview.Proofs.Run.Returning

/-!
# Runs with faults

A fault makes the analysis or the recording of a file fail, by the number of the request, and does nothing else.
An interrupted run is put together from its parts as a run by itself is, with the requests asked so far
(`Program.runInterrupted_bind`); a request under faults either is performed or fails as the first of them says
(`Course.make_of_raised`, `Course.make_of_not_raised`).
-/

namespace PullReview

variable {α β ν : Type} {all : List (Interruption ν)} {fetch : Fetcher} {worker : Nat} {c c' : Course ν}

/-! ## One request and then another -/

/-- Makes a request in an interrupted run. -/
def Course.make (all : List (Interruption ν)) (fetch : Fetcher) (worker : Nat) (c : Course ν) (r : Request) :
    Except Failure r.Reply × Course ν :=
  match Interruption.actAll (Interruption.due all c.asked r) c.service with
  | (some e, service, notes) => (.error e, { service, asked := c.asked ++ [r], notes := c.notes ++ notes })
  | (none, service, notes) =>
    ((r.perform fetch worker service).1,
      { service := (r.perform fetch worker service).2, asked := c.asked ++ [r], notes := c.notes ++ notes })

namespace Program

theorem runInterrupted_make (r : Request) (next : Except Failure r.Reply → Program α) :
    (ask r next).runInterrupted all fetch worker c =
      (next (c.make all fetch worker r).1).runInterrupted all fetch worker (c.make all fetch worker r).2 := by
  rw [runInterrupted, Course.make]
  rcases Interruption.actAll (Interruption.due all c.asked r) c.service with ⟨_ | e, service, notes⟩
  · rfl
  · rfl

theorem runInterrupted_bind (p : Program α) (f : α → Program β) :
    (p.bind f).runInterrupted all fetch worker c =
      match p.runInterrupted all fetch worker c with
      | (.ok a, c) => (f a).runInterrupted all fetch worker c
      | (.error e, c) => (.error e, c) := by
  induction p generalizing c with
  | done => rfl
  | failed => rfl
  | ask r next ih =>
    rw [runInterrupted_make, ← ih]
    exact runInterrupted_make r fun reply => (next reply).bind f

theorem runInterrupted_rescue (p : Program α) (handle : Failure → Program α) :
    (p.rescue handle).runInterrupted all fetch worker c =
      match p.runInterrupted all fetch worker c with
      | (.ok a, c) => (.ok a, c)
      | (.error e, c) => (handle e).runInterrupted all fetch worker c := by
  induction p generalizing c with
  | done => rfl
  | failed => rfl
  | ask r next ih =>
    rw [runInterrupted_make, ← ih]
    exact runInterrupted_make r fun reply => (next reply).rescue handle

theorem runInterrupted_andFinally (p : Program α) (last : Program Unit) :
    (p.andFinally last).runInterrupted all fetch worker c =
      match p.runInterrupted all fetch worker c with
      | (result, c) =>
        match last.runInterrupted all fetch worker c with
        | (.ok (), c) => (result, c)
        | (.error e, c) => (.error e, c) := by
  induction p generalizing c with
  | done a =>
    refine (runInterrupted_bind last fun _ => done a).trans ?_
    simp only [runInterrupted]
    rcases last.runInterrupted all fetch worker c with ⟨e | u, after⟩ <;> rfl
  | failed e =>
    refine (runInterrupted_bind last fun _ => failed e).trans ?_
    simp only [runInterrupted]
    rcases last.runInterrupted all fetch worker c with ⟨e | u, after⟩ <;> rfl
  | ask r next ih =>
    rw [runInterrupted_make, ← ih]
    exact runInterrupted_make r fun reply => (next reply).andFinally last

theorem runInterrupted_ask {r : Request} {next : Except Failure r.Reply → Program α} {reply : Except Failure r.Reply}
    (h : c.make all fetch worker r = (reply, c')) :
    (ask r next).runInterrupted all fetch worker c = (next reply).runInterrupted all fetch worker c' := by
  rw [runInterrupted_make, h]

theorem runInterrupted_bind_ok {p : Program α} {f : α → Program β} {a : α}
    (h : p.runInterrupted all fetch worker c = (.ok a, c')) :
    (p.bind f).runInterrupted all fetch worker c = (f a).runInterrupted all fetch worker c' := by
  rw [runInterrupted_bind, h]

theorem runInterrupted_bind_error {p : Program α} {f : α → Program β} {e : Failure}
    (h : p.runInterrupted all fetch worker c = (.error e, c')) :
    (p.bind f).runInterrupted all fetch worker c = (.error e, c') := by
  rw [runInterrupted_bind, h]

theorem runInterrupted_rescue_ok {p : Program α} {handle : Failure → Program α} {a : α}
    (h : p.runInterrupted all fetch worker c = (.ok a, c')) :
    (p.rescue handle).runInterrupted all fetch worker c = (.ok a, c') := by
  rw [runInterrupted_rescue, h]

theorem runInterrupted_andFinally_ok {p : Program α} {last : Program Unit} {result : Except Failure α}
    {c'' : Course ν} (h : p.runInterrupted all fetch worker c = (result, c'))
    (hlast : last.runInterrupted all fetch worker c' = (.ok (), c'')) :
    (p.andFinally last).runInterrupted all fetch worker c = (result, c'') := by
  rw [runInterrupted_andFinally, h]
  dsimp only
  rw [hlast]

theorem runInterrupted_request {r : Request} {reply : Except Failure r.Reply}
    (h : c.make all fetch worker r = (reply, c')) :
    (request r).runInterrupted all fetch worker c = (reply, c') := by
  rw [request, runInterrupted_ask h]
  cases reply <;> rfl

/-- A request is made and replied to. -/
theorem runInterrupted_request_ok {r : Request} {f : r.Reply → Program β} {a : r.Reply}
    (h : c.make all fetch worker r = (.ok a, c')) :
    ((request r).bind f).runInterrupted all fetch worker c = (f a).runInterrupted all fetch worker c' :=
  runInterrupted_bind_ok (runInterrupted_request h)

/-- A request is made and fails. -/
theorem runInterrupted_request_error {r : Request} {f : r.Reply → Program β} {e : Failure}
    (h : c.make all fetch worker r = (.error e, c')) :
    ((request r).bind f).runInterrupted all fetch worker c = (.error e, c') :=
  runInterrupted_bind_error (runInterrupted_request h)

end Program

/-! ## Faults -/

namespace Interruption

/-- An interruption that lets nobody act, and only makes the analysis or the recording of a file fail. -/
structure IsFault (i : Interruption ν) : Prop where
  idle : ∀ s, i.act s = (s, [])
  point : i.point = .analyze ∨ i.point = .addAnalysis

/-- The failure that the `call`th request at a point is made to meet. -/
def raised? (all : List (Interruption ν)) (point : Point) (call : Nat) : Option Failure :=
  (all.filter fun i => i.point == point && i.call == call).findSome? (·.raises)

theorem actAll_of_isFault (h : ∀ i ∈ all, i.IsFault) (s : Service) :
    actAll all s = (all.findSome? (·.raises), s, []) := by
  induction all with
  | nil => rfl
  | cons i all ih =>
    rw [List.forall_mem_cons] at h
    simp only [actAll, h.1.idle, List.findSome?_cons]
    cases i.raises with
    | some e => rfl
    | none => simp only [ih h.2, List.append_nil]

end Interruption

/-- A request that no fault strikes. -/
structure Request.Spared (r : Request) : Prop where
  analyze : r.point? ≠ some .analyze
  addAnalysis : r.point? ≠ some .addAnalysis

theorem Request.Spared.of_point {r : Request} (point : Option Point) (hr : r.point? = point)
    (h : point ≠ some .analyze ∧ point ≠ some .addAnalysis) : r.Spared := by
  subst hr
  exact ⟨h.1, h.2⟩

theorem Request.spared_move (review : Int) (target : Text) (progress : Progress) (run : Option Text) :
    (store (.move review target progress run)).Spared :=
  .of_point (some .move) rfl (by decide)

namespace Course

/-- The number of the requests at a point asked so far. -/
def calls (c : Course ν) (point : Point) : Nat := c.asked.countP (·.point? == some point)

/-- The course after a request that leaves a service. -/
def after (c : Course ν) (r : Request) (service : Service) : Course ν := { c with service, asked := c.asked ++ [r] }

/-- The failure that a request is made to meet. -/
def fault? (all : List (Interruption ν)) (c : Course ν) (r : Request) : Option Failure :=
  (Interruption.due all c.asked r).findSome? (·.raises)

variable {r : Request} {e : Failure}

theorem calls_after (c : Course ν) (r : Request) (s : Service) (point : Point) :
    (c.after r s).calls point = c.calls point + if r.point? = some point then 1 else 0 := by
  simp [calls, after, List.countP_append, List.countP_singleton]

theorem fault?_of_point {point : Point} (hr : r.point? = some point) :
    c.fault? all r = Interruption.raised? all point (c.calls point + 1) := by
  rw [fault?, Interruption.due, hr]
  rfl

theorem fault?_of_spared (h : ∀ i ∈ all, i.IsFault) (hr : r.Spared) : c.fault? all r = none := by
  refine List.findSome?_eq_none_iff.2 fun i hi => ?_
  obtain ⟨hmem, hpoint⟩ := Interruption.mem_due hi
  rcases (h i hmem).point with heq | heq
  · exact absurd (hpoint.trans (congrArg some heq)) hr.analyze
  · exact absurd (hpoint.trans (congrArg some heq)) hr.addAnalysis

theorem make_eq (h : ∀ i ∈ all, i.IsFault) (fetch : Fetcher) (worker : Nat) (c : Course ν) (r : Request) :
    c.make all fetch worker r =
      match c.fault? all r with
      | some e => (.error e, c.after r c.service)
      | none => ((r.perform fetch worker c.service).1, c.after r (r.perform fetch worker c.service).2) := by
  have hdue : ∀ i ∈ Interruption.due all c.asked r, i.IsFault := fun i hi => h i (Interruption.mem_due hi).1
  rw [make, Interruption.actAll_of_isFault hdue, fault?]
  cases (Interruption.due all c.asked r).findSome? (·.raises) with
  | some e => simp only [List.append_nil, after]
  | none => simp only [List.append_nil, after]

theorem make_of_raised (h : ∀ i ∈ all, i.IsFault) (hfault : c.fault? all r = some e) :
    c.make all fetch worker r = (.error e, c.after r c.service) := by
  rw [make_eq h, hfault]

theorem make_of_not_raised (h : ∀ i ∈ all, i.IsFault) (hfault : c.fault? all r = none)
    {reply : Except Failure r.Reply} {s : Service} (hperform : r.perform fetch worker c.service = (reply, s)) :
    c.make all fetch worker r = (reply, c.after r s) := by
  rw [make_eq h, hfault, hperform]

theorem make_of_spared (h : ∀ i ∈ all, i.IsFault) (hr : r.Spared) {reply : Except Failure r.Reply} {s : Service}
    (hperform : r.perform fetch worker c.service = (reply, s)) :
    c.make all fetch worker r = (reply, c.after r s) :=
  make_of_not_raised h (fault?_of_spared h hr) hperform

end Course

/-- Whatever holds of the database and is kept by every request is kept by every run with faults. -/
theorem Program.runInterrupted_keeps (h : ∀ i ∈ all, i.IsFault) (holds : Database → Prop)
    (hstep : ∀ s r, holds s.database → holds (Request.perform fetch worker s r).2.database) (p : Program α)
    (hc : holds c.service.database) : holds (p.runInterrupted all fetch worker c).2.service.database := by
  induction p generalizing c with
  | done | failed => exact hc
  | ask r next ih =>
    rw [runInterrupted_make]
    refine ih _ ?_
    rw [Course.make_eq h]
    cases c.fault? all r with
    | some e => exact hc
    | none => exact hstep c.service r hc

end PullReview
