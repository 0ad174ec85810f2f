import PullReview.Proofs.Store.Dossier
import Mathlib.Data.List.Induction

/-!
# The life of a review

Store calls made one after the other, each at a moment of its own and with the database up or down.
Between two queueings of a pull request the status of its review only goes along
`ReviewStatus.successors`, and a review that is completed, failed or cancelled stays as it is, with all
its rows, until its pull request is queued again (`review_life`).
-/

namespace PullReview

/-- A store call with the moment at which it is made, while the database is up or down. -/
structure TimedCall where
  now : Moment
  isUp : Bool := true
  call : StoreCall

/-- The pull request whose review a call queues. -/
def StoreCall.queued? : StoreCall → Option (Int × Text)
  | queue number repository _ _ => some (number, repository)
  | _ => none

/-- The database as a call finds it. -/
def TimedCall.finds (c : TimedCall) (db : Database) : Database := { db with isUp := c.isUp }

def TimedCall.perform (c : TimedCall) (db : Database) : Except Failure c.call.Reply × Database :=
  c.call.perform c.now (c.finds db)

namespace Database

/-- The database after a call. -/
def performed (db : Database) (c : TimedCall) : Database := (c.perform db).2

/-- The database after calls made one after the other. -/
def after (db : Database) (calls : List TimedCall) : Database := calls.foldl performed db

/-- Whether a call queues the review of a pull request and succeeds. -/
def queuesOn (db : Database) (c : TimedCall) (key : Int × Text) : Bool :=
  c.call.queued? == some key && (c.perform db).1.isOk

/-- Whether none of the calls queues the review of a pull request. -/
def neverQueues (key : Int × Text) : Database → List TimedCall → Bool
  | _, [] => true
  | db, c :: calls => !db.queuesOn c key && neverQueues key (db.performed c) calls

/-- The status of the review of a pull request, before the calls and after each of them. -/
def statusTrail (key : Int × Text) : Database → List TimedCall → List (Option ReviewStatus)
  | db, [] => [(db.tables.reviewOf? key.1 key.2).map (·.status)]
  | db, c :: calls => (db.tables.reviewOf? key.1 key.2).map (·.status) :: statusTrail key (db.performed c) calls

end Database

/-- A status stays or goes on to one of its successors. -/
def ReviewStatus.MayBecome (s t : ReviewStatus) : Prop := t = s ∨ t ∈ s.successors

/-! ## One call -/

/-- What a call may make of the dossier of a review other than queueing it. -/
inductive Dossier.Step : Dossier → Dossier → Prop
  | kept (d : Dossier) : Step d d
  | moved (d : Dossier) (now : Moment) (status : ReviewStatus) (written : Members)
      (h : status ∈ d.review.status.successors) : Step d (d.moved now status written)
  | extended (d : Dossier) (f : FileChange) (cs : List Comment) (h : d.review.status.isActive = true) :
      Step d (d.extended f cs)

namespace Dossier.Step

variable {d e : Dossier}

theorem key_eq (h : Step d e) : e.review.key = d.review.key := by
  cases h <;> rfl

theorem run_eq (h : Step d e) : e.review.run = d.review.run := by
  cases h <;> rfl

theorem mayBecome (h : Step d e) : d.review.status.MayBecome e.review.status := by
  cases h with
  | kept => exact .inl rfl
  | moved now status written h => exact .inr h
  | extended => exact .inl rfl

/-- Nothing is done to the dossier of a terminal review. -/
theorem eq_of_isTerminal (h : Step d e) (ht : d.review.status.isTerminal = true) : e = d := by
  cases h with
  | kept => rfl
  | moved now status written h =>
    rw [ReviewStatus.isTerminal_iff.1 ht] at h
    cases h
  | extended f cs h =>
    rw [ReviewStatus.isActive, ht] at h
    cases h

theorem rel_self (o : Option Dossier) : Option.Rel Step o o := by
  cases o with
  | none => exact .none
  | some d => exact .some (.kept d)

theorem of_rel_left {o : Option Dossier} (h : Option.Rel Step (some d) o) : ∃ e, o = some e ∧ Step d e := by
  cases h with
  | some h => exact ⟨_, rfl, h⟩

theorem of_rel_right {o : Option Dossier} (h : Option.Rel Step o (some e)) : ∃ d, o = some d ∧ Step d e := by
  cases h with
  | some h => exact ⟨_, rfl, h⟩

end Dossier.Step

theorem Tables.CancelTurns.rel {now : Moment} {t after : Tables} {reason : Text} {fits : Review → Prop}
    {ids : List Int} (h : t.CancelTurns now after reason fits ids) (v : Int) :
    Option.Rel Dossier.Step (t.dossier? v) (after.dossier? v) := by
  obtain ⟨hids, hafter⟩ := h
  rw [hafter]
  split
  · rename_i hv
    obtain ⟨d, hd, _, hactive⟩ := (hids v).1 hv
    rw [hd]
    exact .some (.moved d now .cancelled _ (ReviewStatus.isActive_iff.1 hactive))
  · exact Dossier.Step.rel_self _

/-- The dossier has just been queued, in place of one of the same pull request if there was one. -/
def Dossier.Requeued (queued? : Option (Int × Text)) (before after : Option Dossier) : Prop :=
  ∃ e, after = some e ∧ queued? = some e.review.key ∧ e.review.status = .pending ∧
    ∀ d, before = some d → d.review.key = e.review.key

/-- A successful call queues the review of a dossier or takes the dossier a step. -/
theorem StoreCall.Turns.cases {now : Moment} {db : Database} {t : Tables} :
    ∀ {call : StoreCall} {reply : call.Reply}, call.Turns now db t reply → ∀ v,
      Dossier.Requeued call.queued? (db.tables.dossier? v) (t.dossier? v) ∨
      Option.Rel Dossier.Step (db.tables.dossier? v) (t.dossier? v)
  | .queue number repository installation summary, ticket, ⟨_, hkey, hafter⟩, v => by
    rw [hafter]
    split
    · rename_i hv
      exact .inl ⟨_, rfl, rfl, rfl, fun d hd => (hkey v d hd).2 hv⟩
    · exact .inr (Dossier.Step.rel_self _)
  | .move .., true, ⟨d, status, hd, _, hsucc, _, hafter⟩, v => by
    rw [hafter]
    split
    · subst_vars
      rw [hd]
      exact .inr (.some (.moved d now status _ hsucc))
    · exact .inr (Dossier.Step.rel_self _)
  | .move .., false, ⟨hafter, _⟩, _ => .inr (hafter ▸ Dossier.Step.rel_self _)
  | .addAnalysis .., true, ⟨d, _, _, hd, _, hactive, hafter⟩, v => by
    rw [hafter]
    split
    · subst_vars
      rw [hd]
      exact .inr (.some (.extended d _ _ hactive))
    · exact .inr (Dossier.Step.rel_self _)
  | .addAnalysis .., false, ⟨hafter, _⟩, _ => .inr (hafter ▸ Dossier.Step.rel_self _)
  | .cancel number repository reason, ids, h, v => by
    have h : db.tables.CancelTurns now t reason (fun r => r.key = (number, repository)) ids := h
    exact .inr (h.rel v)
  | .dropInstallation installation, removal, h, v => by
    have h : db.tables.CancelTurns now t "installation_deleted" (fun r => r.installation = installation)
        removal.reviews := h
    exact .inr (h.rel v)
  | .saveInstallation .., _, hafter, v => .inr (hafter v ▸ Dossier.Step.rel_self _)
  | .saveRepositories .., _, hafter, v => .inr (hafter v ▸ Dossier.Step.rel_self _)
  | .dropRepositories .., _, hafter, v => .inr (hafter v ▸ Dossier.Step.rel_self _)

namespace Database

variable {db : Database} {c : TimedCall}

theorem performed_frame (db : Database) (c : TimedCall) :
    (db.performed c).runs = db.runs.draw c.call.runsDrawn ∧ (db.performed c).hasTables = db.hasTables ∧
      (db.performed c).isUp = c.isUp := by
  unfold performed TimedCall.perform StoreCall.perform
  dsimp only
  split <;> exact ⟨rfl, rfl, rfl⟩

/-- A call fails and leaves the tables, or its transaction succeeds. -/
theorem performed_cases (db : Database) (c : TimedCall) :
    (∃ failure, (c.perform db).1 = .error failure ∧ (db.performed c).tables = db.tables) ∨
    ∃ reply, (c.perform db).1 = .ok reply ∧
      c.call.transaction (c.finds db) c.now = .ok (reply, (db.performed c).tables) := by
  unfold performed TimedCall.perform
  rcases h : c.call.perform c.now (c.finds db) with ⟨result, after⟩
  cases result with
  | error failure => exact .inl ⟨failure, rfl, (StoreCall.perform_error h).1⟩
  | ok reply => exact .inr ⟨reply, rfl, (StoreCall.perform_ok h).1⟩

/-- A call fails and leaves the tables, or it succeeds and turns the dossiers. -/
theorem perform_cases (hw : db.tables.WellFormed) (c : TimedCall) :
    (∃ failure, (c.perform db).1 = .error failure ∧ (db.performed c).tables = db.tables) ∨
    ∃ reply, (c.perform db).1 = .ok reply ∧ (db.performed c).tables.WellFormed ∧
      c.call.Turns c.now (c.finds db) (db.performed c).tables reply := by
  have hw : (c.finds db).tables.WellFormed := hw
  obtain hfails | ⟨reply, hreply, htransaction⟩ := performed_cases db c
  · exact .inl hfails
  · exact .inr ⟨reply, hreply, StoreCall.transaction_turns hw htransaction⟩

theorem performed_wellFormed (hw : db.tables.WellFormed) (c : TimedCall) : (db.performed c).tables.WellFormed := by
  obtain ⟨_, _, h⟩ | ⟨_, _, h, _⟩ := perform_cases hw c
  · exact h ▸ hw
  · exact h

/-- The step of one call: it queues the review of a dossier or takes the dossier a step. -/
theorem performed_dossier (hw : db.tables.WellFormed) (c : TimedCall) (v : Int) :
    (∃ e, (db.performed c).tables.dossier? v = some e ∧ db.queuesOn c e.review.key = true ∧
      ∀ d, db.tables.dossier? v = some d → d.review.key = e.review.key) ∨
    Option.Rel Dossier.Step (db.tables.dossier? v) ((db.performed c).tables.dossier? v) := by
  obtain ⟨_, _, h⟩ | ⟨reply, hreply, _, hturns⟩ := perform_cases hw c
  · exact .inr (h ▸ Dossier.Step.rel_self _)
  · obtain ⟨e, he, hq, _, hkey⟩ | h := hturns.cases v
    · refine .inl ⟨e, he, ?_, hkey⟩
      simp [queuesOn, hq, hreply, Except.isOk, Except.toBool]
    · exact .inr h

theorem performed_step (hw : db.tables.WellFormed) {v : Int} {d : Dossier} (hd : db.tables.dossier? v = some d)
    (hno : db.queuesOn c d.review.key = false) : ∃ e, (db.performed c).tables.dossier? v = some e ∧ d.Step e := by
  obtain ⟨e, _, hq, hkey⟩ | h := performed_dossier hw c v
  · rw [hkey d hd, hq] at hno
    cases hno
  · exact Dossier.Step.of_rel_left (hd ▸ h)

/-- A call that queues a pull request leaves its review pending. -/
theorem performed_queued (hw : db.tables.WellFormed) {key : Int × Text} (hq : db.queuesOn c key = true) :
    ∃ v d, (db.performed c).tables.dossier? v = some d ∧ d.review.key = key ∧ d.review.status = .pending := by
  rw [queuesOn, Bool.and_eq_true, beq_iff_eq] at hq
  obtain ⟨hcall, hok⟩ := hq
  obtain ⟨_, hr, _⟩ | ⟨reply, hr, _, hturns⟩ := perform_cases hw c
  · rw [hr] at hok
    cases hok
  · obtain ⟨now, isUp, call⟩ := c
    cases call with
    | queue number repository installation summary =>
      rw [StoreCall.queued?, Option.some.injEq] at hcall
      subst hcall
      exact ⟨reply.review, _, (hturns.2.2 reply.review).trans (if_pos rfl), rfl, rfl⟩
    | _ => cases hcall

/-! ## Many calls -/

theorem after_append (db : Database) (xs ys : List TimedCall) : db.after (xs ++ ys) = (db.after xs).after ys :=
  List.foldl_append

theorem after_wellFormed (hw : db.tables.WellFormed) (calls : List TimedCall) :
    (db.after calls).tables.WellFormed := by
  induction calls generalizing db with
  | nil => exact hw
  | cons c calls ih => exact ih (performed_wellFormed hw c)

theorem reviewOf?_of_dossier? {t : Tables} (hw : t.WellFormed) {v : Int} {d : Dossier} (hd : t.dossier? v = some d) :
    t.reviewOf? d.review.key.1 d.review.key.2 = some d.review :=
  Tables.reviewOf?_of_mem hw (Tables.review_mem hd)

/-- The run lemma: as long as the pull request is not queued, the status of its review goes along
`successors`. -/
theorem statusTrail_chain (hw : db.tables.WellFormed) {v : Int} {d : Dossier} (hd : db.tables.dossier? v = some d)
    {calls : List TimedCall} (hno : neverQueues d.review.key db calls = true) :
    ∃ statuses, statusTrail d.review.key db calls = (d.review.status :: statuses).map some ∧
      (d.review.status :: statuses).IsChain ReviewStatus.MayBecome := by
  induction calls generalizing db d with
  | nil =>
    refine ⟨[], ?_, .singleton _⟩
    simp [statusTrail, reviewOf?_of_dossier? hw hd]
  | cons c calls ih =>
    rw [neverQueues, Bool.and_eq_true, Bool.not_eq_true'] at hno
    obtain ⟨e, he, hstep⟩ := performed_step hw hd hno.1
    obtain ⟨statuses, htrail, hchain⟩ := ih (performed_wellFormed hw c) he (hstep.key_eq ▸ hno.2)
    refine ⟨e.review.status :: statuses, ?_, List.isChain_cons_cons.2 ⟨hstep.mayBecome, hchain⟩⟩
    rw [statusTrail, reviewOf?_of_dossier? hw hd, ← hstep.key_eq, htrail]
    rfl

theorem neverQueues_append {key : Int × Text} {xs ys : List TimedCall} (hx : neverQueues key db xs = true)
    (hy : neverQueues key (db.after xs) ys = true) : neverQueues key db (xs ++ ys) = true := by
  induction xs generalizing db with
  | nil => exact hy
  | cons c xs ih =>
    rw [neverQueues, Bool.and_eq_true] at hx
    rw [List.cons_append, neverQueues, Bool.and_eq_true]
    exact ⟨hx.1, ih hx.2 hy⟩

/-- Every review goes back to the last call that queued its pull request. -/
theorem exists_queueing (calls : List TimedCall) {v : Int} {d : Dossier}
    (hd : (after {} calls).tables.dossier? v = some d) :
    ∃ before c rest, calls = before ++ c :: rest ∧ (after {} before).queuesOn c d.review.key = true ∧
      neverQueues d.review.key (after {} (before ++ [c])) rest = true := by
  induction calls using List.reverseRecOn generalizing d with
  | nil => cases hd
  | append_singleton calls c ih =>
    have hw := after_wellFormed Tables.wellFormed_empty calls
    rw [after_append] at hd
    change ((after {} calls).performed c).tables.dossier? v = some d at hd
    obtain ⟨e, he, hq, _⟩ | h := performed_dossier hw c v
    · rw [he, Option.some.injEq] at hd
      exact ⟨calls, c, [], rfl, hd ▸ hq, rfl⟩
    · rw [hd] at h
      obtain ⟨e, he, hstep⟩ := Dossier.Step.of_rel_right h
      by_cases hq : (after {} calls).queuesOn c d.review.key = true
      · exact ⟨calls, c, [], rfl, hq, rfl⟩
      · obtain ⟨before, b, rest, rfl, hb, hrest⟩ := ih he
        rw [hstep.key_eq] at hq ⊢
        refine ⟨before, b, rest ++ [c], by simp, hb, neverQueues_append hrest ?_⟩
        rw [← after_append, List.append_assoc, List.singleton_append]
        simpa [neverQueues] using hq

end Database

/-- **A review's life.** After any calls on an empty database: a pull request that is queued has a
pending review, whose status then goes along `successors` for as long as the pull request is not
queued again; every review is in such a period; and a call that does not queue the pull request of a
terminal review leaves its row and all its derived rows as they are. -/
theorem review_life :
    (∀ before c rest key, (Database.after {} before).queuesOn c key = true →
      Database.neverQueues key (Database.after {} (before ++ [c])) rest = true →
      ∃ statuses, Database.statusTrail key (Database.after {} (before ++ [c])) rest =
          (.pending :: statuses).map some ∧
        (ReviewStatus.pending :: statuses).IsChain ReviewStatus.MayBecome) ∧
    (∀ calls, ∀ r ∈ (Database.after {} calls).tables.reviews,
      ∃ before c rest, calls = before ++ c :: rest ∧ (Database.after {} before).queuesOn c r.key = true ∧
        Database.neverQueues r.key (Database.after {} (before ++ [c])) rest = true) ∧
    ∀ calls v d c, (Database.after {} calls).tables.dossier? v = some d → d.review.status.isTerminal = true →
      (Database.after {} calls).queuesOn c d.review.key = false →
      ((Database.after {} calls).performed c).tables.dossier? v = some d := by
  refine ⟨fun before c rest key hq hrest => ?_, fun calls r hr => ?_, fun calls v d c hd ht hq => ?_⟩
  · have hw := Database.after_wellFormed Tables.wellFormed_empty before
    obtain ⟨v, d, hd, rfl, hs⟩ := Database.performed_queued hw hq
    rw [Database.after_append] at hrest ⊢
    obtain ⟨statuses, htrail, hchain⟩ := Database.statusTrail_chain (Database.performed_wellFormed hw c) hd hrest
    rw [hs] at htrail hchain
    exact ⟨statuses, htrail, hchain⟩
  · obtain ⟨d, hd, rfl⟩ := Tables.dossier?_of_mem (Database.after_wellFormed Tables.wellFormed_empty calls) hr
    exact Database.exists_queueing calls hd
  · obtain ⟨e, he, hstep⟩ :=
      Database.performed_step (Database.after_wellFormed Tables.wellFormed_empty calls) hd hq
    rw [he, hstep.eq_of_isTerminal ht]

/-- Queueing pull request 12, running its review to the end and trying to fail it afterwards. -/
def queueing : TimedCall := { now := 100, call := .queue 12 "acme/widgets" 77 {} }

def completing : List TimedCall :=
  [{ now := 101, call := .move 1 "in_progress" (.fetching 10) (some "run-1") },
    { now := 102, isUp := false, call := .queue 12 "acme/widgets" 77 {} },
    { now := 103, call := .move 1 "completed" (.completed 100 0 0) (some "run-1") }]

def failing : TimedCall := { now := 104, call := .move 1 "failed" (.failed "late") none }

theorem review_life_completed :
    ((Database.after {} []).queuesOn queueing (12, "acme/widgets") = true ∧
      Database.neverQueues (12, "acme/widgets") (Database.after {} [queueing]) completing = true ∧
      ∃ statuses, Database.statusTrail (12, "acme/widgets") (Database.after {} [queueing]) completing =
          (.pending :: statuses).map some ∧
        (ReviewStatus.pending :: statuses).IsChain ReviewStatus.MayBecome) ∧
    (∃ r ∈ (Database.after {} (queueing :: completing)).tables.reviews,
      ∃ before c rest, queueing :: completing = before ++ c :: rest ∧
        (Database.after {} before).queuesOn c r.key = true ∧
        Database.neverQueues r.key (Database.after {} (before ++ [c])) rest = true) ∧
    ∃ d, (Database.after {} (queueing :: completing)).tables.dossier? 1 = some d ∧
      d.review.status.isTerminal = true ∧
      (Database.after {} (queueing :: completing)).queuesOn failing d.review.key = false ∧
      ((Database.after {} (queueing :: completing)).performed failing).tables.dossier? 1 = some d := by
  have hq : (Database.after {} []).queuesOn queueing (12, "acme/widgets") = true := by decide +kernel
  have hn : Database.neverQueues (12, "acme/widgets") (Database.after {} [queueing]) completing = true := by
    decide +kernel
  have hsome : ((Database.after {} (queueing :: completing)).tables.dossier? 1).isSome = true := by decide +kernel
  obtain ⟨d, hd⟩ := Option.isSome_iff_exists.1 hsome
  have ht : d.review.status.isTerminal = true := by
    have h : ((Database.after {} (queueing :: completing)).tables.dossier? 1).all
        (·.review.status.isTerminal) = true := by
      decide +kernel
    rwa [hd] at h
  have hf : (Database.after {} (queueing :: completing)).queuesOn failing d.review.key = false := rfl
  refine ⟨⟨hq, hn, review_life.1 [] queueing completing _ hq hn⟩, ⟨d.review, ?_, ?_⟩, d, hd, ht, hf, ?_⟩
  · exact Tables.review?_mem (Tables.dossier?_eq_some_iff.1 hd).1
  · exact review_life.2.1 _ _ (Tables.review?_mem (Tables.dossier?_eq_some_iff.1 hd).1)
  · exact review_life.2.2 _ 1 d failing hd ht hf

end PullReview
