import PullReview.Proofs.Store.Life
import PullReview.Proofs.Store.Placement
import PullReview.Proofs.Run.Ownership

/-!
# Superseded runs

A run is superseded once the pull request of its review has been queued again. What is still written on
its behalf is refused and leaves the database as it is, so the calls made for superseded runs can be
taken out of any sequence of calls without anything else noticing
(`superseded_without_effect`).
-/

namespace PullReview

/-! ## Calls and replies -/

/-- A store call with the reply to it. -/
structure AnsweredCall where
  made : TimedCall
  reply : Except Failure made.call.Reply

namespace AnsweredCall

/-- The run that was queued. -/
def ticket? : AnsweredCall → Option Ticket
  | ⟨⟨_, _, .queue ..⟩, .ok ticket⟩ => some ticket
  | _ => none

/-- Whether the call would have written and was told that it may not. -/
def isRefused : AnsweredCall → Bool
  | ⟨⟨_, _, .move ..⟩, .ok moved⟩ => !moved
  | ⟨⟨_, _, .addAnalysis ..⟩, .ok recorded⟩ => !recorded
  | _ => false

end AnsweredCall

/-- The run on behalf of which a call writes. -/
def StoreCall.behalf? : StoreCall → Option Ticket
  | move review _ _ (some run) => run.string?.map (⟨review, ·⟩)
  | addAnalysis review run .. => run.string?.map (⟨review, ·⟩)
  | _ => none

/-- What a guarded write has to bind before it can be refused. -/
def StoreCall.guarding : StoreCall → List Param
  | move review target _ run => .text target :: .int review :: run.toList.map .text
  | addAnalysis review .. => [review]
  | _ => []

/-- Calls made one after the other with the replies to them. -/
def Database.answers : Database → List TimedCall → List AnsweredCall
  | _, [] => []
  | db, c :: calls => ⟨c, (c.perform db).1⟩ :: answers (db.performed c) calls

/-- Whether the pull request of a run has been queued again since the run was drawn. -/
def superseded (ticket : Ticket) : List AnsweredCall → Bool
  | [] => false
  | a :: past =>
    (a.ticket? == some ticket &&
      past.any fun later => later.ticket?.isSome && later.made.call.queued? == a.made.call.queued?) ||
    superseded ticket past

/-- Whether a call is made on behalf of a chosen run that is superseded by then. -/
def TimedCall.isStale (chosen : Ticket → Bool) (past : List AnsweredCall) (c : TimedCall) : Bool :=
  c.call.behalf?.any fun ticket => chosen ticket && superseded ticket past

/-- What is left without the calls on behalf of chosen runs that are superseded. -/
def withoutStale (chosen : Ticket → Bool) (past : List AnsweredCall) : List AnsweredCall → List AnsweredCall
  | [] => []
  | a :: rest =>
    if a.made.isStale chosen past then withoutStale chosen (past ++ [a]) rest
    else a :: withoutStale chosen (past ++ [a]) rest

theorem superseded_concat {ticket : Ticket} {past : List AnsweredCall} {a : AnsweredCall} :
    superseded ticket (past ++ [a]) = true ↔
      superseded ticket past = true ∨
        a.ticket?.isSome = true ∧
          ∃ earlier ∈ past, earlier.ticket? = some ticket ∧ a.made.call.queued? = earlier.made.call.queued? := by
  induction past with
  | nil => simp [superseded]
  | cons b past ih =>
    simp only [List.cons_append, superseded, List.any_append, List.any_cons, List.any_nil, Bool.or_false,
      Bool.or_eq_true, Bool.and_eq_true, beq_iff_eq, ih, List.exists_mem_cons_iff]
    grind

/-! ## One call -/

namespace Database

variable {db : Database} {c : TimedCall} {v : Int} {d : Dossier} {ticket : Ticket}

/-- A review stays, and so does its run unless a new one is drawn for it. -/
theorem performed_keeps (hw : db.tables.WellFormed) (c : TimedCall) (hd : db.tables.dossier? v = some d) :
    ∃ e, (db.performed c).tables.dossier? v = some e ∧ e.review.key = d.review.key ∧
      (e.review.run = d.review.run ∨ e.review.run = db.nextRun) := by
  obtain ⟨_, _, h⟩ | ⟨reply, _, _, hturns⟩ := perform_cases hw c
  · exact ⟨d, h ▸ hd, rfl, .inl rfl⟩
  · cases hq : c.call.queued? with
    | none =>
      obtain ⟨_, _, hkey, _⟩ | h := hturns.cases v
      · rw [hq] at hkey
        cases hkey
      · obtain ⟨e, he, hstep⟩ := Dossier.Step.of_rel_left (hd ▸ h)
        exact ⟨e, he, hstep.key_eq, .inl hstep.run_eq⟩
    | some key =>
      obtain ⟨now, isUp, call⟩ := c
      cases call with
      | queue number repository installation summary =>
        obtain ⟨hrun, hkey, hafter⟩ := hturns
        rw [hafter]
        split
        · rename_i hv
          exact ⟨_, rfl, ((hkey v d hd).2 hv).symm, .inr hrun⟩
        · exact ⟨d, hd, rfl, .inl rfl⟩
      | _ => cases hq

/-- A call that queues a review draws a run for it, and its pull request has no other review. -/
theorem performed_ticket (hw : db.tables.WellFormed)
    (ht : AnsweredCall.ticket? ⟨c, (c.perform db).1⟩ = some ticket) :
    ticket.run = db.nextRun ∧ (db.performed c).runs = db.runs.draw 1 ∧
      (∃ d, (db.performed c).tables.dossier? ticket.review = some d ∧ c.call.queued? = some d.review.key ∧
        d.review.run = ticket.run) ∧
      ∀ v d, db.tables.dossier? v = some d → c.call.queued? = some d.review.key → v = ticket.review := by
  obtain ⟨_, hreply, _⟩ | ⟨reply, hreply, _, hturns⟩ := perform_cases hw c
  · rw [hreply] at ht
    obtain ⟨now, isUp, call⟩ := c
    cases call <;> cases ht
  · rw [hreply] at ht
    have hdrawn := (performed_frame db c).1
    obtain ⟨now, isUp, call⟩ := c
    cases call with
    | queue number repository installation summary =>
      obtain rfl : reply = ticket := Option.some.inj ht
      obtain ⟨hrun, hkey, hafter⟩ := hturns
      refine ⟨hrun, hdrawn, ⟨_, (hafter reply.review).trans (if_pos rfl), rfl, rfl⟩, fun v d hd hq => ?_⟩
      · exact (hkey v d hd).1 (Option.some.inj hq).symm
    | _ => cases ht

/-- A move on behalf of another run than the review's comes to nothing. -/
theorem move_of_run_ne (ha : db.Available) (hd : db.tables.dossier? v = some d) {run : String}
    (hne : d.review.run ≠ run) (now : Moment) (target : Text) (progress : Progress)
    (hbinds : Param.fault? [.text target, .int v, .text run] = none) :
    db.move now v target progress (some run) = .ok (false, db.tables) := by
  have hmay : mayMove d.review target (some run) = false := by simp [mayMove, Ne.symm hne]
  have hfits : fitsColumn v = true := Param.fault?_eq_none_iff.1 hbinds (.int v) (by simp)
  rw [move, ha.statement_int, if_pos hfits, (Tables.dossier?_eq_some_iff.1 hd).1]
  simp only [Option.toList_some, List.map_cons, List.map_nil, ha.statement_ok hbinds, hmay, bind, Except.bind]
  cases (Named.ofName? target : Option ReviewStatus) <;> rfl

/-- Where its values cannot be bound, it fails. -/
theorem move_error_of_unbindable (ha : db.Available) (hd : db.tables.dossier? v = some d) {run : String}
    (now : Moment) (target : Text) (progress : Progress)
    (hbinds : Param.fault? [.text target, .int v, .text run] ≠ none) :
    ∃ e, db.move now v target progress (some run) = .error e := by
  obtain ⟨e, he⟩ := Option.ne_none_iff_exists'.1 hbinds
  rw [move, ha.statement_int, (Tables.dossier?_eq_some_iff.1 hd).1]
  split
  · simp only [Option.toList_some, List.map_cons, List.map_nil, ha.statement_error he, bind, Except.bind]
    exact ⟨e, rfl⟩
  · exact ⟨_, rfl⟩

theorem addAnalysis_of_run_ne (ha : db.Available) (hd : db.tables.dossier? v = some d) {run : String}
    (hne : d.review.run ≠ run) (status : Text) (analysis : Analysis) (complexity : Int) :
    db.addAnalysis v run status analysis complexity =
      if fitsColumn v = true then .ok (false, db.tables) else .error .integerRange := by
  have hmay : mayRecord d.review run = false := by simp [mayRecord, hne]
  rw [addAnalysis, ha.statement_int, (Tables.dossier?_eq_some_iff.1 hd).1]
  split
  · show (if mayRecord d.review run = true then _ else _) = _
    rw [hmay]
    rfl
  · rfl

/-- What is written on behalf of another run than the review's is refused, or fails as it cannot be compared. -/
theorem performed_of_run_ne (ha : db.Available) (hc : c.isUp = true) (hb : c.call.behalf? = some ticket)
    (hd : db.tables.dossier? ticket.review = some d) (hne : d.review.run ≠ ticket.run) :
    db.performed c = db ∧
      ((∀ p ∈ c.call.guarding, p.isBindable = true) → AnsweredCall.isRefused ⟨c, (c.perform db).1⟩ = true) := by
  have hfinds : c.finds db = db := by rw [TimedCall.finds, hc, ← ha.isUp]
  obtain ⟨now, isUp, call⟩ := c
  unfold performed TimedCall.perform
  rw [hfinds]
  cases call with
  | move review target progress run =>
    cases run with
    | none => cases hb
    | some run =>
      obtain ⟨run, hrun, rfl⟩ := Option.map_eq_some_iff.1 hb
      obtain rfl := Text.string?_eq_some_iff.1 hrun
      by_cases hbinds : Param.fault? [.text target, .int review, .text run] = none
      · simp only [StoreCall.perform, StoreCall.transaction, move_of_run_ne ha hd hne now target progress hbinds]
        exact ⟨rfl, fun _ => rfl⟩
      · obtain ⟨e, he⟩ := move_error_of_unbindable ha hd now target progress hbinds
        simp only [StoreCall.perform, StoreCall.transaction, he]
        exact ⟨rfl, fun h => absurd (Param.fault?_eq_none_iff.2 h) hbinds⟩
  | addAnalysis review run status analysis complexity =>
    obtain ⟨run, hrun, rfl⟩ := Option.map_eq_some_iff.1 hb
    obtain rfl := Text.string?_eq_some_iff.1 hrun
    simp only [StoreCall.perform, StoreCall.transaction, addAnalysis_of_run_ne ha hd hne]
    by_cases hfits : fitsColumn review = true
    · rw [if_pos hfits]
      exact ⟨rfl, fun _ => rfl⟩
    · rw [if_neg hfits]
      exact ⟨rfl, fun h => absurd (h (.int review) List.mem_cons_self) hfits⟩
  | _ => cases hb

end Database

/-! ## Many calls -/

/-- What the calls made so far and the replies to them tell about the database. -/
structure Accounts (past : List AnsweredCall) (db : Database) : Prop where
  tables : db.tables.WellFormed
  isUp : db.isUp = true
  hasTables : db.hasTables = true
  issued : ∀ {a ticket}, a ∈ past → a.ticket? = some ticket → db.Issued ticket.run
  keyed : ∀ {a ticket}, a ∈ past → a.ticket? = some ticket →
    ∃ d, db.tables.dossier? ticket.review = some d ∧ a.made.call.queued? = some d.review.key
  superseded : ∀ {ticket}, superseded ticket past = true →
    db.Issued ticket.run ∧ ∃ d, db.tables.dossier? ticket.review = some d ∧ d.review.run ≠ ticket.run

namespace Accounts

theorem nil : Accounts [] {} where
  tables := Tables.wellFormed_empty
  isUp := rfl
  hasTables := rfl
  issued := nofun
  keyed := nofun
  superseded := nofun

variable {past : List AnsweredCall} {db : Database} {c : TimedCall}

/-- The step lemma: a superseded run stays superseded, as the runs drawn later are new ones. -/
theorem concat (h : Accounts past db) (hc : c.isUp = true) :
    Accounts (past ++ [⟨c, (c.perform db).1⟩]) (db.performed c) := by
  obtain ⟨hdrawn, hsame, hup⟩ := Database.performed_frame db c
  have hon : db.DrawsOn (db.performed c) := ⟨_, hdrawn⟩
  constructor
  case tables => exact Database.performed_wellFormed h.tables c
  case isUp => rw [hup, hc]
  case hasTables => rw [hsame, h.hasTables]
  case issued =>
    intro a ticket ha ht
    rcases List.mem_append.1 ha with ha | ha
    · exact (h.issued ha ht).mono hon
    · obtain rfl := List.mem_singleton.1 ha
      obtain ⟨hrun, hone, -⟩ := Database.performed_ticket h.tables ht
      exact hrun ▸ Database.issued_nextRun hone
  case keyed =>
    intro a ticket ha ht
    rcases List.mem_append.1 ha with ha | ha
    · obtain ⟨d, hd, hq⟩ := h.keyed ha ht
      obtain ⟨e, he, hkey, -⟩ := Database.performed_keeps h.tables c hd
      exact ⟨e, he, hkey ▸ hq⟩
    · obtain rfl := List.mem_singleton.1 ha
      obtain ⟨-, -, ⟨d, hd, hq, -⟩, -⟩ := Database.performed_ticket h.tables ht
      exact ⟨d, hd, hq⟩
  case superseded =>
    intro ticket hs
    rcases superseded_concat.1 hs with hs | ⟨hsome, earlier, hearlier, ht, hq⟩
    · obtain ⟨hissued, d, hd, hne⟩ := h.superseded hs
      obtain ⟨e, he, -, hrun⟩ := Database.performed_keeps h.tables c hd
      refine ⟨hissued.mono hon, e, he, fun heq => ?_⟩
      rcases hrun with hrun | hrun
      · exact hne (hrun.symm.trans heq)
      · exact db.not_issued_nextRun (hrun ▸ heq ▸ hissued)
    · obtain ⟨later, hlater⟩ := Option.isSome_iff_exists.1 hsome
      obtain ⟨hrun, -, ⟨e, he, -, herun⟩, hown⟩ := Database.performed_ticket h.tables hlater
      obtain ⟨d, hd, hkey⟩ := h.keyed hearlier ht
      have hissued := h.issued hearlier ht
      refine ⟨hissued.mono hon, e, ?_, fun heq => ?_⟩
      · rw [hown _ d hd (hq.trans hkey)]
        exact he
      · exact db.not_issued_nextRun (hrun ▸ herun ▸ heq ▸ hissued)

/-- A call on behalf of a superseded run does nothing. -/
theorem performed_of_isStale (h : Accounts past db) (hc : c.isUp = true) {chosen : Ticket → Bool}
    (hstale : c.isStale chosen past = true) :
    db.performed c = db ∧ ((∀ p ∈ c.call.guarding, p.isBindable = true) →
      AnsweredCall.isRefused ⟨c, (c.perform db).1⟩ = true) := by
  obtain ⟨ticket, hb, hs⟩ := (Option.any_eq_true _ _).1 hstale
  obtain ⟨-, d, hd, hne⟩ := h.superseded (Bool.and_eq_true_iff.1 hs).2
  exact Database.performed_of_run_ne ⟨h.isUp, h.hasTables⟩ hc hb hd hne

/-- The run lemma: from any point on, the calls that are left find the database as they found it before. -/
theorem answers_withoutStale (h : Accounts past db) (chosen : Ticket → Bool) {calls : List TimedCall}
    (hcalls : ∀ c ∈ calls, c.isUp = true) :
    db.answers ((withoutStale chosen past (db.answers calls)).map (·.made)) =
        withoutStale chosen past (db.answers calls) ∧
      db.after ((withoutStale chosen past (db.answers calls)).map (·.made)) = db.after calls := by
  induction calls generalizing past db with
  | nil => exact ⟨rfl, rfl⟩
  | cons c calls ih =>
    have hc := hcalls c List.mem_cons_self
    obtain ⟨hanswers, hafter⟩ := ih (h.concat hc) fun b hb => hcalls b (List.mem_cons_of_mem c hb)
    rw [Database.answers, withoutStale]
    split
    · rename_i hstale
      obtain ⟨hsame, -⟩ := h.performed_of_isStale hc hstale
      simp only [hsame] at hanswers hafter ⊢
      refine ⟨hanswers, hafter.trans ?_⟩
      show _ = (db.performed c).after calls
      rw [hsame]
    · refine ⟨?_, hafter⟩
      rw [List.map_cons, Database.answers, hanswers]

/-- The calls that are taken out have been refused. -/
theorem isRefused_of_isStale (h : Accounts past db) {chosen : Ticket → Bool} {calls : List TimedCall}
    (hcalls : ∀ c ∈ calls, c.isUp = true) {before rest : List AnsweredCall} {a : AnsweredCall}
    (hsplit : db.answers calls = before ++ a :: rest) (hstale : a.made.isStale chosen (past ++ before) = true) :
    (∀ p ∈ a.made.call.guarding, p.isBindable = true) → a.isRefused = true := by
  induction calls generalizing past db before with
  | nil => cases before <;> cases hsplit
  | cons c calls ih =>
    have hc := hcalls c List.mem_cons_self
    rw [Database.answers] at hsplit
    cases before with
    | nil =>
      rw [List.nil_append, List.cons.injEq] at hsplit
      obtain ⟨rfl, -⟩ := hsplit
      rw [List.append_nil] at hstale
      exact (h.performed_of_isStale hc hstale).2
    | cons b before =>
      rw [List.cons_append, List.cons.injEq] at hsplit
      obtain ⟨rfl, hsplit⟩ := hsplit
      refine ih (h.concat hc) (fun b hb => hcalls b (List.mem_cons_of_mem c hb)) hsplit ?_
      rwa [List.append_assoc, List.singleton_append]

end Accounts

/-- **Superseded runs are without effect.** In any calls on an empty database, taking out those made on
behalf of chosen runs that are superseded by then leaves the same replies to the others and the same
database in the end, and each call that is taken out had been refused, as long as what it compares can be bound. -/
theorem superseded_without_effect (chosen : Ticket → Bool) (calls : List TimedCall)
    (hcalls : ∀ c ∈ calls, c.isUp = true) :
    let made := Database.answers {} calls
    let kept := withoutStale chosen [] made
    Database.answers {} (kept.map (·.made)) = kept ∧
      Database.after {} (kept.map (·.made)) = Database.after {} calls ∧
      ∀ before a rest, made = before ++ a :: rest → a.made.isStale chosen before = true →
        (∀ p ∈ a.made.call.guarding, p.isBindable = true) → a.isRefused = true := by
  obtain ⟨hanswers, hafter⟩ := Accounts.nil.answers_withoutStale chosen hcalls
  exact ⟨hanswers, hafter, fun before a rest hsplit hstale =>
    Accounts.nil.isRefused_of_isStale hcalls hsplit hstale⟩

/-- Pull request 12 is queued again while its first run is under way, which then goes on for two calls. -/
def overtaking : List TimedCall :=
  [queueing,
    { now := 101, call := .move 1 "in_progress" (.fetching 10) (some "run-1") },
    { now := 102, call := .queue 12 "acme/widgets" 77 {} },
    { now := 103
      call := .addAnalysis 1 "run-1" "modified"
        { filename := "a.js", language := "javascript", additions := 1, deletions := 0, patch := "", inScope := true
          issues := [] } 0 },
    { now := 104, call := .move 1 "failed" (.failed "late") (some "run-1") },
    { now := 105, call := .move 1 "in_progress" (.fetching 10) (some "run-2") }]

theorem overtaking_superseded :
    (∀ c ∈ overtaking, c.isUp = true) ∧
      let made := Database.answers {} overtaking
      let kept := withoutStale (fun _ => true) [] made
      kept.length + 2 = made.length ∧ Database.answers {} (kept.map (·.made)) = kept ∧
        Database.after {} (kept.map (·.made)) = Database.after {} overtaking ∧
        ∀ before a rest, made = before ++ a :: rest → a.made.isStale (fun _ => true) before = true →
          (∀ p ∈ a.made.call.guarding, p.isBindable = true) → a.isRefused = true := by
  have hup : ∀ c ∈ overtaking, c.isUp = true := by decide
  refine ⟨hup, ?_, superseded_without_effect (fun _ => true) overtaking hup⟩
  decide +kernel

end PullReview
