import PullReview.Proofs.Run.Pool
import PullReview.Proofs.Store.Dossier

/-!
# Runs and their owners

A run is drawn once, by the task that queues its review. As a task only writes on behalf of the run
it has drawn, what an entry does to a review is one of five things (`Entry.Turns`): it queues the
review, cancels it, moves it or adds rows to it on behalf of its owner, or leaves it alone.
-/

namespace PullReview

/-! ## Drawing runs -/

namespace Database

variable {db db' : Database} {run : String}

/-- The run has been drawn. -/
def Issued (db : Database) (run : String) : Prop := ∃ n < db.runs.drawn, run = db.runs.id n

/-- The run drawn next is a new one. -/
theorem not_issued_nextRun (db : Database) : ¬ db.Issued db.nextRun := by
  rintro ⟨n, hn, h⟩
  exact Nat.ne_of_gt hn (db.runs.fresh h)

/-- More runs have been drawn from the source. -/
def DrawsOn (db db' : Database) : Prop := ∃ count, db'.runs = db.runs.draw count

theorem issued_nextRun {count : Nat} (h : db'.runs = db.runs.draw (count + 1)) : db'.Issued db.nextRun := by
  rw [Issued, h]
  exact ⟨db.runs.drawn, Nat.lt_add_of_pos_right (Nat.succ_pos count), rfl⟩

theorem Issued.mono (h : db.Issued run) (hon : db.DrawsOn db') : db'.Issued run := by
  obtain ⟨n, hn, hrun⟩ := h
  obtain ⟨count, hcount⟩ := hon
  rw [Issued, hcount]
  exact ⟨n, Nat.lt_add_right count hn, hrun⟩

end Database

/-! ## What an entry does to a review -/

/-- The entry queues a review or cancels it. -/
def Entry.Touches (e : Entry) (v : Int) : Prop :=
  (∃ ticket, e.ticket? = some ticket ∧ ticket.review = v) ∨ v ∈ e.cancelled

/-- What an entry does to the dossier of a review. -/
inductive Entry.Turns (now : Moment) (log : List Entry) (e : Entry) (v : Int) :
    Option Dossier → Option Dossier → Prop
  | queued (before : Option Dossier) {ticket : Ticket} (number : Int) (repository : Text) (installation : Int)
    (summary : PullRequestSummary) (h : e.ticket? = some ticket) (hv : ticket.review = v)
    (hq : e.request = .store (.queue number repository installation summary)) :
    Turns now log e v before (some (.queued ticket now number repository installation summary))
  | cancelled {d : Dossier} (reason : Text) (h : v ∈ e.cancelled) (ha : d.review.status.isActive = true)
    (hp : e.progress? v = some (.cancelled reason)) :
    Turns now log e v (some d) (some (d.cancelled now reason))
  | moved {d : Dossier} {i w : Nat} {status : ReviewStatus} {progress : Progress}
    (he : e = ⟨i, w, .store (.move v (Named.name status) progress (some d.review.run)), .ok true⟩)
    (hticket : (memoryOf log i).ticket = some ⟨v, d.review.run⟩) (hw : (memoryOf log i).Writes status progress)
    (hs : status ∈ d.review.status.successors) :
    Turns now log e v (some d) (some (d.moved now status progress.written))
  | extended {d : Dossier} {i w : Nat} {status : Text} {analysis : Analysis} {complexity : Int}
    (id commentId : Int)
    (he : e = ⟨i, w, .store (.addAnalysis v d.review.run status analysis complexity), .ok true⟩)
    (ha : d.review.status.isActive = true) :
    Turns now log e v (some d)
      (some (d.extended (Database.rowOfAnalysis id v status analysis complexity)
        (Database.rowsOfIssues commentId v analysis.filename analysis.issues)))
  | kept (before : Option Dossier) (h : ¬ e.Touches v) (hw : e.written? ≠ some v) : Turns now log e v before before

namespace Entry

variable {e : Entry} {log : List Entry} {s s' : Service} {now : Moment} {v : Int}

/-- Only a store call that succeeds does anything to a review. -/
theorem turns_of_idle (h : e.commits = false) (before : Option Dossier) :
    e.Turns now log v before before := by
  refine .kept _ ?_ ?_
  · rintro (⟨ticket, ht, -⟩ | hv)
    · unfold ticket? at ht
      split at ht
      · cases h
      · cases ht
    · unfold cancelled at hv
      split at hv
      · cases h
      · cases h
      · cases hv
  · unfold written?
    split
    · cases h
    · cases h
    · nofun

theorem turns_of_cancelTurns {t t' : Tables} {reason : Text} {fits : Review → Prop} {ids : List Int}
    (h : t.CancelTurns now t' reason fits ids) (hids : ∀ v, v ∈ e.cancelled ↔ v ∈ ids) (ht : e.ticket? = none)
    (hw : e.written? = none) (hp : ∀ v ∈ ids, e.progress? v = some (.cancelled reason)) :
    e.Turns now log v (t.dossier? v) (t'.dossier? v) := by
  rw [h.2 v]
  split
  · rename_i hv
    obtain ⟨d, hd, -, ha⟩ := (h.1 v).1 hv
    rw [hd]
    exact .cancelled reason ((hids v).2 hv) ha (hp v hv)
  · rename_i hv
    refine .kept _ ?_ (by rw [hw]; nofun)
    rintro (⟨ticket, hticket, -⟩ | hc)
    · rw [ht] at hticket
      cases hticket
    · exact hv ((hids v).1 hc)

/-- A successful store call of a task that keeps to what it is allowed. -/
theorem turns_of_call {db : Database} {t : Tables} {i w : Nat} {call : StoreCall} {reply : call.Reply}
    (hf : Follows ⟨i, w, .store call, .ok reply⟩ log) (h : call.Turns now db t reply) :
    Turns now log ⟨i, w, .store call, .ok reply⟩ v (db.tables.dossier? v) (t.dossier? v) := by
  -- what is left alone is neither queued, nor cancelled, nor written
  have hkept : ∀ {e : Entry} {o o' : Option Dossier}, o' = o → e.ticket? = none → e.cancelled = [] →
      e.written? ≠ some v → e.Turns now log v o o' := by
    rintro e o _ rfl ht hc hw
    refine .kept _ ?_ hw
    rintro (⟨ticket, hticket, -⟩ | hv)
    · rw [ht] at hticket
      cases hticket
    · rw [hc] at hv
      cases hv
  cases call with
  | queue number repository installation summary =>
    obtain ⟨-, -, hd⟩ := h
    rw [hd]
    split
    · rename_i hv
      exact .queued _ number repository installation summary rfl hv.symm rfl
    · rename_i hv
      refine .kept _ ?_ nofun
      rintro (⟨ticket, ht, hticket⟩ | hc)
      · cases ht
        exact hv hticket.symm
      · cases hc
  | move review target progress run =>
    cases reply with
    | false => exact hkept (by rw [h.1]) rfl rfl nofun
    | true =>
      obtain ⟨d, status, hd, hname, hs, hadmits, hafter⟩ := h
      obtain ⟨⟨ticket, status', hticket, rfl, rfl, -, -, rfl, hw⟩, -⟩ := hf
      rw [hafter]
      split
      · subst_vars
        rw [hd]
        have hrun : ticket.run = d.review.run := Text.ofString_inj.1 (hadmits _ rfl)
        obtain rfl : status = status' := ReviewStatus.eq_of_name_eq hname
        rw [hrun]
        exact .moved (i := i) (w := w) rfl (by rw [hticket, ← hrun]) hw hs
      · rename_i hv
        exact hkept rfl rfl rfl fun h => hv (Option.some.inj h).symm
  | addAnalysis review run status analysis complexity =>
    cases reply with
    | false => exact hkept (by rw [h.1]) rfl rfl nofun
    | true =>
      obtain ⟨d, id, commentId, hd, rfl, ha, hafter⟩ := h
      rw [hafter]
      split
      · subst_vars
        rw [hd]
        exact .extended (i := i) (w := w) id commentId rfl ha
      · rename_i hv
        exact hkept rfl rfl rfl fun h => hv (Option.some.inj h).symm
  | cancel number repository reason =>
    have h : db.tables.CancelTurns now t reason (fun r => r.key = (number, repository)) reply := h
    exact turns_of_cancelTurns h (fun _ => Iff.rfl) rfl rfl fun _ hv => if_pos hv
  | dropInstallation installation =>
    have h : db.tables.CancelTurns now t "installation_deleted" (fun r => r.installation = installation)
        reply.reviews := h
    exact turns_of_cancelTurns h (fun _ => Iff.rfl) rfl rfl fun _ hv => if_pos hv
  | saveInstallation | saveRepositories | dropRepositories => exact hkept (h v) rfl rfl nofun

/-- A store call that succeeds is a transaction. -/
theorem Happens.transaction {i w : Nat} {call : StoreCall} {reply : call.Reply}
    (hs : Happens ⟨i, w, .store call, .ok reply⟩ s s') :
    call.transaction s.database s.now = .ok (reply, s'.database.tables) ∧
      s'.database.runs = s.database.runs.draw call.runsDrawn := by
  rcases hs with ⟨fetch, h⟩ | ⟨⟨failure, h⟩, -⟩
  · rcases hp : call.perform s.now s.database with ⟨result, db'⟩
    simp only [Request.perform, hp, Prod.mk.injEq] at h
    obtain ⟨rfl, rfl⟩ := h
    exact StoreCall.perform_ok hp
  · cases h

/-- What a store call that succeeds does. -/
theorem Happens.commit {i w : Nat} {call : StoreCall} {reply : call.Reply}
    (hs : Happens ⟨i, w, .store call, .ok reply⟩ s s') (hw : s.database.tables.WellFormed) :
    s'.database.tables.WellFormed ∧ s'.database.runs = s.database.runs.draw call.runsDrawn ∧
      call.Turns s.now s.database s'.database.tables reply := by
  obtain ⟨htransaction, hdrawn⟩ := hs.transaction
  obtain ⟨hw', hturns⟩ := StoreCall.transaction_turns hw htransaction
  exact ⟨hw', hdrawn, hturns⟩

/-- What anything else does. -/
theorem Happens.idle (hs : e.Happens s s') (h : e.commits = false) :
    s'.database.tables = s.database.tables ∧ s.database.DrawsOn s'.database := by
  obtain ⟨i, w, r, reply⟩ := e
  rcases hs with ⟨fetch, hp⟩ | ⟨-, rfl⟩
  · cases r with
    | store call =>
      cases reply with
      | ok reply => cases h
      | error failure =>
        rcases hcall : call.perform s.now s.database with ⟨result, db'⟩
        simp only [Request.perform, hcall, Prod.mk.injEq] at hp
        obtain ⟨rfl, rfl⟩ := hp
        obtain ⟨ht, hr⟩ := StoreCall.perform_error hcall
        exact ⟨ht, _, hr⟩
    | analyze | fetchFiles | isCancelled | startRun | cancelRun | finishRun =>
      have hdb : s.database = s'.database := congrArg (·.2.database) hp
      exact ⟨by rw [hdb], 0, by rw [← hdb]; rfl⟩
  · exact ⟨rfl, 0, rfl⟩

/-- What an entry does to the database. -/
structure Effects (now : Moment) (log : List Entry) (e : Entry) (db db' : Database) : Prop where
  tables : db'.tables.WellFormed
  drawn : db.DrawsOn db'
  next : ∀ {ticket}, e.ticket? = some ticket → ticket.run = db.nextRun ∧ db'.runs = db.runs.draw 1
  turns : ∀ v, e.Turns now log v (db.tables.dossier? v) (db'.tables.dossier? v)

/-- **What an entry does.** The tables stay well formed, a run that is queued is drawn for it, and each
dossier goes over as `Turns` says. -/
theorem Happens.effects (hs : e.Happens s s') (hf : e.Follows log) (hw : s.database.tables.WellFormed) :
    Effects s.now log e s.database s'.database := by
  cases hc : e.commits with
  | false =>
    obtain ⟨ht, hr⟩ := hs.idle hc
    refine ⟨ht ▸ hw, hr, fun {ticket} h => ?_, fun v => ht ▸ turns_of_idle hc _⟩
    obtain ⟨i, w, _, _, _, _, rfl⟩ := exists_of_ticket h
    cases hc
  | true =>
    unfold commits at hc
    split at hc
    · obtain ⟨hw', hr, hturns⟩ := hs.commit hw
      refine ⟨hw', ⟨_, hr⟩, fun {ticket} h => ?_, fun v => turns_of_call hf hturns⟩
      obtain ⟨i, w, _, _, _, _, heq⟩ := exists_of_ticket h
      cases heq
      exact ⟨hturns.1, hr⟩
    · cases hc

end Entry

/-! ## Owners -/

/-- Runs are drawn once, and every review has the run of the task that queued it. -/
structure Owned (db : Database) (log : List Entry) : Prop where
  tables : db.tables.WellFormed
  issued : ∀ {i ticket}, (memoryOf log i).ticket = some ticket → db.Issued ticket.run
  unique : ∀ {i j t u}, (memoryOf log i).ticket = some t → (memoryOf log j).ticket = some u → t.run = u.run → i = j
  owner : ∀ {v d}, db.tables.dossier? v = some d → ∃ i, (memoryOf log i).ticket = some ⟨v, d.review.run⟩

namespace Owned

variable {s s' : Service} {log : List Entry} {e : Entry}

theorem concat (h : Owned s.database log) (hf : e.Follows log) (hs : e.Happens s s') :
    Owned s'.database (log ++ [e]) := by
  obtain ⟨hw, hdrawn, hnext, hturns⟩ := hs.effects hf h.tables
  have hnew : ∀ {i t ticket}, e.ticket? = some ticket → (memoryOf log i).ticket = some t → t.run ≠ ticket.run := by
    intro i t ticket ht hi hrun
    refine s.database.not_issued_nextRun ?_
    rw [← (hnext ht).1, ← hrun]
    exact h.issued hi
  constructor
  case tables => exact hw
  case issued =>
    intro i ticket hi
    rcases ticket_concat hi with ⟨ht, -⟩ | hi
    · obtain ⟨hrun, hone⟩ := hnext ht
      exact hrun ▸ Database.issued_nextRun hone
    · exact (h.issued hi).mono hdrawn
  case unique =>
    intro i j t u hi hj hrun
    rcases ticket_concat hi with ⟨ht, rfl⟩ | hi <;> rcases ticket_concat hj with ⟨hu, rfl⟩ | hj
    · rfl
    · exact absurd hrun.symm (hnew ht hj)
    · exact absurd hrun (hnew hu hi)
    · exact h.unique hi hj hrun
  case owner =>
    intro v d hd
    have hold : ∀ {d₀ : Dossier}, s.database.tables.dossier? v = some d₀ → d.review.run = d₀.review.run →
        ∃ i, (memoryOf (log ++ [e]) i).ticket = some ⟨v, d.review.run⟩ := by
      intro d₀ hd₀ hrun
      obtain ⟨i, hi⟩ := h.owner hd₀
      exact ⟨i, takes_ticket.concat hf (hrun ▸ hi)⟩
    have hv := hturns v
    rw [hd] at hv
    generalize hbefore : s.database.tables.dossier? v = before at hv
    cases hv with
    | queued _ number repository installation summary ht hv =>
      refine ⟨e.task, ?_⟩
      rw [(hf.of_ticket ht).2, ← hv]
      rfl
    | cancelled | moved | extended | kept => exact hold hbefore rfl

end Owned

theorem History.owned {s : Service} {log : List Entry} (h : History Service.Drifts s log) :
    Owned s.database log := by
  induction h with
  | start now =>
    constructor
    case tables => exact Tables.wellFormed_empty
    case issued => intro i ticket h; cases h
    case unique => intro i j t u h; cases h
    case owner => intro v d h; cases h
  | entry _ hf _ hs ih => exact ih.concat hf hs
  | drift _ hs ih =>
    obtain ⟨ht, hr⟩ := hs
    constructor
    case tables => exact ht ▸ ih.tables
    case issued => exact fun h => (ih.issued h).mono ⟨0, hr⟩
    case unique => exact ih.unique
    case owner => exact fun h => ih.owner (ht ▸ h)

end PullReview
