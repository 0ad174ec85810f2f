import PullReview.Proofs.Store.Transaction
import PullReview.Proofs.Store.Merged
import Mathlib.Data.List.Forall2

/-!
# Tables that lag behind

Where best-effort writes about a review have been lost, its row lags behind: its last change lies elsewhere, and
under some keys its data are others (`Review.Lags`). Store calls do not notice: on tables that lag behind they
reply the same, and they leave tables that lag behind no further (`StoreCall.perform_lags`).
-/

namespace PullReview

/-! ## Data that agree -/

namespace Members

variable {m n later : Members} {key : Text} {keys : List Text}

/-- The same is found under every key but some. -/
def AgreeOff (keys : List Text) (m n : Members) : Prop := ∀ key ∉ keys, n.get? key = m.get? key

theorem AgreeOff.refl (keys : List Text) (m : Members) : m.AgreeOff keys m := fun _ _ => rfl

theorem get?_merge_congr (h : n.get? key = m.get? key) (later : Members) :
    (n.merge later).get? key = (m.merge later).get? key := by
  induction later generalizing m n with
  | nil => exact h
  | cons e later ih =>
    apply ih
    rw [get?_set, get?_set, h]

/-- What is merged last is found whatever was there. -/
theorem get?_merge_of_mem (h : key ∈ later.map (·.1)) (m n : Members) :
    (n.merge later).get? key = (m.merge later).get? key := by
  induction later generalizing m n with
  | nil => cases h
  | cons e later ih =>
    by_cases hkey : e.1 = key
    · refine get?_merge_congr ?_ later
      rw [get?_set, get?_set, if_pos hkey, if_pos hkey]
    · have hrest : key ∈ later.map (·.1) := (List.mem_cons.1 h).resolve_left (Ne.symm hkey)
      exact ih hrest _ _

theorem AgreeOff.merge (h : m.AgreeOff keys n) (later : Members) : (m.merge later).AgreeOff keys (n.merge later) :=
  fun key hkey => get?_merge_congr (h key hkey) later

/-- Merging on one side what is only under those keys. -/
theorem AgreeOff.merge_left (h : m.AgreeOff keys n) (hlater : ∀ e ∈ later, e.1 ∈ keys) :
    (m.merge later).AgreeOff keys n := by
  intro key hkey
  have hne : ∀ e ∈ later, e.1 ≠ key := fun e he heq => hkey (heq ▸ hlater e he)
  rw [get?_merge_of_forall_ne hne, h key hkey]

/-- Merging something under some of the keys leaves fewer of them to differ. -/
theorem AgreeOff.merge_fewer (h : m.AgreeOff keys n) {fewer : List Text}
    (hlater : ∀ key ∈ keys, key ∉ fewer → key ∈ later.map (·.1)) :
    (m.merge later).AgreeOff fewer (n.merge later) := by
  intro key hkey
  by_cases hmem : key ∈ keys
  · exact get?_merge_of_mem (hlater key hmem hkey) m n
  · exact get?_merge_congr (h key hmem) later

end Members

namespace Progress

/-- The keys of best-effort writes. -/
def notedKeys : List Text := ["step", "progress", "files_found", "files_analyzed", "files_to_review"]

/-- Those among them that are not written again when a review is completed. -/
def notedOnlyKeys : List Text := ["files_found", "files_to_review"]

variable {p : Progress}

theorem mem_notedKeys_of_isNote (h : p.isNote = true) : ∀ e ∈ p.written, e.1 ∈ notedKeys := by
  cases p with
  | analyzing percentage found analyzed =>
    cases found <;> cases analyzed <;>
      simp [written, toMembers, toMembers.tag, Members.withoutNulls, Json.ofOption, notedKeys]
  | ready => simp [written, toMembers, toMembers.tag, Members.withoutNulls, notedKeys]
  | _ => cases h

theorem mem_written_of_completed (h : p.step = .completed) :
    ∀ key ∈ notedKeys, key ∉ notedOnlyKeys → key ∈ p.written.map (·.1) := by
  cases p with
  | completed =>
    simp [written, toMembers, toMembers.tag, Members.withoutNulls, notedKeys, notedOnlyKeys]
  | _ => cases h

end Progress

/-! ## Rows that lag behind -/

/-- A row lags behind another: its last change may lie elsewhere and its data may be others under the keys of
best-effort writes; under fewer of them once the review is completed; and only if its run may have lost some. -/
structure Review.Lags (loses : Ticket → Prop) (r s : Review) : Prop where
  row : s = { r with data := s.data, updatedAt := s.updatedAt }
  data : r.data.AgreeOff Progress.notedKeys s.data
  completed : r.status = .completed → r.data.AgreeOff Progress.notedOnlyKeys s.data
  same : s = r ∨ loses ⟨r.id, r.run⟩

namespace Review.Lags

variable {loses loses' : Ticket → Prop} {r s : Review}

theorem refl (loses : Ticket → Prop) (r : Review) : r.Lags loses r :=
  ⟨rfl, .refl _ _, fun _ => .refl _ _, .inl rfl⟩

theorem mono (h : r.Lags loses s) (hloses : ∀ ticket, loses ticket → loses' ticket) : r.Lags loses' s :=
  ⟨h.row, h.data, h.completed, h.same.imp_right (hloses _)⟩

theorem id_eq (h : r.Lags loses s) : s.id = r.id := (congrArg Review.id h.row).trans rfl

theorem number_eq (h : r.Lags loses s) : s.number = r.number := (congrArg Review.number h.row).trans rfl

theorem repository_eq (h : r.Lags loses s) : s.repository = r.repository := (congrArg Review.repository h.row).trans rfl

theorem installation_eq (h : r.Lags loses s) : s.installation = r.installation :=
  (congrArg Review.installation h.row).trans rfl

theorem status_eq (h : r.Lags loses s) : s.status = r.status := (congrArg Review.status h.row).trans rfl

theorem run_eq (h : r.Lags loses s) : s.run = r.run := (congrArg Review.run h.row).trans rfl

theorem mayMove_eq (h : r.Lags loses s) (target : Text) (run : Option Text) :
    Database.mayMove s target run = Database.mayMove r target run := by
  rw [Database.mayMove, Database.mayMove, h.status_eq, h.run_eq]

theorem mayRecord_eq (h : r.Lags loses s) (run : Text) : Database.mayRecord s run = Database.mayRecord r run := by
  rw [Database.mayRecord, Database.mayRecord, h.status_eq, h.run_eq]

/-- Both rows are moved on the same record. -/
theorem moved (h : r.Lags loses s) (now : Moment) (status : ReviewStatus) {written : Members}
    (hwritten : status = .completed → ∃ p : Progress, p.step = .completed ∧ written = p.written) :
    (Database.moved r now status written).Lags loses (Database.moved s now status written) := by
  constructor
  case row =>
    have hrow := h.row
    cases r
    cases s
    simp only [Review.mk.injEq] at hrow
    obtain ⟨rfl, rfl, rfl, rfl, -, rfl, -, rfl, -, rfl⟩ := hrow
    rfl
  case data => exact h.data.merge written
  case completed =>
    intro hstatus
    obtain ⟨p, hp, rfl⟩ := hwritten hstatus
    exact h.data.merge_fewer (Progress.mem_written_of_completed hp)
  case same =>
    rcases h.same with rfl | hloses
    · exact .inl rfl
    · exact .inr hloses

/-- A best-effort write that one of the rows has lost. -/
theorem noted (h : r.Lags loses s) (now : Moment) {p : Progress} (hp : p.isNote = true)
    (hstatus : r.status = .inProgress) (hloses : loses ⟨r.id, r.run⟩) :
    (Database.moved r now .inProgress p.written).Lags loses s := by
  constructor
  case row =>
    have hrow := h.row
    cases r
    cases s
    simp only [Review.mk.injEq] at hrow hstatus
    obtain ⟨rfl, rfl, rfl, rfl, rfl, rfl, -, rfl, -, rfl⟩ := hrow
    subst hstatus
    rfl
  case data => exact h.data.merge_left (Progress.mem_notedKeys_of_isNote hp)
  case completed => exact nofun
  case same => exact .inr hloses

end Review.Lags

/-- The tables are the same but for rows of reviews that lag behind. -/
structure Tables.Lags (loses : Ticket → Prop) (t u : Tables) : Prop where
  rest : u = { t with reviews := u.reviews }
  reviews : List.Forall₂ (Review.Lags loses) t.reviews u.reviews

/-! ## Calls on them -/

/-- A search that does not look at what may differ. -/
theorem find?_lags {loses : Ticket → Prop} {rs us : List Review} (h : List.Forall₂ (Review.Lags loses) rs us)
    {p : Review → Bool} (hp : ∀ {r s}, r.Lags loses s → p s = p r) :
    (rs.find? p = none ∧ us.find? p = none) ∨
      ∃ r s, rs.find? p = some r ∧ us.find? p = some s ∧ r.Lags loses s := by
  induction h with
  | nil => exact .inl ⟨rfl, rfl⟩
  | @cons r s rs us hrs _ ih =>
    rw [List.find?_cons, List.find?_cons, hp hrs]
    cases p r with
    | true => exact .inr ⟨r, s, rfl, rfl, hrs⟩
    | false => exact ih

theorem map_lags {α : Type} {loses : Ticket → Prop} {rs us : List Review}
    (h : List.Forall₂ (Review.Lags loses) rs us) {f : Review → α} (hf : ∀ {r s}, r.Lags loses s → f s = f r) :
    us.map f = rs.map f := by
  induction h with
  | nil => rfl
  | cons hrs _ ih => rw [List.map_cons, List.map_cons, hf hrs, ih]

theorem filter_lags {loses : Ticket → Prop} {rs us : List Review} (h : List.Forall₂ (Review.Lags loses) rs us)
    {p : Review → Bool} (hp : ∀ {r s}, r.Lags loses s → p s = p r) :
    List.Forall₂ (Review.Lags loses) (rs.filter p) (us.filter p) := by
  refine List.rel_filter ?_ h
  intro r s hrs
  exact (Bool.eq_iff_iff.1 (hp hrs)).symm

/-- Changing the same ones of them. -/
theorem change_lags {loses : Ticket → Prop} {rs us : List Review} (h : List.Forall₂ (Review.Lags loses) rs us)
    {p : Review → Prop} [DecidablePred p] {change : Review → Review} (hp : ∀ {r s}, r.Lags loses s → (p s ↔ p r))
    (hchange : ∀ {r s}, r.Lags loses s → (change r).Lags loses (change s)) :
    List.Forall₂ (Review.Lags loses) (rs.map fun r => if p r then change r else r)
      (us.map fun r => if p r then change r else r) := by
  refine List.rel_map (fun r s hrs => ?_) h
  by_cases hr : p r
  · rw [if_pos hr, if_pos ((hp hrs).2 hr)]
    exact hchange hrs
  · rw [if_neg hr, if_neg (mt (hp hrs).1 hr)]
    exact hrs

/-- Two transactions fail in the same way, or come to the same reply and to tables of which one lags behind. -/
def Alike {ρ : Type} (loses : Ticket → Prop) : Except Failure (ρ × Tables) → Except Failure (ρ × Tables) → Prop
  | .ok (a, t), .ok (b, u) => b = a ∧ t.Lags loses u
  | .error e, .error f => f = e
  | _, _ => False

namespace Database

variable {loses : Ticket → Prop} {db : Database} {us : List Review} {now : Moment}

/-- The database with other rows of reviews. -/
def withReviews (db : Database) (us : List Review) : Database := { db with tables := { db.tables with reviews := us } }

/-- What statements a transaction runs does not depend on the rows. -/
theorem alike_statement {ρ : Type} (params : List Param) {f g : Unit → Except Failure (ρ × Tables)}
    (h : Alike loses (f ()) (g ())) :
    Alike loses (db.statement params >>= f) ((db.withReviews us).statement params >>= g) := by
  have hsame : (db.withReviews us).statement params = db.statement params := rfl
  rw [hsame]
  cases db.statement params with
  | error e => exact rfl
  | ok _ => exact h

theorem alike_pure {ρ : Type} (a : ρ) {rest : Tables} (h : List.Forall₂ (Review.Lags loses) rest.reviews us) :
    Alike loses (pure (a, rest)) (pure (a, { rest with reviews := us })) :=
  ⟨rfl, rfl, h⟩

theorem reviewOf?_lags {t : Tables} (h : List.Forall₂ (Review.Lags loses) t.reviews us) (number : Int)
    (repository : Text) :
    (t.reviewOf? number repository = none ∧ Tables.reviewOf? { t with reviews := us } number repository = none) ∨
      ∃ r s, t.reviewOf? number repository = some r ∧
        Tables.reviewOf? { t with reviews := us } number repository = some s ∧ r.Lags loses s :=
  find?_lags h fun hrs => by rw [hrs.number_eq, hrs.repository_eq]

theorem review?_lags (h : List.Forall₂ (Review.Lags loses) db.tables.reviews us) (v : Int) :
    (db.tables.review? v = none ∧ (db.withReviews us).tables.review? v = none) ∨
      ∃ r s, db.tables.review? v = some r ∧ (db.withReviews us).tables.review? v = some s ∧ r.Lags loses s :=
  find?_lags h fun hrs => by rw [hrs.id_eq]

/-- Rows that are queued again are the same. -/
theorem putReview_lags {t : Tables} (h : List.Forall₂ (Review.Lags loses) t.reviews us) (now : Moment) (run : String)
    (number : Int) (repository : Text) (installation : Int) (summary : PullRequestSummary) :
    ∃ us', putReview { t with reviews := us } now run number repository installation summary =
        { putReview t now run number repository installation summary with reviews := us' } ∧
      List.Forall₂ (Review.Lags loses) (putReview t now run number repository installation summary).reviews us' := by
  unfold putReview
  obtain ⟨hr, hs⟩ | ⟨r, s, hr, hs, hrs⟩ := reviewOf?_lags h number repository
  · rw [hr, hs]
    have hids : us.map (·.id) = t.reviews.map (·.id) := map_lags h fun hrs => hrs.id_eq
    refine ⟨_, rfl, List.rel_append h (.cons ?_ .nil)⟩
    rw [Tables.nextReviewId, Tables.nextReviewId, hids]
    exact .refl _ _
  · rw [hr, hs]
    refine ⟨_, rfl, ?_⟩
    simp only [Tables.updateReview, hrs.id_eq]
    refine change_lags h (fun hab => by rw [hab.id_eq]) fun hab => ?_
    rw [hab.id_eq, hab.number_eq, hab.repository_eq]
    exact .refl _ _

theorem queue_alike (h : List.Forall₂ (Review.Lags loses) db.tables.reviews us) (run : String) (number : Int)
    (repository : Text) (installation : Int) (summary : PullRequestSummary) :
    Alike loses (db.queue now run number repository installation summary)
      ((db.withReviews us).queue now run number repository installation summary) := by
  unfold queue
  refine alike_statement _ ?_
  obtain ⟨us', heq, hput⟩ := putReview_lags h now run number repository installation summary
  have hid : ((Tables.reviewOf? { putReview db.tables now run number repository installation summary with
        reviews := us' } number repository).map (·.id)).getD 0 =
      (((putReview db.tables now run number repository installation summary).reviewOf? number repository).map
        (·.id)).getD 0 := by
    obtain ⟨hr, hs⟩ | ⟨r, s, hr, hs, hrs⟩ := reviewOf?_lags hput number repository
    · rw [hr, hs]
    · rw [hr, hs, Option.map_some, Option.map_some, hrs.id_eq]
  have hput' : putReview (db.withReviews us).tables now run number repository installation summary =
      { putReview db.tables now run number repository installation summary with reviews := us' } := heq
  simp only [hput', hid]
  exact ⟨rfl, rfl, hput⟩

theorem move_alike (h : List.Forall₂ (Review.Lags loses) db.tables.reviews us) (review : Int) {target : Text}
    {progress : Progress} (run : Option Text)
    (hcompleted : target = Named.name ReviewStatus.completed → progress.step = .completed) :
    Alike loses (db.move now review target progress run) ((db.withReviews us).move now review target progress run) := by
  unfold move
  refine alike_statement _ ?_
  obtain ⟨hr, hs⟩ | ⟨r, s, hr, hs, hrs⟩ := review?_lags h review
  · rw [hr, hs]
    exact alike_pure false h
  · rw [hr, hs]
    refine alike_statement (.text target :: .int review :: run.toList.map .text) ?_
    cases hstatus : (Named.ofName? target : Option ReviewStatus) with
    | none => exact alike_pure false h
    | some status =>
      simp only [hrs.mayMove_eq]
      split
      · refine ⟨rfl, rfl, ?_⟩
        simp only [Tables.updateReview, hrs.id_eq]
        refine change_lags h (fun hab => by rw [hab.id_eq]) fun hab => hab.moved now status fun hdone => ?_
        have htarget : target = Named.name ReviewStatus.completed := by
          rw [← ReviewStatus.ofName?_eq_some_iff.1 hstatus, hdone]
        exact ⟨progress, hcompleted htarget, rfl⟩
      · exact alike_pure false h

theorem addAnalysis_alike (h : List.Forall₂ (Review.Lags loses) db.tables.reviews us) (review : Int)
    (run status : Text) (analysis : Analysis) (complexity : Int) :
    Alike loses (db.addAnalysis review run status analysis complexity)
      ((db.withReviews us).addAnalysis review run status analysis complexity) := by
  unfold addAnalysis
  refine alike_statement _ ?_
  have hmay : ((db.withReviews us).tables.review? review).any (mayRecord · run) =
      (db.tables.review? review).any (mayRecord · run) := by
    obtain ⟨hr, hs⟩ | ⟨r, s, hr, hs, hrs⟩ := review?_lags h review
    · rw [hr, hs]
    · rw [hr, hs, Option.any_some, Option.any_some, hrs.mayRecord_eq]
  rw [hmay]
  split
  · exact alike_statement _ ⟨rfl, rfl, h⟩
  · exact alike_pure false h

/-- The same reviews are cancelled. -/
theorem cancelAll_lags {t : Tables} (h : List.Forall₂ (Review.Lags loses) t.reviews us) (now : Moment) (reason : Text)
    (fits : Review → Bool) (hfits : ∀ {r s}, r.Lags loses s → fits s = fits r) :
    (cancelAll { t with reviews := us } now reason fits).1 = (cancelAll t now reason fits).1 ∧
      List.Forall₂ (Review.Lags loses) (cancelAll t now reason fits).2.reviews
        (cancelAll { t with reviews := us } now reason fits).2.reviews := by
  have hhit : ∀ {r s}, r.Lags loses s →
      (fits s && (ReviewStatus.sources (Named.name ReviewStatus.cancelled)).contains s.status) =
        (fits r && (ReviewStatus.sources (Named.name ReviewStatus.cancelled)).contains r.status) := by
    intro r s hrs
    rw [hfits hrs, hrs.status_eq]
  constructor
  · exact map_lags (filter_lags h hhit) fun hrs => hrs.id_eq
  · exact change_lags h (fun hrs => Bool.eq_iff_iff.1 (hhit hrs)) fun hrs => hrs.moved now .cancelled nofun

theorem cancel_alike (h : List.Forall₂ (Review.Lags loses) db.tables.reviews us) (number : Int)
    (repository reason : Text) :
    Alike loses (db.cancel now number repository reason) ((db.withReviews us).cancel now number repository reason) := by
  unfold cancel
  refine alike_statement _ ?_
  obtain ⟨hids, hreviews⟩ := cancelAll_lags h now reason
    (fun r => r.number == number && r.repository == repository) fun hrs => by
      rw [hrs.number_eq, hrs.repository_eq]
  exact ⟨hids, rfl, hreviews⟩

theorem dropInstallation_alike (h : List.Forall₂ (Review.Lags loses) db.tables.reviews us) (installation : Int) :
    Alike loses (db.dropInstallation now installation) ((db.withReviews us).dropInstallation now installation) := by
  unfold dropInstallation
  refine alike_statement _ ?_
  obtain ⟨hids, hreviews⟩ := cancelAll_lags h now "installation_deleted" (fun r => r.installation == installation)
    fun hrs => by rw [hrs.installation_eq]
  refine ⟨?_, rfl, hreviews⟩
  exact congrArg (fun ids => Removal.mk ids _ _) hids

theorem putRepositories_alike {t : Tables} (h : List.Forall₂ (Review.Lags loses) t.reviews us) (installation : Int)
    (rs : List Event.Repository) (n : Nat) :
    Alike loses (db.putRepositories installation rs t >>= fun t => pure (n, t))
      ((db.withReviews us).putRepositories installation rs { t with reviews := us } >>= fun t => pure (n, t)) := by
  rw [putRepositories_eq, putRepositories_eq]
  have hcheck : (db.withReviews us).checkRepositories installation rs = db.checkRepositories installation rs := rfl
  rw [hcheck]
  cases db.checkRepositories installation rs with
  | error e => exact rfl
  | ok _ => exact ⟨rfl, rfl, h⟩

/-- An owner is recorded and then the repositories. -/
theorem recorded_alike (h : List.Forall₂ (Review.Lags loses) db.tables.reviews us) (installation : Int)
    (login kind : Text) (rs : List Event.Repository) (n : Nat) :
    Alike loses
      (db.putRepositories installation rs (putInstallation db.tables now installation login kind) >>= fun t =>
        pure (n, t))
      ((db.withReviews us).putRepositories installation rs
        (putInstallation (db.withReviews us).tables now installation login kind) >>= fun t => pure (n, t)) := by
  rw [putInstallation_eq, putInstallation_eq]
  exact putRepositories_alike
    (t := { db.tables with installations := Installation.put installation login kind now db.tables.installations }) h
    installation rs n

theorem saveInstallation_alike (h : List.Forall₂ (Review.Lags loses) db.tables.reviews us) (installation : Int)
    (login kind : Text) (rs : List Event.Repository) :
    Alike loses (db.saveInstallation now installation login kind rs)
      ((db.withReviews us).saveInstallation now installation login kind rs) := by
  unfold saveInstallation
  exact alike_statement _ (recorded_alike h installation login kind rs rs.length)

theorem saveRepositories_alike (h : List.Forall₂ (Review.Lags loses) db.tables.reviews us) (installation : Int)
    (rs : List Event.Repository) (login : Option Text) (kind : Text) :
    Alike loses (db.saveRepositories now installation rs login kind)
      ((db.withReviews us).saveRepositories now installation rs login kind) := by
  have hunnamed : Alike loses (db.putRepositories installation rs db.tables >>= fun t => pure (rs.length, t))
      ((db.withReviews us).putRepositories installation rs (db.withReviews us).tables >>= fun t =>
        pure (rs.length, t)) :=
    putRepositories_alike h installation rs rs.length
  unfold saveRepositories
  cases login with
  | none => exact hunnamed
  | some name =>
    by_cases hname : name = ""
    · subst hname
      exact hunnamed
    · simp only [hname, if_false]
      exact alike_statement _ (recorded_alike h installation name kind rs rs.length)

theorem dropRepositories_alike (h : List.Forall₂ (Review.Lags loses) db.tables.reviews us) (installation : Int)
    (ids : List Int) :
    Alike loses (db.dropRepositories installation ids) ((db.withReviews us).dropRepositories installation ids) := by
  unfold dropRepositories
  split
  · exact alike_pure 0 h
  · exact alike_statement _ ⟨rfl, rfl, h⟩

end Database

open Database in
theorem StoreCall.transaction_alike {loses : Ticket → Prop} {db : Database} {us : List Review}
    (h : List.Forall₂ (Review.Lags loses) db.tables.reviews us) (now : Moment) {call : StoreCall}
    (hcompleted : ∀ review progress run, call = .move review (Named.name ReviewStatus.completed) progress run →
      progress.step = .completed) :
    Alike loses (call.transaction db now) (call.transaction (db.withReviews us) now) := by
  cases call with
  | queue number repository installation summary =>
    exact queue_alike h db.nextRun number repository installation summary
  | move review target progress run =>
    exact move_alike h review run fun htarget => hcompleted review progress run (by rw [htarget])
  | addAnalysis review run status analysis complexity => exact addAnalysis_alike h review run status analysis complexity
  | cancel number repository reason => exact cancel_alike h number repository reason
  | saveInstallation installation login kind rs => exact saveInstallation_alike h installation login kind rs
  | saveRepositories installation rs login kind => exact saveRepositories_alike h installation rs login kind
  | dropRepositories installation ids => exact dropRepositories_alike h installation ids
  | dropInstallation installation => exact dropInstallation_alike h installation

/-- **Store calls do not notice.** On tables that lag behind a call replies the same, and it leaves tables that
lag behind. -/
theorem StoreCall.perform_lags {loses : Ticket → Prop} {db : Database} {us : List Review}
    (h : List.Forall₂ (Review.Lags loses) db.tables.reviews us) (now : Moment) {call : StoreCall}
    (hcompleted : ∀ review progress run, call = .move review (Named.name ReviewStatus.completed) progress run →
      progress.step = .completed) :
    (call.perform now (db.withReviews us)).1 = (call.perform now db).1 ∧
    ∃ us', (call.perform now (db.withReviews us)).2 = (call.perform now db).2.withReviews us' ∧
      List.Forall₂ (Review.Lags loses) (call.perform now db).2.tables.reviews us' := by
  have halike := transaction_alike h now hcompleted
  unfold perform
  cases hp : call.transaction db now with
  | error e =>
    cases hq : call.transaction (db.withReviews us) now with
    | error f =>
      rw [hp, hq] at halike
      obtain rfl : f = e := halike
      exact ⟨rfl, us, rfl, h⟩
    | ok done =>
      rw [hp, hq] at halike
      cases halike
  | ok done =>
    obtain ⟨reply, t⟩ := done
    cases hq : call.transaction (db.withReviews us) now with
    | error f =>
      rw [hp, hq] at halike
      cases halike
    | ok done =>
      obtain ⟨reply', u⟩ := done
      rw [hp, hq] at halike
      obtain ⟨rfl, hrest, hreviews⟩ := halike
      have hdrawn := congrArg (fun tables => { db with runs := db.runs.draw call.runsDrawn, tables }) hrest
      exact ⟨rfl, u.reviews, hdrawn, hreviews⟩

/-! ## Writes that are lost -/

/-- Where a best-effort write on behalf of a run is lost, the row lags behind the one that it would have left. -/
theorem Database.move_noted {loses : Ticket → Prop} {db : Database} {us : List Review} {now : Moment} {t : Tables}
    {ticket : Ticket} {progress : Progress} {moved : Bool} (hw : db.tables.WellFormed)
    (h : List.Forall₂ (Review.Lags loses) db.tables.reviews us) (hnote : progress.isNote = true) (hloses : loses ticket)
    (hbegun : ∀ r ∈ db.tables.reviews, r.id = ticket.review → r.run = ticket.run → r.status ≠ .pending)
    (hok : db.move now ticket.review (Named.name ReviewStatus.inProgress) progress (some ticket.run) = .ok (moved, t)) :
    t = { db.tables with reviews := t.reviews } ∧ List.Forall₂ (Review.Lags loses) t.reviews us := by
  obtain ⟨r, status, hr, hname, hmay, -, rfl⟩ | ⟨-, rfl, -⟩ := move_cases hok
  · obtain rfl : status = .inProgress := ReviewStatus.eq_of_name_eq hname
    refine ⟨rfl, ?_⟩
    rw [Tables.updateReview, List.forall₂_map_left_iff]
    refine ((List.forall₂_and_left _ _).2 ⟨fun r hr => hr, h⟩).imp fun r' s hboth => ?_
    obtain ⟨hmem, hlags⟩ := hboth
    by_cases hid : r'.id = ticket.review
    · -- it is the row that is moved, on behalf of its run
      obtain rfl : r' = r := by
        rw [← Option.some.injEq, ← hr, ← hid, Tables.review?_of_mem hw hmem]
      obtain ⟨hsucc, hadmits⟩ := mayMove_iff.1 hmay
      have hrun : ticket.run = r'.run := Text.ofString_inj.1 (hadmits _ rfl)
      have hstatus : r'.status = .inProgress := by
        have hwaits := hbegun r' hmem hid hrun.symm
        generalize r'.status = status at hsucc hwaits
        cases status with
        | pending => exact absurd rfl hwaits
        | inProgress => rfl
        | completed | failed | cancelled => cases hsucc
      rw [if_pos hid]
      refine hlags.noted now hnote hstatus ?_
      rwa [hid, ← hrun]
    · rw [if_neg hid]
      exact hlags
  · exact ⟨rfl, h⟩

/-- A call for such a write can only fail as the database fails, and leaves what lags behind where it would not have
been made. -/
theorem StoreCall.perform_noted {loses : Ticket → Prop} {db : Database} {us : List Review} (now : Moment)
    {ticket : Ticket} {progress : Progress} (hw : db.tables.WellFormed)
    (h : List.Forall₂ (Review.Lags loses) db.tables.reviews us) (hnote : progress.isNote = true) (hloses : loses ticket)
    (hbegun : ∀ r ∈ db.tables.reviews, r.id = ticket.review → r.run = ticket.run → r.status ≠ .pending)
    (hfits : fitsColumn ticket.review = true) {reply : Except Failure Bool} {db' : Database}
    (hperform : (move ticket.review (Named.name ReviewStatus.inProgress) progress (some ticket.run)).perform now db =
      (reply, db')) :
    (∀ e, reply = .error e → e.isDatabase = true) ∧ db.withReviews us = db'.withReviews us ∧
      List.Forall₂ (Review.Lags loses) db'.tables.reviews us := by
  have hfails : ∀ e, reply = .error e → e.isDatabase = true := by
    rintro e rfl
    rcases perform_error_cases (congrArg Prod.fst hperform) with hdatabase | ⟨-, -, p, hp, hbinds⟩
    · exact hdatabase
    · have hplain : p.isBindable = true := by
        simp only [carried, List.mem_cons, Option.toList_some, List.map_cons, List.map_nil] at hp
        rcases hp with rfl | hp
        · exact hfits
        · split at hp
          · simp only [List.mem_cons, List.not_mem_nil, or_false] at hp
            rcases hp with rfl | rfl | rfl <;> first | exact hfits | rfl
          · cases hp
      rw [hplain] at hbinds
      cases hbinds
  refine ⟨hfails, ?_⟩
  simp only [perform, transaction] at hperform
  cases hmove : db.move now ticket.review (Named.name ReviewStatus.inProgress) progress (some ticket.run) with
  | error e =>
    rw [hmove] at hperform
    cases hperform
    exact ⟨rfl, h⟩
  | ok done =>
    obtain ⟨moved, t⟩ := done
    rw [hmove] at hperform
    cases hperform
    obtain ⟨hrest, hreviews⟩ := Database.move_noted hw h hnote hloses hbegun hmove
    refine ⟨?_, hreviews⟩
    simp only [Database.withReviews, runsDrawn, RunSource.draw, Nat.add_zero]
    rw [hrest]

end PullReview
