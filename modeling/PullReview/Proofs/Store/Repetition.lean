import PullReview.Proofs.Store.Placement
import Mathlib.Data.List.Induction

/-!
# Calls made again

Cancelling, removing an installation and removing repositories come to nothing when they are made again:
the database is the same (`perform_cancel_again`, `perform_dropInstallation_again`,
`perform_dropRepositories_again`). Recording an installation or repositories again moves times of the
installation and nothing else (`saveInstallation_comes`, `saveRepositories_comes`, `recorded_again`); the
list of repositories may well name one of them twice, and then the last time counts (`Repository.named`).
-/

namespace PullReview

/-- An installation whatever its times. -/
def Installation.content (i : Installation) : Installation := { i with createdAt := 0, updatedAt := 0 }

/-! ## Calls that are checked first -/

namespace StoreCall

/-- The call changes the tables by `change`, unless its statements fail, which does not depend on what the
tables hold. -/
def Comes (call : StoreCall) (change : Moment → Tables → Tables) : Prop :=
  ∃ (check : Database → Except Failure Unit) (reply : Moment → Tables → call.Reply),
    (∀ db t, check { db with tables := t } = check db) ∧
    ∀ db now, call.transaction db now = (check db).map fun _ => (reply now db.tables, change now db.tables)

/-- Making a call again: it fails again, or changes the tables again. -/
theorem Comes.again {call : StoreCall} {change : Moment → Tables → Tables} (h : call.Comes change)
    (hdrawn : call.runsDrawn = 0) (db : Database) (now now' : Moment) :
    ((call.perform now db).2 = db ∧ (call.perform now' db).2 = db) ∨
      ((call.perform now db).2 = { db with tables := change now db.tables } ∧
        (call.perform now' { db with tables := change now db.tables }).2 =
          { db with tables := change now' (change now db.tables) }) := by
  obtain ⟨check, reply, hcheck, htransaction⟩ := h
  unfold perform
  simp only [htransaction, hcheck, hdrawn]
  cases check db with
  | error e => exact .inl ⟨rfl, rfl⟩
  | ok _ => exact .inr ⟨rfl, rfl⟩

/-- A change that comes to nothing the second time. -/
theorem Comes.perform_again {call : StoreCall} {change : Moment → Tables → Tables} (h : call.Comes change)
    (hdrawn : call.runsDrawn = 0) (hchange : ∀ now now' t, change now' (change now t) = change now t)
    (db : Database) (now now' : Moment) :
    (call.perform now' (call.perform now db).2).2 = (call.perform now db).2 := by
  obtain ⟨h₁, h₂⟩ | ⟨h₁, h₂⟩ := h.again hdrawn db now now'
  · rw [h₁, h₂]
  · rw [h₁, h₂, hchange]

end StoreCall

/-! ## Cancelling and removing -/

namespace Database

/-- The reviews that are cancelled are not active any more. -/
theorem cancelAll_again (t : Tables) (now now' : Moment) (reason : Text) (fits : Review → Bool) :
    (cancelAll (cancelAll t now reason fits).2 now' reason fits).2 = (cancelAll t now reason fits).2 := by
  have hclosed : (ReviewStatus.sources (Named.name ReviewStatus.cancelled)).contains .cancelled = false := by decide
  simp only [cancelAll, List.map_map]
  refine congrArg (fun reviews => { t with reviews }) (List.map_congr_left fun r _ => ?_)
  by_cases hr : (fits r && (ReviewStatus.sources (Named.name ReviewStatus.cancelled)).contains r.status) = true
  · simp only [Function.comp_apply, hr, if_true, moved, hclosed, Bool.and_false, Bool.false_eq_true, if_false]
  · rw [Function.comp_apply, if_neg hr, if_neg hr]

end Database

namespace StoreCall

open Database

theorem cancel_comes (number : Int) (repository reason : Text) :
    (cancel number repository reason).Comes fun now t =>
      (cancelAll t now reason fun r => r.number == number && r.repository == repository).2 := by
  refine ⟨(·.statement [number, repository]),
    fun now t => (cancelAll t now reason fun r => r.number == number && r.repository == repository).1, fun _ _ => rfl,
    fun db now => ?_⟩
  unfold transaction Database.cancel
  cases db.statement [number, repository] <;> rfl

theorem perform_cancel_again (number : Int) (repository reason : Text) (db : Database) (now now' : Moment) :
    ((cancel number repository reason).perform now' ((cancel number repository reason).perform now db).2).2 =
      ((cancel number repository reason).perform now db).2 :=
  (cancel_comes number repository reason).perform_again rfl (fun now now' t => cancelAll_again t now now' reason _) db
    now now'

theorem dropInstallation_comes (installation : Int) :
    (dropInstallation installation).Comes fun now t =>
      { (cancelAll t now "installation_deleted" (·.installation == installation)).2 with
        repositories := t.repositories.filter (·.installation != installation)
        installations := t.installations.filter (·.id != installation) } := by
  refine ⟨(·.statement [installation]),
    fun now t =>
      ⟨(cancelAll t now "installation_deleted" (·.installation == installation)).1,
        t.repositories.countP (·.installation == installation), t.installations.countP (·.id == installation)⟩,
    fun _ _ => rfl, fun db now => ?_⟩
  unfold transaction Database.dropInstallation
  cases db.statement [installation] <;> rfl

theorem perform_dropInstallation_again (installation : Int) (db : Database) (now now' : Moment) :
    ((dropInstallation installation).perform now' ((dropInstallation installation).perform now db).2).2 =
      ((dropInstallation installation).perform now db).2 := by
  refine (dropInstallation_comes installation).perform_again rfl (fun now now' t => ?_) db now now'
  have hreviews := congrArg Tables.reviews
    (cancelAll_again t now now' "installation_deleted" (·.installation == installation))
  simp only [Tables.mk.injEq, List.filter_filter, Bool.and_self, and_true]
  exact ⟨hreviews, rfl, rfl⟩

theorem dropRepositories_comes (installation : Int) {ids : List Int} (h : ids ≠ []) :
    (dropRepositories installation ids).Comes fun _ t =>
      { t with
        repositories := t.repositories.filter fun row =>
          !(row.installation == installation && ids.contains row.repo) } := by
  have hids : ids.isEmpty = false := List.isEmpty_eq_false_iff.2 h
  refine ⟨(·.statement ((installation :: ids).map .int)),
    fun _ t => t.repositories.countP fun row => row.installation == installation && ids.contains row.repo,
    fun _ _ => rfl, fun db _ => ?_⟩
  unfold transaction Database.dropRepositories
  simp only [hids]
  cases db.statement ((installation :: ids).map .int) <;> rfl

theorem perform_dropRepositories_again (installation : Int) (ids : List Int) (db : Database) (now now' : Moment) :
    ((dropRepositories installation ids).perform now' ((dropRepositories installation ids).perform now db).2).2 =
      ((dropRepositories installation ids).perform now db).2 := by
  by_cases hids : ids = []
  · subst hids
    rfl
  · exact (dropRepositories_comes installation hids).perform_again rfl (fun _ _ t => by simp [List.filter_filter]) db
      now now'

end StoreCall

/-! ## Recording repositories -/

namespace Repository

/-- The row is of the repository with the given id. -/
def IsOf (row : Repository) (installation : Int) (r : Event.Repository) : Prop :=
  row.installation = installation ∧ row.repo = r.id

instance (row : Repository) (installation : Int) (r : Event.Repository) : Decidable (row.IsOf installation r) :=
  inferInstanceAs (Decidable (_ ∧ _))

/-- The row with what is said of a repository, if it is of that one. -/
def named (installation : Int) (row : Repository) (r : Event.Repository) : Repository :=
  if row.IsOf installation r then { row with fullName := r.fullName, isPrivate := r.isPrivate } else row

variable {installation : Int} {row : Repository} {r q : Event.Repository} {rs : List Event.Repository}
  {rows : List Repository}

theorem isOf_named : (row.named installation r).IsOf installation q ↔ row.IsOf installation q := by
  unfold named
  split <;> exact Iff.rfl

theorem named_of_not_isOf (h : ¬ row.IsOf installation r) : row.named installation r = row := if_neg h

/-- What was said before of the same repository does not count. -/
theorem named_named (h : row.IsOf installation q) :
    (row.named installation r).named installation q = row.named installation q := by
  rw [named, if_pos (isOf_named.2 h), named, named, if_pos h]
  split <;> rfl

theorem named_foldl_named (h : row.IsOf installation q) :
    (rs.foldl (named installation) row).named installation q = row.named installation q := by
  induction rs generalizing row with
  | nil => rfl
  | cons r rs ih => exact (ih (isOf_named.2 h)).trans (named_named h)

/-- The rows with one more repository said. -/
def put (installation : Int) (rows : List Repository) (r : Event.Repository) : List Repository :=
  if ∃ row ∈ rows, row.IsOf installation r then rows.map (named installation · r)
  else rows ++ [⟨nextId (rows.map (·.id)), installation, r.id, r.fullName, r.isPrivate⟩]

/-- A row that is there stays, with what is said of it. -/
theorem exists_mem_put (h : ∃ row ∈ rows, row.IsOf installation q) :
    ∃ row ∈ put installation rows r, row.IsOf installation q := by
  obtain ⟨row, hrow, hq⟩ := h
  unfold put
  split
  · exact ⟨_, List.mem_map_of_mem hrow, isOf_named.2 hq⟩
  · exact ⟨row, List.mem_append_left _ hrow, hq⟩

theorem exists_mem_put_self : ∃ row ∈ put installation rows r, row.IsOf installation r := by
  unfold put
  split
  · rename_i h
    obtain ⟨row, hrow, hr⟩ := h
    exact ⟨_, List.mem_map_of_mem hrow, isOf_named.2 hr⟩
  · exact ⟨_, List.mem_append_right _ List.mem_cons_self, rfl, rfl⟩

/-- All repositories that were said have their rows. -/
theorem exists_mem_foldl_put : ∀ r ∈ rs, ∃ row ∈ rs.foldl (put installation) rows, row.IsOf installation r := by
  induction rs using List.reverseRecOn with
  | nil => nofun
  | append_singleton rs q ih =>
    intro r hr
    rw [List.foldl_append]
    rcases List.mem_append.1 hr with hr | hr
    · exact exists_mem_put (ih r hr)
    · exact List.mem_singleton.1 hr ▸ exists_mem_put_self

/-- The rows tell what was said last of their repositories. -/
theorem foldl_named_of_mem (h : row ∈ rs.foldl (put installation) rows) :
    rs.foldl (named installation) row = row := by
  induction rs using List.reverseRecOn generalizing row with
  | nil => rfl
  | append_singleton rs q ih =>
    rw [List.foldl_append] at h ⊢
    change row ∈ put installation _ q at h
    show named installation _ q = row
    by_cases hq : row.IsOf installation q
    · rw [named_foldl_named hq]
      unfold put at h
      split at h
      · obtain ⟨before, -, rfl⟩ := List.mem_map.1 h
        exact named_named (isOf_named.1 hq)
      · rename_i hnone
        rcases List.mem_append.1 h with h | h
        · exact absurd ⟨row, h, hq⟩ hnone
        · rw [List.mem_singleton.1 h]
          exact ite_self _
    · -- the row was there before, as it is
      have hbefore : row ∈ rs.foldl (put installation) rows := by
        unfold put at h
        split at h
        · obtain ⟨before, hbefore, rfl⟩ := List.mem_map.1 h
          rwa [named_of_not_isOf fun h => hq (isOf_named.2 h)]
        · rcases List.mem_append.1 h with h | h
          · exact h
          · exact absurd (List.mem_singleton.1 h ▸ ⟨rfl, rfl⟩) hq
      rw [ih hbefore, named_of_not_isOf hq]

/-- Where all rows are there, they are changed in place. -/
theorem foldl_put_of_exists (h : ∀ r ∈ rs, ∃ row ∈ rows, row.IsOf installation r) :
    rs.foldl (put installation) rows = rows.map (rs.foldl (named installation)) := by
  induction rs generalizing rows with
  | nil => exact (List.map_id rows).symm
  | cons r rs ih =>
    have hput : put installation rows r = rows.map (named installation · r) := if_pos (h r List.mem_cons_self)
    rw [List.foldl_cons, ih fun q hq => exists_mem_put (h q (List.mem_cons_of_mem r hq)), hput, List.map_map]
    rfl

theorem foldl_put_again :
    rs.foldl (put installation) (rs.foldl (put installation) rows) = rs.foldl (put installation) rows := by
  rw [foldl_put_of_exists exists_mem_foldl_put]
  exact (List.map_congr_left fun row hrow => foldl_named_of_mem hrow).trans (List.map_id _)

end Repository

namespace Database

theorem putRepository_eq (t : Tables) (installation : Int) (r : Event.Repository) :
    putRepository t installation r = { t with repositories := Repository.put installation t.repositories r } := by
  have hany : (t.repositories.any fun row => row.installation == installation && row.repo == r.id) = true ↔
      ∃ row ∈ t.repositories, row.IsOf installation r := by
    simp only [List.any_eq_true, Bool.and_eq_true, beq_iff_eq, Repository.IsOf]
  unfold putRepository Repository.put
  by_cases h : ∃ row ∈ t.repositories, row.IsOf installation r
  · rw [if_pos (hany.2 h), if_pos h]
    rfl
  · rw [if_neg (mt hany.1 h), if_neg h]
    rfl

/-- Whether the statements for some repositories fail. -/
def checkRepositories (db : Database) (installation : Int) (rs : List Event.Repository) : Except Failure Unit :=
  rs.forM fun r => db.statement (paramsOfRepository installation r)

theorem putRepositories_eq (db : Database) (installation : Int) (rs : List Event.Repository) (t : Tables) :
    db.putRepositories installation rs t = (db.checkRepositories installation rs).map fun _ =>
      { t with repositories := rs.foldl (Repository.put installation) t.repositories } := by
  induction rs generalizing t with
  | nil => rfl
  | cons r rs ih =>
    have hcheck : db.checkRepositories installation (r :: rs) =
        db.statement (paramsOfRepository installation r) >>= fun _ => db.checkRepositories installation rs := rfl
    rw [putRepositories, ih, putRepository_eq, hcheck]
    cases db.statement (paramsOfRepository installation r) with
    | error e => rfl
    | ok _ => rfl

/-! ## Recording installations -/

end Database

namespace Installation

/-- The rows with an installation's owner as said. -/
def put (installation : Int) (login kind : Text) (now : Moment) (rows : List Installation) : List Installation :=
  if ∃ i ∈ rows, i.id = installation then
    rows.map fun i => if i.id = installation then { i with login, kind, updatedAt := now } else i
  else Database.insertInstallation ⟨installation, login, kind, now, now⟩ rows

/-- The rows with an installation's owner as said, where one is named. -/
def putNamed (installation : Int) (kind : Text) (now : Moment) (rows : List Installation) :
    Option Text → List Installation
  | none => rows
  | some login => put installation login kind now rows

variable {installation : Int} {login kind : Text} {rows : List Installation}

theorem mem_insertInstallation {i j : Installation} {js : List Installation} :
    j ∈ Database.insertInstallation i js ↔ j = i ∨ j ∈ js := by
  induction js with
  | nil => exact List.mem_cons
  | cons k js ih =>
    unfold Database.insertInstallation
    split
    · exact List.mem_cons
    · rw [List.mem_cons, ih, List.mem_cons]
      tauto

/-- The installation is there and as said. -/
def Said (installation : Int) (login kind : Text) (rows : List Installation) : Prop :=
  (∃ i ∈ rows, i.id = installation) ∧ ∀ i ∈ rows, i.id = installation → i.login = login ∧ i.kind = kind

theorem said_put (installation : Int) (login kind : Text) (now : Moment) (rows : List Installation) :
    Said installation login kind (put installation login kind now rows) := by
  unfold put
  split
  · rename_i hsome
    obtain ⟨i, hi, hid⟩ := hsome
    refine ⟨⟨_, List.mem_map_of_mem hi, by rw [if_pos hid]; exact hid⟩, fun j hj hjd => ?_⟩
    obtain ⟨k, -, rfl⟩ := List.mem_map.1 hj
    by_cases hk : k.id = installation
    · rw [if_pos hk]
      exact ⟨rfl, rfl⟩
    · rw [if_neg hk] at hjd
      exact absurd hjd hk
  · rename_i hnone
    refine ⟨⟨⟨installation, login, kind, now, now⟩, mem_insertInstallation.2 (.inl rfl), rfl⟩, fun j hj hjd => ?_⟩
    rcases mem_insertInstallation.1 hj with rfl | hj
    · exact ⟨rfl, rfl⟩
    · exact absurd ⟨j, hj, hjd⟩ hnone

/-- Saying the same again moves times. -/
theorem put_of_said (h : Said installation login kind rows) (now : Moment) :
    (put installation login kind now rows).map content = rows.map content := by
  obtain ⟨hsome, hsaid⟩ := h
  rw [put, if_pos hsome, List.map_map]
  refine List.map_congr_left fun j hj => ?_
  by_cases hjd : j.id = installation
  · obtain ⟨hl, hk⟩ := hsaid j hj hjd
    simp only [Function.comp_apply, hjd, if_true, content, hl, hk]
  · rw [Function.comp_apply, if_neg hjd]

theorem putNamed_again (installation : Int) (kind : Text) (now now' : Moment) (rows : List Installation)
    (login : Option Text) :
    (putNamed installation kind now' (putNamed installation kind now rows login) login).map content =
      (putNamed installation kind now rows login).map content := by
  cases login with
  | none => rfl
  | some login => exact put_of_said (said_put ..) now'

end Installation

/-- The tables differ in the times of installations at most. -/
structure Tables.SameButTimes (t t' : Tables) : Prop where
  eq : t' = { t with installations := t'.installations }
  installations : t'.installations.map Installation.content = t.installations.map Installation.content

namespace Database

theorem putInstallation_eq (t : Tables) (now : Moment) (installation : Int) (login kind : Text) :
    putInstallation t now installation login kind =
      { t with installations := Installation.put installation login kind now t.installations } := by
  have hany : (t.installations.any (·.id == installation)) = true ↔ ∃ i ∈ t.installations, i.id = installation := by
    simp only [List.any_eq_true, beq_iff_eq]
  unfold putInstallation Installation.put
  by_cases h : ∃ i ∈ t.installations, i.id = installation
  · rw [if_pos (hany.2 h), if_pos h]
  · rw [if_neg (mt hany.1 h), if_neg h]

/-- The tables with an owner and repositories recorded. -/
def recorded (installation : Int) (login : Option Text) (kind : Text) (rs : List Event.Repository) (now : Moment)
    (t : Tables) : Tables :=
  { t with
    installations := Installation.putNamed installation kind now t.installations login
    repositories := rs.foldl (Repository.put installation) t.repositories }

theorem recorded_again (installation : Int) (login : Option Text) (kind : Text) (rs : List Event.Repository)
    (now now' : Moment) (t : Tables) :
    (recorded installation login kind rs now t).SameButTimes
      (recorded installation login kind rs now' (recorded installation login kind rs now t)) := by
  constructor
  case eq =>
    unfold recorded
    rw [Repository.foldl_put_again]
  case installations => exact Installation.putNamed_again ..

end Database

namespace StoreCall

theorem Comes.perform_sameButTimes {call : StoreCall} {installation : Int} {login : Option Text} {kind : Text}
    {rs : List Event.Repository} (h : call.Comes (Database.recorded installation login kind rs))
    (hdrawn : call.runsDrawn = 0) (db : Database) (now now' : Moment) :
    (call.perform now db).2.tables.SameButTimes (call.perform now' (call.perform now db).2).2.tables := by
  obtain ⟨h₁, h₂⟩ | ⟨h₁, h₂⟩ := h.again hdrawn db now now'
  · rw [h₁, h₂]
    exact ⟨rfl, rfl⟩
  · rw [h₁, h₂]
    exact Database.recorded_again ..

theorem saveInstallation_comes (installation : Int) (login kind : Text) (rs : List Event.Repository) :
    (saveInstallation installation login kind rs).Comes (Database.recorded installation (some login) kind rs) := by
  refine ⟨fun db => db.statement [installation, login, kind] >>= fun _ => db.checkRepositories installation rs,
    fun _ _ => rs.length, fun _ _ => rfl, fun db now => ?_⟩
  simp only [transaction, Database.saveInstallation, Database.putRepositories_eq, Database.putInstallation_eq]
  cases db.statement [installation, login, kind] with
  | error e => rfl
  | ok _ =>
    simp only [bind, Except.bind]
    cases db.checkRepositories installation rs <;> rfl

theorem saveRepositories_comes (installation : Int) (rs : List Event.Repository) (login : Option Text)
    (kind : Text) :
    (saveRepositories installation rs login kind).Comes
      (Database.recorded installation (login.filter (· ≠ "")) kind rs) := by
  have hunnamed :
      (saveRepositories installation rs none kind).Comes (Database.recorded installation none kind rs) := by
    refine ⟨fun db => db.checkRepositories installation rs, fun _ _ => rs.length, fun _ _ => rfl, fun db now => ?_⟩
    simp only [transaction, Database.saveRepositories, Database.putRepositories_eq, pure_bind]
    cases db.checkRepositories installation rs <;> rfl
  cases login with
  | none => exact hunnamed
  | some login =>
    by_cases hlogin : login = ""
    · subst hlogin
      exact hunnamed
    · rw [Option.filter_some_pos (by simpa using hlogin)]
      obtain ⟨check, reply, hcheck, htransaction⟩ := saveInstallation_comes installation login kind rs
      refine ⟨check, reply, hcheck, fun db now => ?_⟩
      rw [← htransaction]
      simp only [transaction, Database.saveRepositories, Database.saveInstallation, hlogin, if_false]
      cases db.statement [installation, login, kind] <;> rfl

end StoreCall

end PullReview
