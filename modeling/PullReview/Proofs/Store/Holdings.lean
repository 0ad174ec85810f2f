import PullReview.Proofs.Store.Life
import PullReview.Proofs.Store.Transaction
import Mathlib.Data.Set.Card
import Mathlib.Data.Finset.Dedup

/-!
# The repositories that are held

The repositories of installations as a map (`Holdings`): from the installation and the id of a repository to
what is kept of it. Recording puts its repositories into the map one after the other, removing takes keys out of
it, and nothing else changes it (`Holdings.turn`). The rows of repositories are such a map with one row
for each of its keys (`Holdings.KeptIn`): store calls on the one do what they do on the other, for any number
of calls that succeed or fail (`repositories_hold`).
-/

namespace PullReview

/-- What is kept of a repository besides its ids. -/
structure Holding where
  fullName : Text
  isPrivate : Bool
  deriving DecidableEq, Repr

namespace Repository

/-- What identifies a repository: its installation and its id there. -/
def key (row : Repository) : Int × Int := (row.installation, row.repo)

def holding (row : Repository) : Holding := ⟨row.fullName, row.isPrivate⟩

end Repository

/-- What is kept of the repository with a key, for all keys. -/
abbrev Holdings : Type := Int × Int → Option Holding

namespace Holdings

/-- The map with one more repository of an installation, or with it in the place of what was kept of it. -/
def put (installation : Int) (m : Holdings) (r : Event.Repository) : Holdings :=
  Function.update m (installation, r.id) (some ⟨r.fullName, r.isPrivate⟩)

/-- The map without some keys. -/
def erase (m : Holdings) (gone : Int × Int → Bool) : Holdings := fun key => if gone key then none else m key

/-- What a call makes of the map when it succeeds. -/
def turn (m : Holdings) : StoreCall → Holdings
  | .saveInstallation installation _ _ repositories => repositories.foldl (put installation) m
  | .saveRepositories installation repositories _ _ => repositories.foldl (put installation) m
  | .dropRepositories installation ids => m.erase fun key => key.1 == installation && ids.contains key.2
  | .dropInstallation installation => m.erase fun key => key.1 == installation
  | .queue .. | .move .. | .addAnalysis .. | .cancel .. => m

/-- What calls made one after the other make of the map. Those that fail make nothing of it. -/
def after : Database → Holdings → List TimedCall → Holdings
  | _, m, [] => m
  | db, m, c :: calls => after (db.performed c) (if (c.perform db).1.isOk then m.turn c.call else m) calls

/-- The keys that a call takes out of the map. -/
def erasedBy (m : Holdings) (call : StoreCall) : Set (Int × Int) := {key | (m key).isSome ∧ m.turn call key = none}

/-- What a call that succeeds tells about the map: how many repositories it was given to record, or how many
were there and are gone. -/
def Tells (m : Holdings) : (call : StoreCall) → call.Reply → Prop
  | .saveInstallation _ _ _ repositories, n => n = repositories.length
  | .saveRepositories _ repositories _ _, n => n = repositories.length
  | .dropRepositories installation ids, n => (m.erasedBy (.dropRepositories installation ids)).encard = n
  | .dropInstallation installation, removal =>
    (m.erasedBy (.dropInstallation installation)).encard = removal.repositories
  | .queue .., _ | .move .., _ | .addAnalysis .., _ | .cancel .., _ => True

/-- The rows are the map, a row for each key. -/
structure KeptIn (m : Holdings) (rows : List Repository) : Prop where
  ids : (rows.map (·.id)).Pairwise (· < ·)
  keys : (rows.map Repository.key).Nodup
  holds : ∀ key h, m key = some h ↔ ∃ row ∈ rows, row.key = key ∧ row.holding = h

end Holdings

/-! ## What calls make of rows -/

/-- What a call makes of the rows of repositories when it succeeds. -/
def StoreCall.rows (rows : List Repository) : StoreCall → List Repository
  | saveInstallation installation _ _ repositories => repositories.foldl (Repository.put installation) rows
  | saveRepositories installation repositories _ _ => repositories.foldl (Repository.put installation) rows
  | dropRepositories installation ids =>
    rows.filter fun row => !(row.installation == installation && ids.contains row.repo)
  | dropInstallation installation => rows.filter (·.installation != installation)
  | queue .. | move .. | addAnalysis .. | cancel .. => rows

/-- What a call makes of the rows of installations when it succeeds. -/
def StoreCall.owners (now : Moment) (rows : List Installation) : StoreCall → List Installation
  | saveInstallation installation login kind _ => Installation.put installation login kind now rows
  | saveRepositories installation _ login kind =>
    Installation.putNamed installation kind now rows (login.filter (· ≠ ""))
  | dropInstallation installation => rows.filter (·.id != installation)
  | queue .. | move .. | addAnalysis .. | cancel .. | dropRepositories .. => rows

namespace StoreCall

open Database

/-- The installation whose owner a call records. -/
def recorded? : StoreCall → Option Int
  | saveInstallation installation .. => some installation
  | saveRepositories installation _ login _ => (login.filter fun name : Text => name ≠ "").map fun _ => installation
  | queue .. | move .. | addAnalysis .. | cancel .. | dropRepositories .. | dropInstallation .. => none

/-- The installation that a call removes. -/
def uninstalled? : StoreCall → Option Int
  | dropInstallation installation => some installation
  | queue .. | move .. | addAnalysis .. | cancel .. | saveInstallation .. | saveRepositories ..
  | dropRepositories .. => none

variable {db : Database} {now : Moment} {t : Tables}

/-- A call that comes to a change has changed the tables by it when it succeeds. -/
theorem Comes.tables_eq {call : StoreCall} {change : Moment → Tables → Tables} (h : call.Comes change)
    {reply : call.Reply} (ht : call.transaction db now = .ok (reply, t)) : t = change now db.tables := by
  obtain ⟨check, replies, -, htransaction⟩ := h
  rw [htransaction] at ht
  cases hcheck : check db with
  | error e =>
    rw [hcheck] at ht
    cases ht
  | ok u =>
    rw [hcheck] at ht
    cases ht
    rfl

theorem transaction_books {call : StoreCall} {reply : call.Reply} (h : call.transaction db now = .ok (reply, t)) :
    t.repositories = call.rows db.tables.repositories ∧ t.installations = call.owners now db.tables.installations := by
  cases call with
  | queue number repository installation summary =>
    have h := statement_bind_eq_ok h
    cases h
    simp only [rows, owners, Tables.discardDerived, putReview]
    split <;> exact ⟨rfl, rfl⟩
  | move review target progress run =>
    obtain ⟨r, status, -, -, -, -, rfl⟩ | ⟨-, rfl, -⟩ := move_cases h
    · exact ⟨rfl, rfl⟩
    · exact ⟨rfl, rfl⟩
  | addAnalysis review run status analysis complexity =>
    obtain ⟨r, -, -, -, -, rfl⟩ | ⟨-, rfl, -⟩ := addAnalysis_cases h
    · exact ⟨rfl, rfl⟩
    · exact ⟨rfl, rfl⟩
  | cancel number repository reason =>
    rw [(cancel_comes number repository reason).tables_eq h]
    exact ⟨rfl, rfl⟩
  | saveInstallation installation login kind repositories =>
    rw [(saveInstallation_comes installation login kind repositories).tables_eq h]
    exact ⟨rfl, rfl⟩
  | saveRepositories installation repositories login kind =>
    rw [(saveRepositories_comes installation repositories login kind).tables_eq h]
    exact ⟨rfl, rfl⟩
  | dropRepositories installation ids =>
    by_cases hids : ids = []
    · subst hids
      cases h
      simp [rows, owners]
    · rw [(dropRepositories_comes installation hids).tables_eq h]
      exact ⟨rfl, rfl⟩
  | dropInstallation installation =>
    rw [(dropInstallation_comes installation).tables_eq h]
    exact ⟨rfl, rfl⟩

end StoreCall

/-! ## Which installations are there -/

namespace Installation

variable {installation : Int} {login kind : Text} {now : Moment} {rows : List Installation} {i : Int}

/-- Recording the owner again leaves all ids. -/
theorem map_id_retold :
    (rows.map fun i => if i.id = installation then { i with login, kind, updatedAt := now } else i).map (·.id) =
      rows.map (·.id) := by
  rw [List.map_map]
  apply List.map_congr_left
  intro row _
  simp only [Function.comp_apply]
  split <;> rfl

theorem mem_id_put :
    i ∈ (put installation login kind now rows).map (·.id) ↔ i = installation ∨ i ∈ rows.map (·.id) := by
  unfold put
  split
  · rename_i h
    obtain ⟨row, hrow, hid⟩ := h
    rw [map_id_retold]
    constructor
    · exact .inr
    · rintro (rfl | h)
      · exact List.mem_map.2 ⟨row, hrow, hid⟩
      · exact h
  · simp only [List.mem_map, mem_insertInstallation]
    constructor
    · rintro ⟨row, rfl | hrow, rfl⟩
      · exact .inl rfl
      · exact .inr ⟨row, hrow, rfl⟩
    · rintro (rfl | ⟨row, hrow, rfl⟩)
      · exact ⟨_, .inl rfl, rfl⟩
      · exact ⟨row, .inr hrow, rfl⟩

end Installation

namespace StoreCall

variable {call : StoreCall} {now : Moment}

theorem mem_id_owners {installations : List Installation} {i : Int} :
    i ∈ (call.owners now installations).map (·.id) ↔
      call.recorded? = some i ∨ i ∈ installations.map (·.id) ∧ call.uninstalled? ≠ some i := by
  cases call with
  | saveInstallation installation login kind added =>
    rw [owners, Installation.mem_id_put, recorded?, uninstalled?, Option.some.injEq, @eq_comm _ installation]
    simp
  | saveRepositories installation added login kind =>
    rw [owners, recorded?, uninstalled?]
    cases login.filter fun name : Text => name ≠ "" with
    | none => simp [Installation.putNamed]
    | some login =>
      rw [Installation.putNamed, Installation.mem_id_put, Option.map_some, Option.some.injEq, @eq_comm _ installation]
      simp
  | dropInstallation installation =>
    rw [owners, recorded?, uninstalled?, or_iff_right (Option.some_ne_none _).symm]
    simp only [List.mem_map, List.mem_filter, bne_iff_ne, ne_eq, Option.some.injEq]
    constructor
    · rintro ⟨row, ⟨hrow, hid⟩, rfl⟩
      exact ⟨⟨row, hrow, rfl⟩, Ne.symm hid⟩
    · rintro ⟨⟨row, hrow, rfl⟩, hid⟩
      exact ⟨row, ⟨hrow, Ne.symm hid⟩, rfl⟩
  | _ => simp [owners, recorded?, uninstalled?]

end StoreCall

/-! ## Rows and the map -/

namespace Repository

variable {installation : Int} {row row' : Repository} {r : Event.Repository} {rs : List Event.Repository}
  {rows : List Repository}

theorem isOf_iff_key : row.IsOf installation r ↔ row.key = (installation, r.id) := by
  simp [IsOf, key]

theorem key_named : (row.named installation r).key = row.key := by
  unfold named
  split <;> rfl

theorem id_named : (row.named installation r).id = row.id := by
  unfold named
  split <;> rfl

/-- A row that is there keeps its id. -/
theorem exists_mem_put_id (installation : Int) (r : Event.Repository) (h : row ∈ rows) :
    ∃ row' ∈ put installation rows r, row'.key = row.key ∧ row'.id = row.id := by
  unfold put
  split
  · exact ⟨row.named installation r, List.mem_map_of_mem h, key_named, id_named⟩
  · exact ⟨row, List.mem_append_left _ h, rfl, rfl⟩

theorem exists_mem_foldl_put_id (installation : Int) (rs : List Event.Repository) (h : row ∈ rows) :
    ∃ row' ∈ rs.foldl (put installation) rows, row'.key = row.key ∧ row'.id = row.id := by
  induction rs generalizing row rows with
  | nil => exact ⟨row, h, rfl, rfl⟩
  | cons r rs ih =>
    obtain ⟨next, hnext, hkey, hid⟩ := exists_mem_put_id installation r h
    obtain ⟨last, hlast, hkey', hid'⟩ := ih hnext
    exact ⟨last, hlast, hkey'.trans hkey, hid'.trans hid⟩

end Repository

namespace Holdings

variable {m : Holdings} {rows : List Repository} {installation : Int} {r : Event.Repository}

theorem KeptIn.empty : KeptIn (fun _ => none) [] := by
  constructor <;> simp

/-- There is one row for each key. -/
theorem KeptIn.eq_of_key (h : m.KeptIn rows) {row row' : Repository} (hrow : row ∈ rows) (hrow' : row' ∈ rows)
    (hkey : row'.key = row.key) : row' = row :=
  List.inj_on_of_nodup_map h.keys hrow' hrow hkey

theorem KeptIn.isSome_iff (h : m.KeptIn rows) {key : Int × Int} : (m key).isSome ↔ key ∈ rows.map Repository.key := by
  rw [Option.isSome_iff_exists, List.mem_map]
  constructor
  · rintro ⟨holding, hkey⟩
    obtain ⟨row, hrow, hk, -⟩ := (h.holds key holding).1 hkey
    exact ⟨row, hrow, hk⟩
  · rintro ⟨row, hrow, hk⟩
    exact ⟨row.holding, (h.holds key row.holding).2 ⟨row, hrow, hk, rfl⟩⟩

/-- The rows where the repository is there already. -/
theorem KeptIn.named (h : m.KeptIn rows) (hthere : ∃ row ∈ rows, row.IsOf installation r) :
    (m.put installation r).KeptIn (rows.map (Repository.named installation · r)) := by
  have hsaid : ∀ row : Repository, row.IsOf installation r →
      (row.named installation r).holding = ⟨r.fullName, r.isPrivate⟩ := by
    intro row hrow
    rw [Repository.named, if_pos hrow]
    rfl
  constructor
  case ids =>
    have hids : (rows.map (Repository.named installation · r)).map (·.id) = rows.map (·.id) := by
      simp [Repository.id_named]
    rw [hids]
    exact h.ids
  case keys =>
    have hkeys : (rows.map (Repository.named installation · r)).map Repository.key = rows.map Repository.key := by
      simp [Function.comp_def, Repository.key_named]
    rw [hkeys]
    exact h.keys
  case holds =>
    intro key holding
    by_cases hkey : key = (installation, r.id)
    · subst hkey
      rw [Holdings.put, Function.update_self, Option.some.injEq]
      constructor
      · rintro rfl
        obtain ⟨row, hrow, hof⟩ := hthere
        exact ⟨_, List.mem_map_of_mem hrow, Repository.key_named.trans (Repository.isOf_iff_key.1 hof), hsaid row hof⟩
      · rintro ⟨row', hrow', hk, rfl⟩
        obtain ⟨row, -, rfl⟩ := List.mem_map.1 hrow'
        exact (hsaid row (Repository.isOf_iff_key.2 (Repository.key_named.symm.trans hk))).symm
    · have hsame : ∀ row : Repository, row.key = key → row.named installation r = row := by
        intro row hk
        apply Repository.named_of_not_isOf
        intro hof
        exact hkey (hk.symm.trans (Repository.isOf_iff_key.1 hof))
      rw [Holdings.put, Function.update_of_ne hkey, h.holds]
      constructor
      · rintro ⟨row, hrow, hk, hh⟩
        exact ⟨row, List.mem_map.2 ⟨row, hrow, hsame row hk⟩, hk, hh⟩
      · rintro ⟨row', hrow', hk, hh⟩
        obtain ⟨row, hrow, rfl⟩ := List.mem_map.1 hrow'
        have hk : row.key = key := Repository.key_named.symm.trans hk
        rw [hsame row hk] at hh
        exact ⟨row, hrow, hk, hh⟩

/-- The rows where the repository is new. -/
theorem KeptIn.concat (h : m.KeptIn rows) (hnew : ¬ ∃ row ∈ rows, row.IsOf installation r) :
    (m.put installation r).KeptIn
      (rows ++ [⟨nextId (rows.map (·.id)), installation, r.id, r.fullName, r.isPrivate⟩]) := by
  have hnone : ∀ row ∈ rows, row.key ≠ (installation, r.id) := by
    intro row hrow hk
    exact hnew ⟨row, hrow, Repository.isOf_iff_key.2 hk⟩
  constructor
  case ids =>
    rw [List.map_append]
    apply Tables.pairwise_append_next h.ids (List.pairwise_singleton _ _)
    intro i hi
    exact Int.le_of_eq (List.mem_singleton.1 hi).symm
  case keys =>
    rw [List.map_append, List.nodup_append]
    refine ⟨h.keys, List.nodup_singleton _, ?_⟩
    intro key hkey key' hkey'
    obtain ⟨row, hrow, rfl⟩ := List.mem_map.1 hkey
    rw [List.mem_singleton.1 hkey']
    exact hnone row hrow
  case holds =>
    intro key holding
    simp only [List.mem_append, List.mem_singleton, or_and_right, exists_or, exists_eq_left]
    by_cases hkey : key = (installation, r.id)
    · subst hkey
      rw [Holdings.put, Function.update_self, Option.some.injEq]
      constructor
      · rintro rfl
        exact .inr ⟨rfl, rfl⟩
      · rintro (⟨row, hrow, hk, -⟩ | ⟨-, rfl⟩)
        · exact absurd hk (hnone row hrow)
        · rfl
    · rw [Holdings.put, Function.update_of_ne hkey, h.holds]
      constructor
      · exact .inl
      · rintro (h | ⟨hk, -⟩)
        · exact h
        · exact absurd hk.symm hkey

theorem KeptIn.put (h : m.KeptIn rows) (installation : Int) (r : Event.Repository) :
    (m.put installation r).KeptIn (Repository.put installation rows r) := by
  unfold Repository.put
  split
  · exact h.named ‹_›
  · exact h.concat ‹_›

theorem KeptIn.foldl_put (h : m.KeptIn rows) (installation : Int) (rs : List Event.Repository) :
    (rs.foldl (Holdings.put installation) m).KeptIn (rs.foldl (Repository.put installation) rows) := by
  induction rs generalizing m rows with
  | nil => exact h
  | cons r rs ih => exact ih (h.put installation r)

theorem KeptIn.erase (h : m.KeptIn rows) (gone : Int × Int → Bool) :
    (m.erase gone).KeptIn (rows.filter fun row => !gone row.key) := by
  constructor
  case ids => exact h.ids.sublist (List.filter_sublist.map _)
  case keys => exact h.keys.sublist (List.filter_sublist.map _)
  case holds =>
    intro key holding
    rw [Holdings.erase]
    by_cases hgone : gone key = true
    · rw [if_pos hgone]
      constructor
      · nofun
      · rintro ⟨row, hrow, rfl, -⟩
        have hkept := (List.mem_filter.1 hrow).2
        simp [hgone] at hkept
    · rw [if_neg hgone, h.holds]
      constructor
      · rintro ⟨row, hrow, rfl, hh⟩
        exact ⟨row, List.mem_filter.2 ⟨hrow, by simpa using hgone⟩, rfl, hh⟩
      · rintro ⟨row, hrow, hk, hh⟩
        exact ⟨row, List.mem_of_mem_filter hrow, hk, hh⟩

/-- As many keys are erased as there are rows with them. -/
theorem KeptIn.encard_erased (h : m.KeptIn rows) (gone : Int × Int → Bool) :
    {key | (m key).isSome ∧ m.erase gone key = none}.encard = rows.countP fun row => gone row.key := by
  have hset : {key | (m key).isSome ∧ m.erase gone key = none} =
      (((rows.filter fun row => gone row.key).map Repository.key).toFinset : Set (Int × Int)) := by
    ext key
    simp only [Set.mem_ofPred_eq, h.isSome_iff, Holdings.erase, List.coe_toFinset, List.mem_map, List.mem_filter]
    constructor
    · rintro ⟨⟨row, hrow, rfl⟩, hnone⟩
      refine ⟨row, ⟨hrow, ?_⟩, rfl⟩
      by_contra hkept
      rw [if_neg hkept, ← Option.not_isSome_iff_eq_none, h.isSome_iff] at hnone
      exact hnone (List.mem_map_of_mem hrow)
    · rintro ⟨row, ⟨hrow, hgone⟩, rfl⟩
      exact ⟨⟨row, hrow, rfl⟩, if_pos hgone⟩
  have hnodup : ((rows.filter fun row => gone row.key).map Repository.key).Nodup :=
    h.keys.sublist (List.filter_sublist.map _)
  rw [hset, Set.encard_coe_eq_coe_finsetCard, List.toFinset_card_of_nodup hnodup, List.length_map,
    List.countP_eq_length_filter]

/-! ## One call -/

/-- Rows that are the map before a call are what the call makes of it after it. -/
theorem KeptIn.turn (h : m.KeptIn rows) (call : StoreCall) : (m.turn call).KeptIn (call.rows rows) := by
  cases call with
  | queue number repository installation summary => exact h
  | move review target progress run => exact h
  | addAnalysis review run status analysis complexity => exact h
  | cancel number repository reason => exact h
  | saveInstallation installation login kind repositories => exact h.foldl_put installation repositories
  | saveRepositories installation repositories login kind => exact h.foldl_put installation repositories
  | dropRepositories installation ids => exact h.erase fun key => key.1 == installation && ids.contains key.2
  | dropInstallation installation => exact h.erase fun key => key.1 == installation

/-- A row that a call does not take away keeps its id. -/
theorem KeptIn.id_rows (h : m.KeptIn rows) (call : StoreCall) {row row' : Repository} (hrow : row ∈ rows)
    (hrow' : row' ∈ call.rows rows) (hkey : row'.key = row.key) : row'.id = row.id := by
  have hput : ∀ (installation : Int) (rs : List Event.Repository),
      row' ∈ rs.foldl (Repository.put installation) rows → row'.id = row.id := by
    intro installation rs hrow'
    obtain ⟨last, hlast, hk, hid⟩ := Repository.exists_mem_foldl_put_id installation rs hrow
    rw [← hid, (h.foldl_put installation rs).eq_of_key hlast hrow' (hkey.trans hk.symm)]
  have hkept : row' ∈ rows → row'.id = row.id := by
    intro hrow'
    rw [h.eq_of_key hrow hrow' hkey]
  cases call with
  | queue number repository installation summary => exact hkept hrow'
  | move review target progress run => exact hkept hrow'
  | addAnalysis review run status analysis complexity => exact hkept hrow'
  | cancel number repository reason => exact hkept hrow'
  | saveInstallation installation login kind repositories => exact hput installation repositories hrow'
  | saveRepositories installation repositories login kind => exact hput installation repositories hrow'
  | dropRepositories installation ids => exact hkept (List.mem_of_mem_filter hrow')
  | dropInstallation installation => exact hkept (List.mem_of_mem_filter hrow')

/-- What a call tells when it succeeds. -/
theorem KeptIn.tells {db : Database} (h : m.KeptIn db.tables.repositories) {call : StoreCall} {now : Moment}
    {reply : call.Reply} {t : Tables} (hok : call.transaction db now = .ok (reply, t)) : m.Tells call reply := by
  cases call with
  | queue number repository installation summary => trivial
  | move review target progress run => trivial
  | addAnalysis review run status analysis complexity => trivial
  | cancel number repository reason => trivial
  | saveInstallation installation login kind repositories =>
    obtain ⟨t', -, hreply⟩ := Database.bind_eq_ok (Database.statement_bind_eq_ok hok)
    cases hreply
    rfl
  | saveRepositories installation repositories login kind =>
    have hadded : ∀ t₁, (db.putRepositories installation repositories t₁ >>= fun t => .ok (repositories.length, t)) =
        .ok (reply, t) → reply = repositories.length := by
      intro t₁ hok
      obtain ⟨t₂, -, hreply⟩ := Database.bind_eq_ok hok
      cases hreply
      rfl
    simp only [StoreCall.transaction, Database.saveRepositories] at hok
    split at hok
    · split at hok
      · exact hadded _ hok
      · exact hadded _ (Database.statement_bind_eq_ok hok)
    · exact hadded _ hok
  | dropRepositories installation ids =>
    have hcount : reply =
        db.tables.repositories.countP fun row => row.installation == installation && ids.contains row.repo := by
      by_cases hids : ids = []
      · subst hids
        cases hok
        simp
      · have hids : ids.isEmpty = false := List.isEmpty_eq_false_iff.2 hids
        simp only [StoreCall.transaction, Database.dropRepositories, hids] at hok
        have hok := Database.statement_bind_eq_ok hok
        cases hok
        rfl
    rw [hcount]
    exact h.encard_erased fun key => key.1 == installation && ids.contains key.2
  | dropInstallation installation =>
    have hok := Database.statement_bind_eq_ok hok
    cases hok
    exact h.encard_erased fun key => key.1 == installation

end Holdings

namespace Database

variable {db : Database} {m : Holdings}

/-- The step of one call: it fails and leaves the rows, or it does to them what it does to the map. -/
theorem performed_repositories (db : Database) (c : TimedCall) :
    (∃ e, (c.perform db).1 = .error e ∧ (db.performed c).tables.repositories = db.tables.repositories) ∨
    ∃ reply, (c.perform db).1 = .ok reply ∧
      (db.performed c).tables.repositories = c.call.rows db.tables.repositories := by
  obtain ⟨e, he, htables⟩ | ⟨reply, hreply, htransaction⟩ := performed_cases db c
  · exact .inl ⟨e, he, congrArg Tables.repositories htables⟩
  · exact .inr ⟨reply, hreply, (StoreCall.transaction_books htransaction).1⟩

theorem performed_keptIn (h : m.KeptIn db.tables.repositories) (c : TimedCall) :
    Holdings.KeptIn (if (c.perform db).1.isOk then m.turn c.call else m) (db.performed c).tables.repositories := by
  obtain ⟨e, he, hrows⟩ | ⟨reply, hreply, hrows⟩ := performed_repositories db c
  · rw [he, hrows]
    exact h
  · rw [hreply, hrows]
    exact h.turn c.call

/-- The run lemma: the rows stay the map, whatever calls are made. -/
theorem after_keptIn (h : m.KeptIn db.tables.repositories) (calls : List TimedCall) :
    (Holdings.after db m calls).KeptIn (db.after calls).tables.repositories := by
  induction calls generalizing db m with
  | nil => exact h
  | cons c calls ih => exact ih (performed_keptIn h c)

theorem after_hasTables (db : Database) (calls : List TimedCall) : (db.after calls).hasTables = db.hasTables := by
  induction calls generalizing db with
  | nil => rfl
  | cons c calls ih => exact (ih (db.performed c)).trans (performed_frame db c).2.1

end Database

/-- Whether a call records or removes repositories. -/
def StoreCall.keepsBooks : StoreCall → Bool
  | saveInstallation .. | saveRepositories .. | dropRepositories .. | dropInstallation .. => true
  | queue .. | move .. | addAnalysis .. | cancel .. => false

theorem StoreCall.rows_of_not_keepsBooks {call : StoreCall} (h : call.keepsBooks = false) (rows : List Repository) :
    call.rows rows = rows := by
  cases call <;> first | rfl | cases h

/-- **The rows of repositories are the map that the calls make.** Whatever calls have been made, there is one
row for each key of the map, with what the map has there. The next call leaves the id of every row that it does
not remove; a call that fails or is about something else leaves all rows; one that succeeds tells what it
has recorded or erased; and it does succeed where the database answers and all that it carries can be bound. -/
theorem repositories_hold (calls : List TimedCall) (c : TimedCall) :
    let db := Database.after {} calls
    let m := Holdings.after {} (fun _ => none) calls
    m.KeptIn db.tables.repositories ∧
    (∀ row ∈ db.tables.repositories, ∀ row' ∈ (db.performed c).tables.repositories,
      row'.key = row.key → row'.id = row.id) ∧
    ((∃ e, (c.perform db).1 = .error e) ∨ c.call.keepsBooks = false →
      (db.performed c).tables.repositories = db.tables.repositories) ∧
    (∀ reply, (c.perform db).1 = .ok reply → m.Tells c.call reply) ∧
    (c.isUp = true → (∀ p ∈ c.call.carried db.tables, p.isBindable = true) →
      ∃ reply, (c.perform db).1 = .ok reply) := by
  intro db m
  have hkept : m.KeptIn db.tables.repositories := Database.after_keptIn .empty calls
  refine ⟨hkept, ?_, ?_, ?_, ?_⟩
  case refine_1 =>
    intro row hrow row' hrow' hkey
    obtain ⟨-, -, hrows⟩ | ⟨-, -, hrows⟩ := db.performed_repositories c
    · rw [hrows] at hrow'
      rw [hkept.eq_of_key hrow hrow' hkey]
    · rw [hrows] at hrow'
      exact hkept.id_rows c.call hrow hrow' hkey
  case refine_2 =>
    intro h
    obtain ⟨-, -, hrows⟩ | ⟨reply, hreply, hrows⟩ := db.performed_repositories c
    · exact hrows
    · rcases h with ⟨e, he⟩ | hother
      · rw [hreply] at he
        cases he
      · rw [hrows, StoreCall.rows_of_not_keepsBooks hother]
  case refine_3 =>
    intro reply hreply
    obtain ⟨e, he, -⟩ | ⟨reply', hreply', htransaction⟩ := db.performed_cases c
    · rw [he] at hreply
      cases hreply
    · rw [hreply'] at hreply
      cases hreply
      have hkept : m.KeptIn (c.finds db).tables.repositories := hkept
      exact hkept.tells htransaction
  case refine_4 =>
    intro hup hbinds
    have htables : (c.finds db).hasTables = true := Database.after_hasTables {} calls
    exact StoreCall.perform_ok_of_binds ⟨hup, htables⟩ hbinds

/-- Three repositories recorded, the last in the place of the first, whose row keeps its id. -/
def recordedOnce : List TimedCall :=
  [{ now := 5
     call := .saveInstallation 7 "acme" "Organization"
      [{ id := 1, fullName := "acme/widgets" }, { id := 2, fullName := "acme/gadgets" },
        { id := 1, fullName := "acme/gizmos", isPrivate := true }] }]

/-- One of two repositories to be removed is there and goes. While the database is down, neither does. -/
theorem repositories_hold_dropped :
    let m := Holdings.after {} (fun _ => none) recordedOnce
    let rows : List Repository := [⟨1, 7, 1, "acme/gizmos", true⟩, ⟨2, 7, 2, "acme/gadgets", false⟩]
    m.KeptIn rows ∧ (m.erasedBy (.dropRepositories 7 [1, 5])).encard = 1 ∧
    ((Database.after {} recordedOnce).performed ⟨6, true, .dropRepositories 7 [1, 5]⟩).tables.repositories =
      [⟨2, 7, 2, "acme/gadgets", false⟩] ∧
    ((Database.after {} recordedOnce).performed ⟨6, false, .dropRepositories 7 [1, 5]⟩).tables.repositories = rows := by
  obtain ⟨hkept, -, -, htells, -⟩ := repositories_hold recordedOnce ⟨6, true, .dropRepositories 7 [1, 5]⟩
  obtain ⟨-, -, hfails, -, -⟩ := repositories_hold recordedOnce ⟨6, false, .dropRepositories 7 [1, 5]⟩
  refine ⟨hkept, ?_, rfl, ?_⟩
  · exact htells 1 rfl
  · exact hfails (.inl ⟨.database "database is down", rfl⟩)

end PullReview
