import PullReview.Proofs.Event.Declared

/-!
# Canonical payloads

An event can be put back into a payload. That payload is canonical: it holds the declared members and no others, at
every depth, those that were absent with their defaults, integers as integers and booleans as booleans
(`Shape.IsCanonical`). Reading it gives the event again, so a payload that makes an event is settled by one reading,
however leniently its members were taken (`Event.read_settles`).
-/

namespace PullReview

/-! ## Canonical values -/

mutual

/-- Whether a value is in canonical form. A record has the declared members, in their order, and no others; what
counts as it is, is a boolean, an integer or a text. What is optional may be null. -/
def Shape.IsCanonical : Shape → Json → Prop
  | .record fields, .obj m => Shape.AreCanonical fields m
  | .list item, .arr items => ∀ value ∈ items, item.IsCanonical value
  | .whole, .bool _ | .whole, .int _ | .whole, .str _ => True
  | _, value => value = .null

/-- Whether members are the declared ones, in their order, with values in canonical form. -/
def Shape.AreCanonical : List (String × Shape) → Members → Prop
  | [], m => m = []
  | _ :: _, [] => False
  | (key, shape) :: fields, (k, value) :: m => k = key ∧ shape.IsCanonical value ∧ Shape.AreCanonical fields m

end

namespace Shape

variable {fields : List (String × Shape)} {key : String} {k : Text} {shape : Shape} {value : Json} {m : Members}

@[simp] theorem isCanonical_null (shape : Shape) : shape.IsCanonical .null := by
  cases shape <;> simp [IsCanonical]

@[simp] theorem isCanonical_bool (b : Bool) : whole.IsCanonical (.bool b) := by simp [IsCanonical]

@[simp] theorem isCanonical_int (i : Int) : whole.IsCanonical (.int i) := by simp [IsCanonical]

@[simp] theorem isCanonical_str (t : Text) : whole.IsCanonical (.str t) := by simp [IsCanonical]

@[simp] theorem isCanonical_obj : (record fields).IsCanonical (.obj m) ↔ AreCanonical fields m := by
  rw [IsCanonical]

@[simp] theorem areCanonical_nil : AreCanonical [] [] := rfl

@[simp] theorem areCanonical_cons :
    AreCanonical ((key, shape) :: fields) ((k, value) :: m) ↔
      k = key ∧ shape.IsCanonical value ∧ AreCanonical fields m := by
  rw [AreCanonical]

end Shape

/-! ## Writing and taking back -/

namespace Members

variable {m : Members} {key : String} {value : Json} {take : Json → Checked α} {a : α}

theorem required_eq_ok (hget : m.get? key = some value) (htake : take value = .ok a) :
    m.required key take = .ok a := by
  simp only [required, hget, htake, Checked.under]

theorem optional_eq_ok (default : α) (hget : m.get? key = some value) (htake : take value = .ok a) :
    m.optional key default take = .ok a := by
  simp only [optional, hget, htake, Checked.under]

end Members

namespace Shape

variable {shape : Shape} {take : Json → Checked α} {write : α → Json}

/-- Whether a value that is written is in canonical form and is taken for the same value again. -/
structure Restores (shape : Shape) (take : Json → Checked α) (write : α → Json) : Prop where
  isCanonical : ∀ a, shape.IsCanonical (write a)
  take_write : ∀ a, take (write a) = .ok a

theorem Restores.optional (h : shape.Restores take write) (hnull : ∀ a, write a ≠ .null) :
    shape.Restores (Json.asOptional take) (Json.ofOption write) where
  isCanonical o := by
    cases o with
    | none => exact isCanonical_null shape
    | some a => exact h.isCanonical a
  take_write o := by
    cases o with
    | none => rfl
    | some a => rw [Json.ofOption, Json.asOptional.eq_2 take _ (hnull a), h.take_write]; rfl

theorem items_map_write (htake : ∀ a, take (write a) = .ok a) (index : Nat) (as : List α) :
    Checked.items index ((as.map write).map take) = .ok as := by
  induction as generalizing index with
  | nil => rfl
  | cons a as ih =>
    rw [List.map_cons, List.map_cons, Checked.items, ih, htake]
    rfl

theorem Restores.list (h : shape.Restores take write) :
    (list shape).Restores (Json.asList take) fun as => .arr (as.map write) where
  isCanonical as := by
    rw [IsCanonical, List.forall_mem_map]
    exact fun a _ => h.isCanonical a
  take_write as := items_map_write h.take_write 0 as

end Shape

namespace Event

open Shape

theorem Account.toJson_ne_null (a : Event.Account) : a.toJson ≠ .null := by simp [toJson]

theorem Account.restores : (record fields).Restores ofJson toJson where
  isCanonical a := by
    obtain ⟨_ | id, login, kind⟩ := a <;> simp [fields, toJson, Json.ofOption]
  take_write a := by obtain ⟨_ | id, login, kind⟩ := a <;> rfl

theorem Installation.toJson_ne_null (i : Event.Installation) : i.toJson ≠ .null := by simp [toJson]

theorem Installation.restores : (record fields).Restores ofJson toJson where
  isCanonical i := by
    have h := (Account.restores.optional Account.toJson_ne_null).isCanonical i.account
    simp [fields, toJson, h]
  take_write i := by
    have h := (Account.restores.optional Account.toJson_ne_null).take_write i.account
    simp only [ofJson, toJson, Json.asRecord]
    rw [Members.optional_eq_ok none rfl h]
    rfl

theorem Repository.restores : (record fields).Restores ofJson toJson where
  isCanonical r := by simp [fields, toJson]
  take_write _ := rfl

theorem Commit.restores : (record fields).Restores ofJson toJson where
  isCanonical c := by simp [fields, toJson]
  take_write _ := rfl

theorem PullRequest.restores : (record fields).Restores ofJson toJson where
  isCanonical p := by
    have hhead := Commit.restores.isCanonical p.head
    have hbase := Commit.restores.isCanonical p.base
    simp [fields, userFields, toJson, hhead, hbase]
  take_write _ := rfl

/-! ## Canonical payloads -/

theorem toJson_isCanonical (e : Event) : (record e.topic.fields).IsCanonical e.toJson := by
  cases e with
  | reviewDue action pullRequest repository installation =>
    have hpull := PullRequest.restores.isCanonical pullRequest
    have hrepository := Repository.restores.isCanonical repository
    have hinstallation := Installation.restores.isCanonical installation
    simp [toJson, toMembers, topic, Topic.fields, hpull, hrepository, hinstallation]
  | pullRequestClosed pullRequest repository installation =>
    have hpull := PullRequest.restores.isCanonical pullRequest
    have hrepository := Repository.restores.isCanonical repository
    have hinstallation := (Installation.restores.optional Installation.toJson_ne_null).isCanonical installation
    simp [toJson, toMembers, topic, Topic.fields, hpull, hrepository, hinstallation]
  | installationDeleted installation =>
    have hinstallation := Installation.restores.isCanonical installation
    simp [toJson, toMembers, topic, Topic.fields, hinstallation]
  | installationCreated installation repositories | repositoriesAdded installation repositories
  | repositoriesRemoved installation repositories =>
    have hinstallation := Installation.restores.isCanonical installation
    have hrepositories := Repository.restores.list.isCanonical repositories
    simp [toJson, toMembers, topic, Topic.fields, hinstallation, hrepositories]

theorem ofMembers_toMembers (e : Event) : ofMembers e.toMembers e.topic = .ok e := by
  cases e with
  | reviewDue action pullRequest repository installation =>
    simp only [ofMembers, topic, toMembers]
    rw [Members.required_eq_ok rfl (PullRequest.restores.take_write pullRequest),
      Members.required_eq_ok rfl (Repository.restores.take_write repository),
      Members.required_eq_ok rfl (Installation.restores.take_write installation)]
    rfl
  | pullRequestClosed pullRequest repository installation =>
    simp only [ofMembers, topic, toMembers]
    rw [Members.required_eq_ok rfl (PullRequest.restores.take_write pullRequest),
      Members.required_eq_ok rfl (Repository.restores.take_write repository),
      Members.optional_eq_ok none rfl
        ((Installation.restores.optional Installation.toJson_ne_null).take_write installation)]
    rfl
  | installationDeleted installation =>
    simp only [ofMembers, topic, toMembers]
    rw [Members.required_eq_ok rfl (Installation.restores.take_write installation)]
    rfl
  | installationCreated installation repositories | repositoriesAdded installation repositories
  | repositoriesRemoved installation repositories =>
    simp only [ofMembers, topic, toMembers]
    rw [Members.required_eq_ok rfl (Installation.restores.take_write installation),
      Members.optional_eq_ok [] rfl (Repository.restores.list.take_write repositories)]
    rfl

theorem action?_toJson (e : Event) : e.toJson.action? = some (.str e.topic.action) := rfl

theorem read_toJson (e : Event) : read e.topic.event e.toJson = .event e :=
  reads_iff.1 (.event rfl ⟨rfl, e.action?_toJson⟩ e.ofMembers_toMembers)

/-- An event has the topic under which its members were taken. -/
theorem topic_of_ofMembers {m : Members} {t : Topic} {e : Event} (h : ofMembers m t = .ok e) : e.topic = t := by
  cases t with
  | reviewDue | pullRequestClosed =>
    simp only [ofMembers, Checked.seq_eq_ok, Checked.map_eq_ok] at h
    obtain ⟨_, ⟨_, ⟨_, -, rfl⟩, _, -, rfl⟩, _, -, rfl⟩ := h
    rfl
  | installationDeleted =>
    simp only [ofMembers, Checked.map_eq_ok] at h
    obtain ⟨_, -, rfl⟩ := h
    rfl
  | installationCreated | repositoriesAdded | repositoriesRemoved =>
    simp only [ofMembers, Checked.seq_eq_ok, Checked.map_eq_ok] at h
    obtain ⟨_, ⟨_, -, rfl⟩, _, -, rfl⟩ := h
    rfl

/-- **Reading settles a payload.** If a payload makes an event under a name, the payload that the event is put back
into is canonical and makes the same event under that name, and the event is labelled with the name, a point and the
action of the first payload. -/
theorem read_settles {name : String} {payload : Json} {e : Event} (h : read name payload = .event e) :
    read name e.toJson = .event e ∧ (record e.topic.fields).IsCanonical e.toJson ∧
      ∃ action : String, payload.action? = some (.str action) ∧ e.label = name ++ "." ++ action := by
  cases reads_iff.2 h with
  | event hm ht hmembers =>
    obtain rfl := topic_of_ofMembers hmembers
    obtain ⟨rfl, haction⟩ := ht
    exact ⟨e.read_toJson, e.toJson_isCanonical, _, haction, rfl⟩

/-- Repositories are added, with ids that are a text, a boolean and an integer and with a member that is not
declared. -/
def addingLeniently : Members :=
  [("action", .str "added"), ("installation", .obj [("id", .str " +77.0"), ("account", .null)]),
    ("repositories_added", .arr [
      .obj [("id", .bool true), ("full_name", .str "acme/widgets"), ("private", .str "YES")],
      .obj [("full_name", .str "acme/gadgets"), ("id", .int 6), ("fork", .bool true)]])]

theorem read_addingLeniently :
    ∃ e, read "installation_repositories" (.obj addingLeniently) = .event e ∧
      e = .repositoriesAdded { id := 77 }
        [{ id := 1, fullName := "acme/widgets", isPrivate := true }, { id := 6, fullName := "acme/gadgets" }] ∧
      read "installation_repositories" e.toJson = .event e ∧ e.label = "installation_repositories.added" := by
  have hmembers : ofMembers addingLeniently .repositoriesAdded =
      .ok (.repositoriesAdded { id := 77 }
        [{ id := 1, fullName := "acme/widgets", isPrivate := true }, { id := 6, fullName := "acme/gadgets" }]) := by
    decide +kernel
  have h : read "installation_repositories" (.obj addingLeniently) = .event _ :=
    reads_iff.1 (.event rfl ⟨rfl, rfl⟩ hmembers)
  obtain ⟨hread, -, -⟩ := read_settles h
  exact ⟨_, h, rfl, hread, rfl⟩

end Event

end PullReview
