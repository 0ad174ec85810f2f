import Mathlib.Data.List.Forall2
import PullReview.Proofs.Event.Reading

/-!
# Declared members

A payload may hold more than is read of it. The shape of a value lists the members that are declared of it, at
every depth, and two values agree in a shape if they differ in other members only. What is taken of a record
depends on its declared members alone (`Shape.Governs`), and so does what a delivery is read as
(`Event.read_of_alike`).
-/

namespace PullReview

/-! ## Shapes -/

/-- Which parts of a value are declared. -/
inductive Shape where
  /-- A value that counts as it is. -/
  | whole
  /-- A record: the keys that are declared, with the shapes of what they hold. -/
  | record (fields : List (String × Shape))
  | list (item : Shape)

mutual

/-- Whether two values differ in undeclared members only. A record may hold anything under undeclared keys, in
any order, as may the records in it; all else must be the same. -/
def Shape.Agree : Shape → Json → Json → Prop
  | .record fields, .obj m, .obj n => Shape.AgreeIn fields m n
  | .list item, .arr items, .arr others => List.Forall₂ item.Agree items others
  | _, value, other => value = other

/-- Whether two records hold the same under each declared key, undeclared members aside, or both nothing. -/
def Shape.AgreeIn : List (String × Shape) → Members → Members → Prop
  | [], _, _ => True
  | (key, shape) :: fields, m, n =>
    Option.Rel shape.Agree (Members.get? m key) (Members.get? n key) ∧ Shape.AgreeIn fields m n

end

namespace Shape

variable {shape : Shape} {fields : List (String × Shape)} {key : String} {m n : Members} {value other : Json}

theorem AgreeIn.at (h : AgreeIn fields m n) (hmem : (key, shape) ∈ fields) :
    Option.Rel shape.Agree (m.get? key) (n.get? key) := by
  induction fields with
  | nil => cases hmem
  | cons field fields ih =>
    obtain ⟨k, s⟩ := field
    obtain ⟨hfirst, hrest⟩ := h
    rcases List.mem_cons.1 hmem with heq | hmem
    · cases heq
      exact hfirst
    · exact ih hrest hmem

theorem agree_whole : whole.Agree value other ↔ value = other := by
  rw [Agree] <;> simp

/-- No record and no list agrees with null. -/
theorem Agree.eq_null_iff (h : shape.Agree value other) : value = .null ↔ other = .null := by
  unfold Agree at h
  split at h
  · simp
  · simp
  · rw [h]

/-! ## What is taken -/

/-- Whether what is taken of a value depends on its declared parts alone. -/
def Governs (shape : Shape) (take : Json → Checked α) : Prop :=
  ∀ ⦃value other : Json⦄, shape.Agree value other → take value = take other

variable {take : Json → Checked α}

theorem governs_whole : whole.Governs take := fun _ _ h => congrArg take (agree_whole.1 h)

theorem governs_record {take : Members → Checked α}
    (h : ∀ {m n : Members}, AgreeIn fields m n → take m = take n) :
    (record fields).Governs (Json.asRecord take) := by
  intro value other hagree
  unfold Agree at hagree
  split at hagree
  · rename_i hshape
    cases hshape
    exact h hagree
  · rename_i hshape
    cases hshape
  · rw [hagree]

theorem Governs.list (h : shape.Governs take) : (list shape).Governs (Json.asList take) := by
  intro value other hagree
  unfold Agree at hagree
  split at hagree
  · rename_i hshape
    cases hshape
  · rename_i items others hshape
    cases hshape
    have htaken : items.map take = others.map take := by
      induction hagree with
      | nil => rfl
      | cons hitem _ ih => rw [List.map_cons, List.map_cons, h hitem, ih]
    simp only [Json.asList, htaken]
  · rw [hagree]

theorem Governs.optional (h : shape.Governs take) : shape.Governs (Json.asOptional take) := by
  intro value other hagree
  by_cases hnull : value = .null
  · rw [hnull, hagree.eq_null_iff.1 hnull]
  · have hother : other ≠ .null := fun hother => hnull (hagree.eq_null_iff.2 hother)
    rw [Json.asOptional.eq_2 take value hnull, Json.asOptional.eq_2 take other hother, h hagree]

theorem AgreeIn.required (h : AgreeIn fields m n) (hmem : (key, shape) ∈ fields) (hshape : shape.Governs take) :
    m.required key take = n.required key take := by
  have hat := h.at hmem
  unfold Members.required
  generalize m.get? key = found, n.get? key = foundOther at hat ⊢
  cases hat with
  | none => rfl
  | some hvalue => simp only [hshape hvalue]

theorem AgreeIn.optional (h : AgreeIn fields m n) (default : α) (hmem : (key, shape) ∈ fields)
    (hshape : shape.Governs take) : m.optional key default take = n.optional key default take := by
  have hat := h.at hmem
  unfold Members.optional
  generalize m.get? key = found, n.get? key = foundOther at hat ⊢
  cases hat with
  | none => rfl
  | some hvalue => simp only [hshape hvalue]

end Shape

/-! ## The parts of a delivery -/

namespace Event

open Shape

def Account.fields : List (String × Shape) := [("id", .whole), ("login", .whole), ("type", .whole)]

theorem Account.fields_govern : (record fields).Governs ofJson :=
  governs_record fun h => by
    rw [h.optional none (by simp [fields]) governs_whole, h.required (by simp [fields]) governs_whole,
      h.optional _ (by simp [fields]) governs_whole]

def Installation.fields : List (String × Shape) := [("id", .whole), ("account", .record Account.fields)]

theorem Installation.fields_govern : (record fields).Governs ofJson :=
  governs_record fun h => by
    rw [h.required (by simp [fields]) governs_whole,
      h.optional none (by simp [fields]) Account.fields_govern.optional]

def Repository.fields : List (String × Shape) :=
  [("id", .whole), ("full_name", .whole), ("name", .whole), ("private", .whole)]

theorem Repository.fields_govern : (record fields).Governs ofJson :=
  governs_record fun h => by
    rw [h.required (by simp [fields]) governs_whole, h.required (by simp [fields]) governs_whole,
      h.optional _ (by simp [fields]) governs_whole, h.optional false (by simp [fields]) governs_whole]

def Commit.fields : List (String × Shape) := [("sha", .whole), ("ref", .whole)]

theorem Commit.fields_govern : (record fields).Governs ofJson :=
  governs_record fun h => by
    rw [h.optional _ (by simp [fields]) governs_whole, h.optional _ (by simp [fields]) governs_whole]

/-- What is declared of a user. -/
def userFields : List (String × Shape) := [("login", .whole)]

theorem userFields_govern : (record userFields).Governs loginOf :=
  governs_record fun h => h.optional _ (by simp [userFields]) governs_whole

def PullRequest.fields : List (String × Shape) :=
  [("number", .whole), ("title", .whole), ("state", .whole), ("html_url", .whole), ("user", .record userFields),
    ("head", .record Commit.fields), ("base", .record Commit.fields), ("changed_files", .whole),
    ("additions", .whole), ("deletions", .whole)]

theorem PullRequest.fields_govern : (record fields).Governs ofJson :=
  governs_record fun h => by
    rw [h.required (by simp [fields]) governs_whole, h.optional _ (by simp [fields]) governs_whole,
      h.optional _ (by simp [fields]) governs_whole, h.optional _ (by simp [fields]) governs_whole,
      h.optional _ (by simp [fields]) userFields_govern, h.optional {} (by simp [fields]) Commit.fields_govern,
      h.optional {} (by simp [fields]) Commit.fields_govern, h.optional 0 (by simp [fields]) governs_whole,
      h.optional 0 (by simp [fields]) governs_whole, h.optional 0 (by simp [fields]) governs_whole]

end Event

/-! ## Payloads -/

/-- What is declared of the payloads of a topic. -/
def Topic.fields (t : Topic) : List (String × Shape) :=
  ("action", .whole) ::
    match t with
    | reviewDue _ | pullRequestClosed =>
      [("pull_request", .record Event.PullRequest.fields), ("repository", .record Event.Repository.fields),
        ("installation", .record Event.Installation.fields)]
    | installationCreated =>
      [("installation", .record Event.Installation.fields), ("repositories", .list (.record Event.Repository.fields))]
    | installationDeleted => [("installation", .record Event.Installation.fields)]
    | repositoriesAdded =>
      [("installation", .record Event.Installation.fields),
        ("repositories_added", .list (.record Event.Repository.fields))]
    | repositoriesRemoved =>
      [("installation", .record Event.Installation.fields),
        ("repositories_removed", .list (.record Event.Repository.fields))]

/-- Whether two payloads of deliveries under a name differ only in members that are not declared of the topic of
the first. Of a payload without a topic its action alone is declared. -/
structure Json.Alike (name : String) (payload other : Json) : Prop where
  action : (Shape.record [("action", .whole)]).Agree payload other
  fields : ∀ t : Topic, t.IsOf name payload → (Shape.record t.fields).Agree payload other

namespace Json.Alike

variable {name : String} {payload other : Json} {m n : Members} {t : Topic}

theorem action?_eq (h : payload.Alike name other) : payload.action? = other.action? := by
  have hagree := h.action
  unfold Shape.Agree at hagree
  split at hagree
  · rename_i fields m n hshape
    cases hshape
    obtain ⟨hat, -⟩ := hagree
    show Members.get? m "action" = Members.get? n "action"
    generalize Members.get? m "action" = found, Members.get? n "action" = foundOther at hat ⊢
    cases hat with
    | none => rfl
    | some hvalue => rw [Shape.agree_whole.1 hvalue]
  · rename_i hshape
    cases hshape
  · rw [hagree]

theorem isOf (h : payload.Alike name other) (ht : t.IsOf name payload) : t.IsOf name other :=
  ⟨ht.event, h.action?_eq ▸ ht.action⟩

end Json.Alike

/-- What is taken of a payload's members depends on the declared ones alone. -/
theorem Event.ofMembers_eq_of_agreeIn {m n : Members} {t : Topic} (h : Shape.AgreeIn t.fields m n) :
    ofMembers m t = ofMembers n t := by
  have hpull := PullRequest.fields_govern
  have hrepository := Repository.fields_govern
  have hinstallation := Installation.fields_govern
  cases t with
  | reviewDue action =>
    simp only [ofMembers]
    rw [h.required (by simp [Topic.fields]) hpull, h.required (by simp [Topic.fields]) hrepository,
      h.required (by simp [Topic.fields]) hinstallation]
  | pullRequestClosed =>
    simp only [ofMembers]
    rw [h.required (by simp [Topic.fields]) hpull, h.required (by simp [Topic.fields]) hrepository,
      h.optional none (by simp [Topic.fields]) hinstallation.optional]
  | installationDeleted =>
    simp only [ofMembers]
    rw [h.required (by simp [Topic.fields]) hinstallation]
  | installationCreated | repositoriesAdded | repositoriesRemoved =>
    simp only [ofMembers]
    rw [h.required (by simp [Topic.fields]) hinstallation, h.optional [] (by simp [Topic.fields]) hrepository.list]

namespace Event

variable {name : String} {payload other : Json}

/-- What the one payload is read as, the other is. -/
theorem Reads.alike {r : Reading} (h : Reads name payload r) (halike : payload.Alike name other) :
    Reads name other r := by
  have hmembers {m : Members} {t : Topic} (hm : payload.members? = some m) (ht : t.IsOf name payload) :
      ∃ n, other.members? = some n ∧ ofMembers n t = ofMembers m t := by
    have hagree := halike.fields t ht
    unfold Shape.Agree at hagree
    split at hagree
    · rename_i hshape
      cases hshape
      cases hm
      exact ⟨_, rfl, (ofMembers_eq_of_agreeIn hagree).symm⟩
    · rename_i hshape
      cases hshape
    · exact ⟨m, hagree ▸ hm, rfl⟩
  cases h with
  | event hm ht hevent =>
    obtain ⟨n, hn, heq⟩ := hmembers hm ht
    exact .event hn (halike.isOf ht) (heq.trans hevent)
  | refused hm ht hrefused =>
    obtain ⟨n, hn, heq⟩ := hmembers hm ht
    exact .refused hn (halike.isOf ht) (heq.trans hrefused)
  | unusableAction ha hfilled => exact .unusableAction (halike.action?_eq ▸ ha) hfilled
  | ignored ht hfilled =>
    refine .ignored (fun t hother => ht t ⟨hother.event, halike.action?_eq ▸ hother.action⟩) ?_
    exact halike.action?_eq ▸ hfilled

theorem read_eq_unusableAction_iff :
    read name payload = .unusableAction ↔ ∃ action, payload.action? = some action ∧ action.IsFilled := by
  rw [← reads_iff]
  constructor
  · rintro ⟨⟩
    exact ⟨_, ‹_›, ‹_›⟩
  · rintro ⟨action, ha, hfilled⟩
    exact .unusableAction ha hfilled

/-- **Only declared members count.** Two payloads that differ in undeclared members only are read as the same: both
are ignored, or give the same event, or are refused for the same faults at the same places. The one case
apart is an action that cannot be looked up, being a list or an object with something in it. -/
theorem read_of_alike (h : payload.Alike name other) :
    read name payload = read name other ∧
      (read name payload = .ignored ∨ (∃ event, read name payload = .event event) ∨
          (∃ refusals, read name payload = .refused refusals) ↔
        ∀ action, payload.action? = some action → ¬ action.IsFilled) := by
  refine ⟨(reads_iff.1 ((reads_read name payload).alike h)).symm, ?_⟩
  have hfilled : read name payload = .unusableAction ↔ _ := read_eq_unusableAction_iff
  cases hread : read name payload with
  | unusableAction =>
    obtain ⟨action, ha, hfilled⟩ := hfilled.1 hread
    simpa using ⟨action, ha, hfilled⟩
  | ignored | refused | event =>
    rw [hread] at hfilled
    simpa using hfilled

/-! Two announcements of an installation, each with members of its own; one of the repositories is refused in
both. -/

def announced : Json :=
  .obj [("action", .str "created"), ("sender", .obj [("login", .str "kim")]),
    ("installation", .obj [("id", .int 77), ("app_id", .int 3),
      ("account", .obj [("login", .str "acme"), ("site_admin", .bool false)])]),
    ("repositories", .arr [.obj [("id", .int 5), ("full_name", .str "acme/widgets"), ("fork", .bool true)],
      .obj [("id", .str "x"), ("full_name", .str "acme/gadgets")]])]

def announcedAgain : Json :=
  .obj [("repositories", .arr [.obj [("id", .int 5), ("full_name", .str "acme/widgets")],
      .obj [("full_name", .str "acme/gadgets"), ("fork", .null), ("id", .str "x")]]),
    ("installation", .obj [("account", .obj [("login", .str "acme"), ("plan", .arr [])]), ("id", .int 77)]),
    ("action", .str "created"), ("repositories_added", .int 4)]

theorem announced_alike : announced.Alike "installation" announcedAgain where
  action := ⟨.some rfl, trivial⟩
  fields t ht := by
    have htopic : Topic.installationCreated.IsOf "installation" announced := ⟨rfl, rfl⟩
    cases ht.unique htopic
    have hinstallation : (Shape.record Installation.fields).Agree
        (.obj [("id", .int 77), ("app_id", .int 3),
          ("account", .obj [("login", .str "acme"), ("site_admin", .bool false)])])
        (.obj [("account", .obj [("login", .str "acme"), ("plan", .arr [])]), ("id", .int 77)]) :=
      ⟨.some rfl, .some ⟨.none, .some rfl, .none, trivial⟩, trivial⟩
    have hwidgets : (Shape.record Repository.fields).Agree
        (.obj [("id", .int 5), ("full_name", .str "acme/widgets"), ("fork", .bool true)])
        (.obj [("id", .int 5), ("full_name", .str "acme/widgets")]) :=
      ⟨.some rfl, .some rfl, .none, .none, trivial⟩
    have hgadgets : (Shape.record Repository.fields).Agree
        (.obj [("id", .str "x"), ("full_name", .str "acme/gadgets")])
        (.obj [("full_name", .str "acme/gadgets"), ("fork", .null), ("id", .str "x")]) :=
      ⟨.some rfl, .some rfl, .none, .none, trivial⟩
    exact ⟨.some rfl, .some hinstallation, .some (.cons hwidgets (.cons hgadgets .nil)), trivial⟩

theorem read_announced :
    announced.Alike "installation" announcedAgain ∧
      read "installation" announcedAgain =
        .refused [⟨[.member "repositories", .item 1, .member "id"], .unreadableInteger⟩] :=
  ⟨announced_alike, (read_of_alike announced_alike).1.symm.trans rfl⟩

/-- A payload whose action is a list is read as none of the three. -/
theorem read_listed :
    let payload : Json := .obj [("action", .arr [.str "opened"])]
    payload.Alike "pull_request" payload ∧
      ¬ (read "pull_request" payload = .ignored ∨ (∃ event, read "pull_request" payload = .event event) ∨
        ∃ refusals, read "pull_request" payload = .refused refusals) := by
  intro payload
  have hread : read "pull_request" payload = .unusableAction := rfl
  exact ⟨⟨⟨.some rfl, trivial⟩, fun t ht => by cases ht.action⟩, by simp [hread]⟩

end Event

end PullReview
