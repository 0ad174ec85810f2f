import PullReview.Event.Basic

/-!
# Reading payloads

A payload has a topic that is handled if the event that its delivery names and the action in it are the
ones of the topic; no two topics have both in common. What a payload is read as depends on its topic and
its action alone, and then on whether the members of the topic are there (`Event.reads_iff`).
-/

namespace PullReview

/-! ## Actions and topics -/

/-- Whether a value is a list or an object with something in it. -/
inductive Json.IsFilled : Json → Prop
  | arr (item : Json) (items : List Json) : IsFilled (.arr (item :: items))
  | obj (member : Text × Json) (members : Members) : IsFilled (.obj (member :: members))

/-- The action of a payload, whatever value it is. -/
def Json.action? (payload : Json) : Option Json := payload.members?.bind (Members.get? · "action")

namespace Topic

/-- Whether a payload has a topic: its event is the one that the delivery names, its action the one in the
payload. -/
structure IsOf (t : Topic) (name : String) (payload : Json) : Prop where
  event : t.event = name
  action : payload.action? = some (.str t.action)

theorem mem_all (t : Topic) : t ∈ all := by
  rcases t with ⟨⟨⟩⟩ | _ | _ | _ | _ | _ <;> decide

theorem names_injective {t u : Topic} (he : t.event = u.event) (ha : t.action = u.action) : t = u := by
  have h : ∀ t ∈ all, ∀ u ∈ all, t.event = u.event → t.action = u.action → t = u := by decide
  exact h t (mem_all t) u (mem_all u) he ha

theorem ofNames?_eq_some_iff {name : String} {action : Text} {t : Topic} :
    ofNames? name action = some t ↔ t.event = name ∧ t.action = action := by
  unfold ofNames?
  constructor
  · intro h
    simpa using List.find?_some h
  · rintro ⟨rfl, rfl⟩
    cases h : all.find? fun u => u.event == t.event && (u.action : Text) == t.action with
    | none => simpa using List.find?_eq_none.1 h t (mem_all t)
    | some u =>
      have hu := List.find?_some h
      simp only [Bool.and_eq_true, beq_iff_eq, Text.ofString_inj] at hu
      rw [names_injective hu.1 hu.2]

end Topic

namespace Topic.IsOf

variable {t u : Topic} {name : String} {payload action : Json}

theorem unique (ht : t.IsOf name payload) (hu : u.IsOf name payload) : t = u := by
  have ha := ht.action.symm.trans hu.action
  simp only [Option.some.injEq, Json.str.injEq, Text.ofString_inj] at ha
  exact names_injective (ht.event.trans hu.event.symm) ha

theorem not_isFilled (ht : t.IsOf name payload) (ha : payload.action? = some action) : ¬ action.IsFilled := by
  cases ht.action.symm.trans ha
  rintro ⟨⟩

end Topic.IsOf

/-! ## What is read -/

namespace Event

/-- What the payload of a delivery under a name is read as. -/
inductive Reads (name : String) (payload : Json) : Reading → Prop
  | event {m : Members} {t : Topic} {event : Event} (hm : payload.members? = some m)
      (ht : t.IsOf name payload) (h : ofMembers m t = .ok event) : Reads name payload (.event event)
  | refused {m : Members} {t : Topic} {refusals : List Refusal} (hm : payload.members? = some m)
      (ht : t.IsOf name payload) (h : ofMembers m t = .refused refusals) :
      Reads name payload (.refused refusals)
  | unusableAction {action : Json} (ha : payload.action? = some action) (h : action.IsFilled) :
      Reads name payload .unusableAction
  | ignored (ht : ∀ t : Topic, ¬ t.IsOf name payload)
      (ha : ∀ action, payload.action? = some action → ¬ action.IsFilled) : Reads name payload .ignored

theorem reads_read (name : String) (payload : Json) : Reads name payload (read name payload) := by
  unfold read
  split
  · rename_i m
    split
    · rename_i action ha
      have haction : (Json.obj m).action? = some (.str action) := ha
      cases htopic : Topic.ofNames? name action with
      | none =>
        refine .ignored (fun t ht => ?_) fun value hvalue => ?_
        · cases haction.symm.trans ht.action
          rw [Topic.ofNames?_eq_some_iff.2 ⟨ht.event, rfl⟩] at htopic
          cases htopic
        · cases haction.symm.trans hvalue
          rintro ⟨⟩
      | some t =>
        obtain ⟨hevent, rfl⟩ := Topic.ofNames?_eq_some_iff.1 htopic
        have ht : t.IsOf name (.obj m) := ⟨hevent, haction⟩
        dsimp only
        split
        · exact .event rfl ht ‹_›
        · exact .refused rfl ht ‹_›
    -- An action that is no text: filled or not, and no action at all.
    · exact .unusableAction ‹_› (.arr ..)
    · exact .unusableAction ‹_› (.obj ..)
    · rename_i hstr harr hobj
      refine .ignored (fun t ht => hstr _ ht.action) fun action ha hfilled => ?_
      cases hfilled with
      | arr item items => exact harr item items ha
      | obj member members => exact hobj member members ha
  · rename_i hobj
    have hnone : payload.action? = none := by
      cases payload with
      | obj m => exact absurd rfl (hobj m)
      | _ => rfl
    refine .ignored (fun t ht => ?_) fun action ha => ?_
    · cases hnone.symm.trans ht.action
    · cases hnone.symm.trans ha

theorem Reads.unique {name : String} {payload : Json} {r s : Reading} (hr : Reads name payload r)
    (hs : Reads name payload s) : r = s := by
  cases hr <;> cases hs <;> grind [Topic.IsOf.unique, Topic.IsOf.not_isFilled]

theorem reads_iff {name : String} {payload : Json} {r : Reading} :
    Reads name payload r ↔ read name payload = r :=
  ⟨(reads_read name payload).unique, fun h => h ▸ reads_read name payload⟩

end Event

end PullReview
