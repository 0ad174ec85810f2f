import PullReview.Proofs.Run.Pool

/-!
# Tokens and logs

While the registries are left to the handlers, the log tells who holds a token and who has set it:
every token was registered by one task, and a task that finds its token set is preceded by an entry
that set it, on the same worker and for the same review (`Registered`).
-/

namespace PullReview

namespace Cancellations

variable {c : Cancellations} {v : Int} {t u : Token}

theorem isSet_of_cancel (h : (c.cancel v).2.isSet t = true) : c.isSet t = true ∨ c.token? v = some t := by
  rw [cancel, isSet_setToken, Bool.or_eq_true, Bool.and_eq_true, beq_iff_eq] at h
  exact h.imp_right And.left

/-- Registering a token sets what cancelling sets: the new one is not set. -/
theorem isSet_register (c : Cancellations) (v : Int) (t : Token) :
    (c.register v).2.isSet t = (c.cancel v).2.isSet t := by
  have happend : ∀ flags : List Bool, (flags ++ [false]).getD t false = flags.getD t false := fun flags => by
    simp only [List.getD_eq_getElem?_getD, List.getElem?_append, List.getElem?_singleton]
    split
    · rfl
    · rename_i hlt
      rw [List.getElem?_eq_none (by omega)]
      split <;> rfl
  exact happend _

theorem isSet_of_register (h : (c.register v).2.isSet t = true) : c.isSet t = true ∨ c.token? v = some t :=
  isSet_of_cancel (isSet_register c v t ▸ h)

theorem length_setToken (c : Cancellations) (t : Option Token) : (c.setToken t).flags.length = c.flags.length := by
  cases t with
  | none => rfl
  | some t => exact List.length_set

theorem register_fst (c : Cancellations) (v : Int) : (c.register v).1 = c.flags.length := c.length_setToken _

theorem length_register (c : Cancellations) (v : Int) : (c.register v).2.flags.length = c.flags.length + 1 := by
  rw [register, List.length_append, length_setToken]
  rfl

theorem flags_release (c : Cancellations) (v : Int) (t : Token) : (c.release v t).flags = c.flags := by
  unfold release
  split <;> rfl

end Cancellations

/-! ## What an entry does to the registries -/

namespace Entry

/-- The request sets the token registered for a review, if there is one. -/
def Sets (e : Entry) (v : Int) : Prop := e.request = .startRun v ∨ e.request = .cancelRun v

structure Marks (e : Entry) (c c' : Nat → Cancellations) : Prop where
  grows : ∀ w, (c w).flags.length ≤ (c' w).flags.length
  registered : ∀ {v t}, e.registered? = some (v, t) → t = (c e.worker).flags.length ∧ t < (c' e.worker).flags.length
  token : ∀ {w v t}, (c' w).token? v = some t →
    (c w).token? v = some t ∨ e.worker = w ∧ e.registered? = some (v, t)
  set : ∀ {w t}, (c' w).isSet t = true →
    (c w).isSet t = true ∨ e.worker = w ∧ ∃ v, e.Sets v ∧ (c w).token? v = some t
  found : e.stops = true → ∃ t, e.request = .isCancelled t ∧ (c e.worker).isSet t = true

theorem marks_of_idle {e : Entry} {c : Nat → Cancellations} (hr : e.registered? = none) (hs : e.stops = false) :
    e.Marks c c where
  grows _ := Nat.le_refl _
  registered h := by rw [hr] at h; cases h
  token := .inl
  set := .inl
  found h := by rw [hs] at h; cases h

/-- The registry of one worker changes and no token is registered. -/
theorem marks_of_worker {e : Entry} {s : Service} {c : Cancellations} (hr : e.registered? = none)
    (hs : e.stops = false) (hlength : c.flags.length = (s.cancellations e.worker).flags.length)
    (htoken : ∀ {v t}, c.token? v = some t → (s.cancellations e.worker).token? v = some t)
    (hset : ∀ {t}, c.isSet t = true →
      (s.cancellations e.worker).isSet t = true ∨ ∃ v, e.Sets v ∧ (s.cancellations e.worker).token? v = some t) :
    e.Marks s.cancellations (s.withCancellations e.worker c).cancellations where
  grows w := by
    simp only [Service.withCancellations]
    split
    · subst_vars
      exact Nat.le_of_eq hlength.symm
    · exact Nat.le_refl _
  registered h := by rw [hr] at h; cases h
  token {w v t} h := by
    simp only [Service.withCancellations] at h
    split at h
    · subst_vars
      exact .inl (htoken h)
    · exact .inl h
  set {w t} h := by
    simp only [Service.withCancellations] at h
    split at h
    · subst_vars
      exact (hset h).imp_right fun h => ⟨rfl, h⟩
    · exact .inl h
  found h := by rw [hs] at h; cases h

theorem marks_of_startRun {i w : Nat} {v : Int} (s : Service) :
    Marks ⟨i, w, .startRun v, .ok ((s.cancellations w).register v).1⟩ s.cancellations
      (s.withCancellations w ((s.cancellations w).register v).2).cancellations where
  grows w' := by
    simp only [Service.withCancellations]
    split
    · subst_vars
      rw [Cancellations.length_register]
      omega
    · exact Nat.le_refl _
  registered {v' t} h := by
    cases h
    simp only [Service.withCancellations, if_pos, Cancellations.register_fst, Cancellations.length_register]
    exact ⟨trivial, Nat.lt_succ_self _⟩
  token {w' v' t} h := by
    simp only [Service.withCancellations] at h
    split at h
    · subst_vars
      rw [Cancellations.token?_register] at h
      split at h
      · subst_vars
        cases h
        exact .inr ⟨rfl, rfl⟩
      · exact .inl h
    · exact .inl h
  set {w' t} h := by
    simp only [Service.withCancellations] at h
    split at h
    · subst_vars
      exact (Cancellations.isSet_of_register h).imp_right fun h => ⟨rfl, v, .inl rfl, h⟩
    · exact .inl h
  found := nofun

/-- **What an entry does to the registries.** -/
theorem Happens.marks {e : Entry} {s s' : Service} (hs : e.Happens s s') :
    e.Marks s.cancellations s'.cancellations := by
  obtain ⟨i, w, r, reply⟩ := e
  rcases hs with ⟨fetch, h⟩ | ⟨⟨failure, h⟩, rfl⟩
  · cases r with
    | store | fetchFiles | analyze =>
      have hsame : s.cancellations = s'.cancellations := congrArg (·.2.cancellations) h
      rw [← hsame]
      exact marks_of_idle rfl rfl
    | isCancelled t =>
      rw [Request.perform, Prod.mk.injEq] at h
      obtain ⟨hreply, rfl⟩ := h
      refine ⟨fun _ => Nat.le_refl _, fun hregistered => ?_, .inl, .inl, fun hstops => ⟨t, rfl, ?_⟩⟩
      · cases hregistered
      · simp only at hreply
        subst hreply
        exact hstops
    | startRun v =>
      rw [Request.perform, Prod.mk.injEq] at h
      obtain ⟨hreply, rfl⟩ := h
      simp only at hreply
      subst hreply
      exact marks_of_startRun s
    | cancelRun v =>
      rw [Request.perform, Prod.mk.injEq] at h
      obtain ⟨-, rfl⟩ := h
      refine marks_of_worker rfl rfl (Cancellations.length_setToken _ _) (fun h => ?_) fun h => ?_
      · exact (Cancellations.token?_setToken _ _ _).symm.trans h
      · exact (Cancellations.isSet_of_cancel h).imp_right fun h => ⟨v, .inr rfl, h⟩
    | finishRun v t =>
      rw [Request.perform, Prod.mk.injEq] at h
      obtain ⟨-, rfl⟩ := h
      refine marks_of_worker rfl rfl (by rw [Cancellations.flags_release]) (fun h => ?_) fun h => .inl ?_
      · rw [Cancellations.token?_release] at h
        split at h
        · cases h
        · exact h
      · rwa [Cancellations.isSet, Cancellations.flags_release] at h
  · simp only at h
    subst h
    exact marks_of_idle (by cases r <;> rfl) (by cases r <;> rfl)

end Entry

/-! ## What the log tells about tokens -/

/-- An entry registered a token on a worker for a review. -/
def Entry.Registers (e : Entry) (w : Nat) (v : Int) (t : Token) : Prop := e.worker = w ∧ e.registered? = some (v, t)

/-- What a log tells about the registries. -/
structure Registered (c : Nat → Cancellations) (log : List Entry) : Prop where
  issued : ∀ {e w v t}, e ∈ log → e.Registers w v t → t < (c w).flags.length
  unique : ∀ {e f w u v t}, e ∈ log → f ∈ log → e.Registers w u t → f.Registers w v t → e = f
  holder : ∀ {w v t}, (c w).token? v = some t → ∃ e ∈ log, e.Registers w v t
  set : ∀ {w t}, (c w).isSet t = true →
    ∃ start setter v, [start, setter].Sublist log ∧ start.Registers w v t ∧ setter.worker = w ∧ setter.Sets v
  found : ∀ {e}, e ∈ log → e.stops = true → ∃ start setter v t, [start, setter, e].Sublist log ∧
    e.request = .isCancelled t ∧ start.Registers e.worker v t ∧ setter.worker = e.worker ∧ setter.Sets v

theorem Registered.concat {c c' : Nat → Cancellations} {log : List Entry} {e : Entry} (h : Registered c log)
    (hm : e.Marks c c') : Registered c' (log ++ [e]) := by
  have hnew : ∀ {f w u v t}, f ∈ log → f.Registers w u t → ¬ e.Registers w v t := by
    rintro f w u v t hf hft ⟨rfl, het⟩
    exact Nat.lt_irrefl _ ((hm.registered het).1 ▸ h.issued hf hft)
  constructor
  case issued =>
    intro f w v t hf hft
    rcases List.mem_append.1 hf with hf | hf
    · exact Nat.lt_of_lt_of_le (h.issued hf hft) (hm.grows w)
    · rw [List.mem_singleton.1 hf] at hft
      obtain ⟨rfl, ht⟩ := hft
      exact (hm.registered ht).2
  case unique =>
    intro f g w u v t hf hg hft hgt
    rcases List.mem_append.1 hf with hf | hf <;> rcases List.mem_append.1 hg with hg | hg
    · exact h.unique hf hg hft hgt
    · rw [List.mem_singleton.1 hg] at hgt
      exact absurd hgt (hnew hf hft)
    · rw [List.mem_singleton.1 hf] at hft
      exact absurd hft (hnew hg hgt)
    · rw [List.mem_singleton.1 hf, List.mem_singleton.1 hg]
  case holder =>
    intro w v t ht
    rcases hm.token ht with ht | ht
    · obtain ⟨f, hf, hft⟩ := h.holder ht
      exact ⟨f, List.mem_append_left _ hf, hft⟩
    · exact ⟨e, List.mem_append_right _ (List.mem_singleton_self e), ht⟩
  case set =>
    intro w t ht
    rcases hm.set ht with ht | ⟨rfl, v, hv, ht⟩
    · obtain ⟨start, setter, v, hsub, hset⟩ := h.set ht
      exact ⟨start, setter, v, hsub.trans (List.sublist_append_left ..), hset⟩
    · obtain ⟨f, hf, hft⟩ := h.holder ht
      exact ⟨f, e, v, (List.singleton_sublist.2 hf).append (List.Sublist.refl [e]), hft, rfl, hv⟩
  case found =>
    intro f hf hstops
    rcases List.mem_append.1 hf with hf | hf
    · obtain ⟨start, setter, v, t, hsub, hfound⟩ := h.found hf hstops
      exact ⟨start, setter, v, t, hsub.trans (List.sublist_append_left ..), hfound⟩
    · rw [List.mem_singleton.1 hf] at hstops ⊢
      obtain ⟨t, hrequest, ht⟩ := hm.found hstops
      obtain ⟨start, setter, v, hsub, hstart, hset⟩ := h.set ht
      exact ⟨start, setter, v, t, hsub.append (List.Sublist.refl [e]), hrequest, hstart, hset⟩

theorem History.registered {s : Service} {log : List Entry} (h : History Service.DriftsQuietly s log) :
    Registered s.cancellations log := by
  induction h with
  | start now =>
    constructor
    case issued => intro e w v t he; cases he
    case unique => intro e f w u v t he; cases he
    case holder => intro w v t ht; simp [Cancellations.token?] at ht
    case set => intro w t ht; simp [Cancellations.isSet] at ht
    case found => intro e he; cases he
  | entry _ _ _ hs ih => exact ih.concat hs.marks
  | drift _ hs ih => exact hs.2 ▸ ih

end PullReview
