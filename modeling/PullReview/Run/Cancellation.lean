/-!
# Cancellation tokens

A run holds a token that asks it to stop once it is set. At most one token is registered for a
review. Starting another run of the review sets the one before; a run that ends takes its own token
out of the registry and no other.

| here | there |
| --- | --- |
| `Cancellations` | `CancellationRegistry` (review_lifecycle:56-60), a token for each `threading.Event` |
| `register` | `start` (review_lifecycle:62-68) |
| `cancel` | `cancel` (review_lifecycle:70-75) |
| `release` | `finish` (review_lifecycle:77-79) |
-/

namespace PullReview

/-- A token, by the number of tokens issued before it. -/
abbrev Token := Nat

/-- The tokens issued so far and which of them is registered for each review. -/
structure Cancellations where
  /-- Whether each token is set, in the order of issue. -/
  flags : List Bool := []
  /-- The registered token of each review. -/
  registered : List (Int × Token) := []
  deriving DecidableEq, Repr

namespace Cancellations

/-- The token registered for a review. -/
def token? (c : Cancellations) (review : Int) : Option Token := c.registered.lookup review

/-- Whether a token is set. -/
def isSet (c : Cancellations) (token : Token) : Bool := c.flags.getD token false

/-- Sets a token, if there is one. -/
def setToken (c : Cancellations) : Option Token → Cancellations
  | none => c
  | some token => { c with flags := c.flags.set token true }

/-- Takes a review out of the registry. -/
def unregister (c : Cancellations) (review : Int) : Cancellations :=
  { c with registered := c.registered.filter (·.1 != review) }

/-- Registers a new token for a review and sets the one it replaces (review_lifecycle:62-68). -/
def register (c : Cancellations) (review : Int) : Token × Cancellations :=
  let c := c.setToken (c.token? review)
  let token := c.flags.length
  (token, { flags := c.flags ++ [false], registered := (review, token) :: (c.unregister review).registered })

/-- Sets the token registered for a review, and tells whether there was one (review_lifecycle:70-75). -/
def cancel (c : Cancellations) (review : Int) : Bool × Cancellations :=
  ((c.token? review).isSome, c.setToken (c.token? review))

/-- Ends a run: its token leaves the registry unless another has taken its place (review_lifecycle:77-79). -/
def release (c : Cancellations) (review : Int) (token : Token) : Cancellations :=
  if c.token? review = some token then c.unregister review else c

/-! ## What each call does to the tokens -/

theorem token?_unregister (c : Cancellations) (review other : Int) :
    (c.unregister review).token? other = if other = review then none else c.token? other := by
  obtain ⟨flags, registered⟩ := c
  show (registered.filter (·.1 != review)).lookup other =
    if other = review then none else registered.lookup other
  split
  · subst_vars
    simp only [List.lookup_eq_none_iff, List.mem_filter, and_imp]
    intro e _ h
    have hne : e.1 ≠ other := by simpa using h
    exact bne_iff_ne.2 hne.symm
  · rename_i ho
    induction registered with
    | nil => rfl
    | cons e es ih =>
      obtain ⟨r, t⟩ := e
      by_cases h : r = review
      · have hb : (other == r) = false := by simp [h, ho]
        rw [List.filter_cons_of_neg (by simp [h]), List.lookup_cons, hb]
        exact ih
      · rw [List.filter_cons_of_pos (by simp [h]), List.lookup_cons, List.lookup_cons, ih]

theorem token?_setToken (c : Cancellations) (t : Option Token) (review : Int) :
    (c.setToken t).token? review = c.token? review := by
  cases t <;> rfl

theorem token?_register (c : Cancellations) (review other : Int) :
    (c.register review).2.token? other =
      if other = review then some (c.register review).1 else c.token? other := by
  by_cases h : other = review
  · simp [register, token?, h]
  · have hb : (other == review) = false := by simpa using h
    have hu := token?_unregister (c.setToken (c.token? review)) review other
    rw [if_neg h, token?_setToken] at hu
    rw [if_neg h, ← hu]
    simp only [register, token?, List.lookup_cons, hb]

theorem token?_release (c : Cancellations) (review other : Int) (token : Token) :
    (c.release review token).token? other =
      if other = review ∧ c.token? review = some token then none else c.token? other := by
  unfold release
  by_cases h : c.token? review = some token
  · simp [h, token?_unregister]
  · simp [h]

theorem isSet_setToken (c : Cancellations) (t : Option Token) (token : Token) :
    (c.setToken t).isSet token = (c.isSet token || (t == some token && token < c.flags.length)) := by
  cases t with
  | none => simp [setToken, isSet]
  | some u =>
    simp only [setToken, isSet, List.getD_eq_getElem?_getD, List.getElem?_set]
    by_cases h : u = token
    · subst h
      by_cases hl : u < c.flags.length <;> simp [hl]
    · have hb : (some u == some token) = false := by simpa using h
      simp [h, hb]

end Cancellations

end PullReview
