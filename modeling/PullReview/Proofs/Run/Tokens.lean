import PullReview.Proofs.Run.Registry
import Mathlib.Data.List.Induction

/-!
# Tokens over a history of calls

A registry of cancellation tokens after any calls, in any order and for any reviews, with any tokens given
back: which token is registered for a review, and which tokens are set, is read off the calls
(`tokens_follow_calls`). A token is told from all others by the call that issued it, so giving back one that
has been replaced, one of another review, or the same one again, takes none out of the registry.
-/

namespace PullReview

namespace Cancellations

/-- A call on a registry: a run starts, is cancelled, or finishes with a token. -/
inductive Call where
  | start (review : Int)
  | cancel (review : Int)
  | finish (review : Int) (token : Token)
  deriving DecidableEq, Repr

/-- The review that a call is for. -/
def Call.review : Call → Int
  | start review | cancel review | finish review _ => review

/-- Whether a call sets the token that it finds registered for a review. -/
def Call.Sets (call : Call) (v : Int) : Prop := call = .start v ∨ call = .cancel v

/-- The registry after a call. -/
def performed (c : Cancellations) : Call → Cancellations
  | .start v => (c.register v).2
  | .cancel v => (c.cancel v).2
  | .finish v t => c.release v t

/-- The registry after calls made one after the other. -/
def after (calls : List Call) : Cancellations := calls.foldl performed {}

/-- The token that starting a run returns after some calls. -/
def issued (calls : List Call) (v : Int) : Token := ((after calls).register v).1

/-- The calls leave a token registered for a review: the last start for it has returned the token, and it has not
been given back since. -/
def Call.Leave (calls : List Call) (v : Int) (t : Token) : Prop :=
  ∃ before rest, calls = before ++ .start v :: rest ∧ t = issued before v ∧ .start v ∉ rest ∧ .finish v t ∉ rest

/-- At some moment a token was registered for a review and a call set it. -/
def Call.Reach (calls : List Call) (v : Int) (t : Token) : Prop :=
  ∃ before call rest, calls = before ++ call :: rest ∧ call.Sets v ∧ (after before).token? v = some t

variable {calls : List Call} {call : Call} {v w : Int} {t : Token}

theorem after_concat (calls : List Call) (call : Call) : after (calls ++ [call]) = (after calls).performed call :=
  List.foldl_append

/-! ## One more call -/

theorem Call.leave_concat :
    Leave (calls ++ [call]) v t ↔
      (call = .start v ∧ t = issued calls v) ∨ (call ≠ .start v ∧ call ≠ .finish v t ∧ Leave calls v t) := by
  constructor
  · rintro ⟨before, rest, hcalls, ht, hstart, hfinish⟩
    obtain ⟨rfl, rfl, rfl⟩ | ⟨rest', rfl, rfl⟩ := concat_eq_append_cons.1 hcalls
    · exact .inl ⟨rfl, ht⟩
    · simp only [List.mem_append, List.mem_singleton, not_or] at hstart hfinish
      exact .inr ⟨Ne.symm hstart.2, Ne.symm hfinish.2, before, rest', rfl, ht, hstart.1, hfinish.1⟩
  · rintro (⟨rfl, ht⟩ | ⟨hstart, hfinish, before, rest, rfl, ht, hnoStart, hnoFinish⟩)
    · exact ⟨calls, [], rfl, ht, List.not_mem_nil, List.not_mem_nil⟩
    · refine ⟨before, rest ++ [call], by simp, ht, ?_, ?_⟩
      · simp only [List.mem_append, List.mem_singleton, not_or]
        exact ⟨hnoStart, Ne.symm hstart⟩
      · simp only [List.mem_append, List.mem_singleton, not_or]
        exact ⟨hnoFinish, Ne.symm hfinish⟩

theorem Call.reach_concat :
    Reach (calls ++ [call]) v t ↔ Reach calls v t ∨ (call.Sets v ∧ (after calls).token? v = some t) := by
  constructor
  · rintro ⟨before, last, rest, hcalls, hsets, ht⟩
    obtain ⟨rfl, rfl, rfl⟩ | ⟨rest', rfl, rfl⟩ := concat_eq_append_cons.1 hcalls
    · exact .inr ⟨hsets, ht⟩
    · exact .inl ⟨before, last, rest', rfl, hsets, ht⟩
  · rintro (⟨before, last, rest, rfl, hsets, ht⟩ | ⟨hsets, ht⟩)
    · exact ⟨before, last, rest ++ [call], by simp, hsets, ht⟩
    · exact ⟨calls, call, [], rfl, hsets, ht⟩

/-! ## Which token is registered -/

theorem token?_after : (after calls).token? v = some t ↔ Call.Leave calls v t := by
  induction calls using List.reverseRecOn with
  | nil => simp [after, token?, Call.Leave]
  | append_singleton calls call ih =>
    rw [after_concat, Call.leave_concat, ← ih]
    cases call with
    | start w =>
      rw [performed, token?_register]
      by_cases h : v = w
      · subst h
        simp [issued, eq_comm]
      · simp [h, Ne.symm h]
    | cancel w =>
      rw [performed, cancel, token?_setToken]
      simp
    | finish w u =>
      have hnoStart : Call.finish w u ≠ .start v := by simp
      rw [performed, token?_release]
      split
      · rename_i hgiven
        obtain ⟨rfl, hu⟩ := hgiven
        refine iff_of_false (Option.some_ne_none t).symm ?_
        rintro (⟨hstart, -⟩ | ⟨-, hfinish, ht⟩)
        · exact hnoStart hstart
        · rw [hu, Option.some.injEq] at ht
          exact hfinish (ht ▸ rfl)
      · rename_i hkept
        constructor
        · intro ht
          refine .inr ⟨hnoStart, fun hfinish => ?_, ht⟩
          cases hfinish
          exact hkept ⟨rfl, ht⟩
        · rintro (⟨hstart, -⟩ | ⟨-, -, ht⟩)
          · exact absurd hstart hnoStart
          · exact ht

/-! ## Tokens are told apart -/

theorem issued_eq (calls : List Call) (v : Int) :
    issued calls v = calls.countP fun call => call = .start call.review := by
  have hlength : (after calls).flags.length = calls.countP fun call => call = .start call.review := by
    induction calls using List.reverseRecOn with
    | nil => rfl
    | append_singleton calls call ih =>
      rw [after_concat, List.countP_append, ← ih]
      cases call with
      | start w => simp [performed, length_register, Call.review]
      | cancel w => simp [performed, cancel, length_setToken, Call.review]
      | finish w u => simp [performed, flags_release, Call.review]
  exact (register_fst _ _).trans hlength

/-- A later start returns a later token. -/
theorem issued_lt (before more : List Call) (v w : Int) :
    issued before v < issued (before ++ .start v :: more) w := by
  rw [issued_eq, issued_eq, List.countP_append, List.countP_cons]
  simp [Call.review]

/-- No token is returned twice. -/
theorem issued_inj {before before' rest rest' : List Call}
    (hcalls : before ++ .start v :: rest = before' ++ .start w :: rest') (ht : issued before v = issued before' w) :
    before = before' ∧ v = w := by
  rcases List.append_eq_append_iff.1 hcalls with ⟨more, rfl, hmore⟩ | ⟨more, rfl, hmore⟩
  · cases more with
    | nil =>
      cases hmore
      exact ⟨(List.append_nil _).symm, rfl⟩
    | cons first more =>
      cases hmore
      exact absurd ht (Nat.ne_of_lt (issued_lt ..))
  · cases more with
    | nil =>
      cases hmore
      exact ⟨List.append_nil _, rfl⟩
    | cons first more =>
      cases hmore
      exact absurd ht (Nat.ne_of_gt (issued_lt ..))

theorem lt_length_of_token? (h : (after calls).token? v = some t) : t < (after calls).flags.length := by
  obtain ⟨before, rest, rfl, rfl, -, -⟩ := token?_after.1 h
  rw [← register_fst _ v]
  exact issued_lt before rest v v

/-- A token is registered for no other review than that of the start that returned it. -/
theorem eq_of_token? {before rest : List Call} (hcalls : calls = before ++ .start v :: rest)
    (h : (after calls).token? w = some (issued before v)) : w = v := by
  obtain ⟨before', rest', hcalls', ht, -, -⟩ := token?_after.1 h
  exact (issued_inj (hcalls.symm.trans hcalls') ht).2.symm

/-! ## Which tokens are set -/

theorem isSet_performed :
    ((after calls).performed call).isSet t = true ↔
      (after calls).isSet t = true ∨ ∃ v, call.Sets v ∧ (after calls).token? v = some t := by
  have hcancel : ∀ v, ((after calls).cancel v).2.isSet t = true ↔
      (after calls).isSet t = true ∨ (after calls).token? v = some t := by
    intro v
    rw [cancel, isSet_setToken, Bool.or_eq_true, Bool.and_eq_true, beq_iff_eq, decide_eq_true_iff]
    exact or_congr_right (and_iff_left_of_imp lt_length_of_token?)
  cases call with
  | start w => simp [performed, isSet_register, hcancel, Call.Sets]
  | cancel w => simp [performed, hcancel, Call.Sets]
  | finish w u => simp [performed, isSet, flags_release, Call.Sets]

theorem isSet_after : (after calls).isSet t = true ↔ ∃ v, Call.Reach calls v t := by
  induction calls using List.reverseRecOn with
  | nil => simp [after, isSet, Call.Reach]
  | append_singleton calls call ih =>
    rw [after_concat, isSet_performed, ih, ← exists_or]
    exact exists_congr fun v => Call.reach_concat.symm

theorem isSet_of_isSet (h : (after calls).isSet t = true) (later : List Call) :
    (after (calls ++ later)).isSet t = true := by
  induction later using List.reverseRecOn with
  | nil => rwa [List.append_nil]
  | append_singleton later call ih =>
    rw [← List.append_assoc, after_concat]
    exact isSet_performed.2 (.inl ih)

theorem token?_performed_of_ne (c : Cancellations) (h : call.review ≠ v) :
    (c.performed call).token? v = c.token? v := by
  cases call with
  | start w =>
    rw [performed, token?_register]
    exact if_neg (Ne.symm h)
  | cancel w => exact token?_setToken ..
  | finish w u => rw [performed, token?_release, if_neg fun hv => h hv.1.symm]

theorem Call.Sets.review_eq (h : call.Sets v) : call.review = v := by
  rcases h with rfl | rfl <;> rfl

/-- A token is reached only as one of the review that it was returned for. -/
theorem reach_of_reach {before rest : List Call} (hcalls : calls = before ++ .start v :: rest)
    (h : Call.Reach calls w (issued before v)) : w = v := by
  obtain ⟨earlier, call, later, hsplit, -, ht⟩ := h
  obtain ⟨before', rest', rfl, htoken, -, -⟩ := token?_after.1 ht
  rw [hsplit, List.append_assoc, List.cons_append] at hcalls
  exact (issued_inj hcalls htoken.symm).2

end Cancellations

open Cancellations in
/-- **Tokens follow the calls.** After any calls on a registry: the token registered for a review is the one that
the last start for it has returned, unless that one has been given back since; cancelling tells whether one is
registered; a token is set exactly if at some moment, while it was the one registered for its review, that
review was cancelled or started again; no two starts return the same token; a call for another review leaves
the tokens of this one; and a token that is set stays set. -/
theorem tokens_follow_calls (calls : List Call) :
    (∀ v t, (after calls).token? v = some t ↔ Call.Leave calls v t) ∧
    (∀ v, ((after calls).cancel v).1 = true ↔ ∃ t, Call.Leave calls v t) ∧
    (∀ v before rest, calls = before ++ .start v :: rest →
      ((after calls).isSet (issued before v) = true ↔ Call.Reach calls v (issued before v))) ∧
    (∀ v w before before' rest rest', calls = before ++ .start v :: rest → calls = before' ++ .start w :: rest' →
      issued before v = issued before' w → before = before' ∧ v = w) ∧
    (∀ call v, call.review ≠ v →
      ((after calls).performed call).token? v = (after calls).token? v ∧
      ∀ before rest, calls = before ++ .start v :: rest →
        ((after calls).performed call).isSet (issued before v) = (after calls).isSet (issued before v)) ∧
    ∀ later t, (after calls).isSet t = true → (after (calls ++ later)).isSet t = true := by
  refine ⟨fun v t => token?_after, fun v => ?_, fun v before rest hcalls => ?_, ?_, fun call v hother => ?_,
    fun later t h => isSet_of_isSet h later⟩
  case refine_1 =>
    simp only [cancel, Option.isSome_iff_exists, token?_after]
  case refine_2 =>
    rw [isSet_after]
    constructor
    · rintro ⟨w, h⟩
      exact reach_of_reach hcalls h ▸ h
    · exact fun h => ⟨v, h⟩
  case refine_3 =>
    rintro v w before before' rest rest' rfl hcalls ht
    exact issued_inj hcalls ht
  case refine_4 =>
    refine ⟨token?_performed_of_ne _ hother, fun before rest hcalls => ?_⟩
    rw [Bool.eq_iff_iff, isSet_performed]
    refine or_iff_left ?_
    rintro ⟨w, hsets, ht⟩
    exact hother (hsets.review_eq.trans (eq_of_token? hcalls ht))

/-- Two runs of review 1 and one of review 2 between them. Each gives back its token, the first one when it has
been replaced, and the last call but two gives back the token of another review. -/
def mixedRuns : List Cancellations.Call :=
  [.start 1, .start 2, .start 1, .finish 1 0, .cancel 1, .finish 1 1, .finish 2 1, .finish 2 1]

open Cancellations in
/-- The second token of review 1 is still registered, and both of them are set; that of review 2 is neither. -/
theorem tokens_follow_calls_mixedRuns :
    Call.Leave mixedRuns 1 2 ∧ (¬ ∃ t, Call.Leave mixedRuns 2 t) ∧
    mixedRuns = [] ++ .start 1 :: mixedRuns.drop 1 ∧ Call.Reach mixedRuns 1 (issued [] 1) ∧
    mixedRuns = [.start 1] ++ .start 2 :: mixedRuns.drop 2 ∧ ¬ Call.Reach mixedRuns 2 (issued [.start 1] 2) ∧
    (Call.finish 1 1).review ≠ 2 ∧ ((after mixedRuns).performed (.finish 1 1)).token? 2 = (after mixedRuns).token? 2 ∧
    (after mixedRuns).isSet 2 = true ∧ (after (mixedRuns ++ [.start 1])).isSet 2 = true := by
  obtain ⟨htoken, hcancel, hset, -, hother, hstays⟩ := tokens_follow_calls mixedRuns
  have hfirst : mixedRuns = [] ++ .start 1 :: mixedRuns.drop 1 := rfl
  have hsecond : mixedRuns = [.start 1] ++ .start 2 :: mixedRuns.drop 2 := rfl
  have hdiffer : (Call.finish 1 1).review ≠ 2 := by decide
  have htwo : (after mixedRuns).isSet 2 = true := by decide
  refine ⟨(htoken 1 2).1 (by decide), ?_, hfirst, ?_, hsecond, ?_, hdiffer, (hother _ 2 hdiffer).1, htwo, ?_⟩
  case refine_1 =>
    rw [← hcancel]
    decide
  case refine_2 => exact (hset 1 [] _ hfirst).1 (by decide)
  case refine_3 =>
    rw [← hset 2 [.start 1] _ hsecond]
    decide
  case refine_4 => exact hstays [.start 1] 2 htwo

end PullReview
