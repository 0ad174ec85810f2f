import PullReview.Progress
import Mathlib.Data.List.Induction

/-!
# Merged records

The data of a review are the records of its steps merged one after the other (`Progress.merged`), so
members that an earlier step has written stay beside those of later ones. Whatever records are merged,
in whatever order, the data are taken as a record of the last step (`Progress.ofJson_merged`): no key is
used for an integer by one step and for a text by another.
-/

namespace PullReview

namespace Progress

/-- The records of several steps, merged one after the other. -/
def merged (records : List Progress) : Members := records.foldl (fun data p => data.merge p.written) []

/-- The records of best-effort writes. -/
def isNote : Progress → Bool
  | analyzing .. | ready .. => true
  | queued _ | fetching _ | completed .. | failed _ | cancelled _ => false

/-- The keys of the integers that steps record. -/
def integerKeys : List Text :=
  ["progress", "changed_files", "additions", "deletions", "files_found", "files_analyzed", "files_to_review",
    "issues_found"]

/-- The keys of the texts that steps record. -/
def textKeys : List Text :=
  ["step", "pr_title", "pr_author", "pr_url", "head_sha", "base_sha", "error", "reason"]

/-- Whether a value may stand under a key: an integer or a text, as the key asks. -/
def suits (key : Text) : Json → Bool
  | .int _ => integerKeys.contains key
  | .str _ => textKeys.contains key
  | _ => false

theorem exists_int_of_suits {key : Text} (hkey : key ∈ integerKeys) {j : Json} (h : suits key j = true) :
    ∃ i, j = .int i := by
  cases j with
  | int i => exact ⟨i, rfl⟩
  | str s =>
    have hdisjoint : ∀ key ∈ integerKeys, key ∉ textKeys := by decide
    exact absurd (List.contains_iff_mem.1 h) (hdisjoint key hkey)
  | _ => cases h

theorem exists_str_of_suits {key : Text} (hkey : key ∈ textKeys) {j : Json} (h : suits key j = true) :
    ∃ s, j = .str s := by
  cases j with
  | str s => exact ⟨s, rfl⟩
  | int i =>
    have hdisjoint : ∀ key ∈ textKeys, key ∉ integerKeys := by decide
    exact absurd (List.contains_iff_mem.1 h) (hdisjoint key hkey)
  | _ => cases h

/-- What a step writes: its name first, then members that suit their keys. -/
theorem written_eq_cons (p : Progress) :
    ∃ rest, p.written = (("step" : Text), .str (Named.name p.step)) :: rest ∧
      ∀ e ∈ rest, e.1 ≠ "step" ∧ suits e.1 e.2 = true := by
  cases p with
  | analyzing progress found analyzed =>
    rcases found with _ | found <;> rcases analyzed with _ | analyzed <;>
      exact ⟨_, rfl, by simp [suits, integerKeys, Json.ofOption]⟩
  | _ => exact ⟨_, rfl, by simp [suits, integerKeys, textKeys]⟩

end Progress

/-! ## Members that suit their keys -/

namespace Members

variable {m later : Members} {key : Text}

theorem get?_merge_of_forall_ne (h : ∀ e ∈ later, e.1 ≠ key) : (m.merge later).get? key = m.get? key := by
  induction later generalizing m with
  | nil => rfl
  | cons e later ih =>
    rw [List.forall_mem_cons] at h
    refine (ih h.2).trans ?_
    rw [get?_set, if_neg h.1]

theorem get?_merge_of_mem_nodup (hn : (later.map (·.1)).Nodup) {e : Text × Json} (he : e ∈ later) :
    (m.merge later).get? e.1 = some e.2 := by
  induction later generalizing m with
  | nil => cases he
  | cons first later ih =>
    rw [List.map_cons, List.nodup_cons] at hn
    obtain ⟨hfirst, hn⟩ := hn
    rcases List.mem_cons.1 he with rfl | he
    · -- no later member is under the same key
      have hlater : ∀ x ∈ later, x.1 ≠ e.1 := fun x hx hk => hfirst (hk ▸ List.mem_map_of_mem hx)
      exact (get?_merge_of_forall_ne (m := m.set e.1 e.2) hlater).trans ((get?_set ..).trans (if_pos rfl))
    · exact ih hn he

/-- Every member is an integer or a text, as its key asks. -/
def Typed (m : Members) : Prop := ∀ key j, m.get? key = some j → Progress.suits key j = true

namespace Typed

theorem merge (h : m.Typed) (hlater : ∀ e ∈ later, Progress.suits e.1 e.2 = true) : (m.merge later).Typed := by
  induction later generalizing m with
  | nil => exact h
  | cons e later ih =>
    rw [List.forall_mem_cons] at hlater
    refine ih (fun key j hj => ?_) hlater.2
    rw [get?_set] at hj
    split at hj
    · rename_i hkey
      cases hj
      exact hkey ▸ hlater.1
    · exact h key j hj

theorem optional_isOk {α : Type} (h : m.Typed) {key : String} (default : α) {take : Json → Checked α}
    (htake : ∀ j, Progress.suits key j = true → ∃ a, take j = .ok a) : ∃ a, m.optional key default take = .ok a := by
  unfold optional
  cases hj : m.get? key with
  | none => exact ⟨default, rfl⟩
  | some j =>
    obtain ⟨a, ha⟩ := htake j (h key j hj)
    exact ⟨a, by simp only [ha]; rfl⟩

theorem integer (h : m.Typed) (key : String) (hkey : (key : Text) ∈ Progress.integerKeys) (default : Int) :
    ∃ i, m.optional key default Json.asInteger = .ok i := by
  refine h.optional_isOk default fun j hj => ?_
  obtain ⟨i, rfl⟩ := Progress.exists_int_of_suits hkey hj
  exact ⟨i, rfl⟩

theorem integer? (h : m.Typed) (key : String) (hkey : (key : Text) ∈ Progress.integerKeys) (default : Option Int) :
    ∃ i, m.optional key default (Json.asOptional Json.asInteger) = .ok i := by
  refine h.optional_isOk default fun j hj => ?_
  obtain ⟨i, rfl⟩ := Progress.exists_int_of_suits hkey hj
  exact ⟨some i, rfl⟩

theorem text (h : m.Typed) (key : String) (hkey : (key : Text) ∈ Progress.textKeys) (default : Text) :
    ∃ s, m.optional key default Json.asText = .ok s := by
  refine h.optional_isOk default fun j hj => ?_
  obtain ⟨s, rfl⟩ := Progress.exists_str_of_suits hkey hj
  exact ⟨s, rfl⟩

theorem requiredText (h : m.Typed) (key : String) (hkey : (key : Text) ∈ Progress.textKeys)
    (hsome : (m.get? key).isSome = true) : ∃ s, m.required key Json.asText = .ok s := by
  obtain ⟨j, hj⟩ := Option.isSome_iff_exists.1 hsome
  obtain ⟨s, rfl⟩ := Progress.exists_str_of_suits hkey (h key j hj)
  exact ⟨s, by simp only [required, hj]; rfl⟩

/-- Members that suit their keys are taken as a record of any step. Of all keys only the error of a failed
review must be there. -/
theorem ofMembers (h : m.Typed) (step : ProgressStep) (herror : step = .failed → (m.get? "error").isSome = true) :
    ∃ p, Progress.ofMembers m step = .ok p ∧ p.step = step := by
  cases step with
  | queued =>
    obtain ⟨progress, hprogress⟩ := h.integer "progress" (by decide) 0
    obtain ⟨title, htitle⟩ := h.text "pr_title" (by decide) ""
    obtain ⟨author, hauthor⟩ := h.text "pr_author" (by decide) ""
    obtain ⟨url, hurl⟩ := h.text "pr_url" (by decide) ""
    obtain ⟨head, hhead⟩ := h.text "head_sha" (by decide) ""
    obtain ⟨base, hbase⟩ := h.text "base_sha" (by decide) ""
    obtain ⟨files, hfiles⟩ := h.integer "changed_files" (by decide) 0
    obtain ⟨additions, hadditions⟩ := h.integer "additions" (by decide) 0
    obtain ⟨deletions, hdeletions⟩ := h.integer "deletions" (by decide) 0
    rw [Progress.ofMembers, PullRequestSummary.ofMembers, hprogress, htitle, hauthor, hurl, hhead, hbase, hfiles,
      hadditions, hdeletions]
    exact ⟨_, rfl, rfl⟩
  | fetching =>
    obtain ⟨progress, hprogress⟩ := h.integer "progress" (by decide) Progress.fetchingStart
    rw [Progress.ofMembers, hprogress]
    exact ⟨_, rfl, rfl⟩
  | analyzing =>
    obtain ⟨progress, hprogress⟩ := h.integer "progress" (by decide) Progress.analyzingStart
    obtain ⟨found, hfound⟩ := h.integer? "files_found" (by decide) none
    obtain ⟨analyzed, hanalyzed⟩ := h.integer? "files_analyzed" (by decide) none
    rw [Progress.ofMembers, hprogress, hfound, hanalyzed]
    exact ⟨_, rfl, rfl⟩
  | ready =>
    obtain ⟨progress, hprogress⟩ := h.integer "progress" (by decide) Progress.readyStart
    obtain ⟨analyzed, hanalyzed⟩ := h.integer "files_analyzed" (by decide) 0
    obtain ⟨toReview, htoReview⟩ := h.integer "files_to_review" (by decide) 0
    rw [Progress.ofMembers, hprogress, hanalyzed, htoReview]
    exact ⟨_, rfl, rfl⟩
  | completed =>
    obtain ⟨progress, hprogress⟩ := h.integer "progress" (by decide) Progress.allDone
    obtain ⟨analyzed, hanalyzed⟩ := h.integer "files_analyzed" (by decide) 0
    obtain ⟨issues, hissues⟩ := h.integer "issues_found" (by decide) 0
    rw [Progress.ofMembers, hprogress, hanalyzed, hissues]
    exact ⟨_, rfl, rfl⟩
  | failed =>
    obtain ⟨error, hread⟩ := h.requiredText "error" (by decide) (herror rfl)
    rw [Progress.ofMembers, hread]
    exact ⟨_, rfl, rfl⟩
  | cancelled =>
    obtain ⟨reason, hreason⟩ := h.text "reason" (by decide) Progress.closedReason
    rw [Progress.ofMembers, hreason]
    exact ⟨_, rfl, rfl⟩

end Typed

end Members

/-! ## The data after some records -/

namespace Progress

variable {records : List Progress} {p : Progress}

theorem merged_concat (records : List Progress) (p : Progress) :
    merged (records ++ [p]) = (merged records).merge p.written := by
  simp only [merged, List.foldl_append, List.foldl_cons, List.foldl_nil]

theorem merged_typed (records : List Progress) : (merged records).Typed := by
  induction records using List.reverseRecOn with
  | nil => nofun
  | append_singleton records p ih =>
    obtain ⟨rest, hwritten, hrest⟩ := p.written_eq_cons
    rw [merged_concat]
    refine ih.merge ?_
    rw [hwritten, List.forall_mem_cons]
    exact ⟨rfl, fun e he => (hrest e he).2⟩

/-- The data name the last step. -/
theorem get?_merge_step (m : Members) (p : Progress) :
    (m.merge p.written).get? "step" = some (.str (Named.name p.step)) := by
  obtain ⟨rest, hwritten, hrest⟩ := p.written_eq_cons
  rw [hwritten]
  refine (Members.get?_merge_of_forall_ne fun e he => (hrest e he).1).trans ?_
  rw [Members.get?_set, if_pos rfl]

/-- **Merged records are a record.** Whatever is recorded, in whatever order, the data are taken as a record
of the last step. -/
theorem ofJson_merged (records : List Progress) (p : Progress) :
    ∃ q, ofJson (.obj (merged (records ++ [p]))) = .ok q ∧ q.step = p.step := by
  have hstep := get?_merge_step (merged records) p
  have hname : (Named.ofName? (Named.name p.step) : Option ProgressStep) = some p.step := by
    cases p.step <;> rfl
  have herror : p.step = .failed → ((merged (records ++ [p])).get? "error").isSome = true := by
    rw [merged_concat]
    cases p with
    | failed error =>
      intro _
      simp [written, toMembers, toMembers.tag, Members.withoutNulls, Members.merge, Members.get?_set]
    | _ => nofun
  rw [← merged_concat] at hstep
  obtain ⟨q, hq, hqstep⟩ := (merged_typed (records ++ [p])).ofMembers p.step herror
  refine ⟨q, ?_, hqstep⟩
  simp only [ofJson, hstep, hname, hq]
  rfl

end Progress

end PullReview
