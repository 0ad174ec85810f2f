import PullReview.Proofs.Run.Conduct
import Mathlib.Data.List.Induction

/-!
# Logs

A log keeps the requests of several tasks with their replies, in the order in which they were made.
What a task has been told is read off it (`memoryOf`). A log is orderly when every request in it was
allowed to its task at the time; then a task is told its run, its token and its files once, and what
it has recorded are the analyses of the first of its files (`sound_memoryOf`).
-/

namespace PullReview

/-- A request of a task and the reply to it. -/
structure Entry where
  task : Nat
  worker : Nat
  request : Request
  reply : Except Failure request.Reply

namespace Entry

/-- Whether a store call succeeded. -/
def commits : Entry → Bool
  | ⟨_, _, .store _, .ok _⟩ => true
  | _ => false

/-- The run that was queued. -/
def ticket? : Entry → Option Ticket
  | ⟨_, _, .store (.queue ..), .ok ticket⟩ => some ticket
  | _ => none

/-- The files that were fetched. -/
def listing? : Entry → Option (List ChangedFile)
  | ⟨_, _, .fetchFiles .., .ok files⟩ => some files
  | _ => none

/-- The review for which a token was registered, and the token. -/
def registered? : Entry → Option (Int × Token)
  | ⟨_, _, .startRun review, .ok token⟩ => some (review, token)
  | _ => none

/-- The reviews that were cancelled. -/
def cancelled : Entry → List Int
  | ⟨_, _, .store (.cancel ..), .ok reviews⟩ => reviews
  | ⟨_, _, .store (.dropInstallation _), .ok removal⟩ => removal.reviews
  | _ => []

/-- The review that was moved or got rows. -/
def written? : Entry → Option Int
  | ⟨_, _, .store (.move review ..), .ok true⟩ => some review
  | ⟨_, _, .store (.addAnalysis review ..), .ok true⟩ => some review
  | _ => none

/-- The progress that was recorded for a review. -/
def progress? : Entry → Int → Option Progress
  | ⟨_, _, .store (.move review _ progress _), .ok true⟩, v => if review = v then some progress else none
  | ⟨_, _, .store (.cancel _ _ reason), .ok reviews⟩, v => if v ∈ reviews then some (.cancelled reason) else none
  | ⟨_, _, .store (.dropInstallation _), .ok removal⟩, v =>
    if v ∈ removal.reviews then some (.cancelled "installation_deleted") else none
  | _, _ => none

/-- Whether a token was found set. -/
def stops : Entry → Bool
  | ⟨_, _, .isCancelled _, .ok set⟩ => set
  | _ => false

/-- Whether a write was refused. -/
def refuses : Entry → Bool
  | ⟨_, _, .store (.move ..), .ok moved⟩ => !moved
  | ⟨_, _, .store (.addAnalysis ..), .ok recorded⟩ => !recorded
  | _ => false

/-- Whether a review was completed or failed. -/
def ends : Entry → Bool
  | ⟨_, _, .store (.move _ target _ _), .ok true⟩ => target ≠ Named.name ReviewStatus.inProgress
  | _ => false

/-- Whether a store call failed. -/
def fails : Entry → Bool
  | ⟨_, _, .store _, .error _⟩ => true
  | _ => false

/-- Whether a run returned. -/
def returns : Entry → Bool
  | ⟨_, _, .finishRun .., .ok _⟩ => true
  | _ => false

theorem exists_of_ticket {e : Entry} {ticket : Ticket} (h : e.ticket? = some ticket) :
    ∃ i w number repository installation summary,
      e = ⟨i, w, .store (.queue number repository installation summary), .ok ticket⟩ := by
  unfold ticket? at h
  split at h
  · cases h
    exact ⟨_, _, _, _, _, _, rfl⟩
  · cases h

theorem cancelled_of_ticket {e : Entry} {ticket : Ticket} (h : e.ticket? = some ticket) : e.cancelled = [] := by
  obtain ⟨i, w, _, _, _, _, rfl⟩ := exists_of_ticket h
  rfl

end Entry

/-- What a task has been told. -/
def memoryOf (log : List Entry) (task : Nat) : Memory :=
  (log.filter (·.task == task)).foldl (fun m e => m.after e.request e.reply) {}

theorem memoryOf_concat (log : List Entry) (e : Entry) (i : Nat) :
    memoryOf (log ++ [e]) i =
      if e.task = i then (memoryOf log i).after e.request e.reply else memoryOf log i := by
  unfold memoryOf
  by_cases h : e.task = i <;> simp [List.filter_append, List.foldl_append, h]

/-- What memory keeps of an entry. -/
structure Memory.Adds (m : Memory) (e : Entry) (m' : Memory) : Prop where
  ticket : m'.ticket = e.ticket?.or m.ticket
  token : m'.token = (e.registered?.map (·.2)).or m.token
  files : m'.files = e.listing?.or m.files
  stopped : m'.stopped = (m.stopped || e.stops)
  refused : m'.refused = (m.refused || e.refuses)
  ended : m'.ended = (m.ended || e.ends)
  failed : m'.failed = (m.failed || e.fails)
  cancelled : ∀ v ∈ m'.cancelled, v ∈ e.cancelled ∨ v ∈ m.cancelled

theorem Memory.after_adds (m : Memory) (e : Entry) : m.Adds e (m.after e.request e.reply) := by
  obtain ⟨i, w, r, reply⟩ := e
  have hf : ∀ b : Bool, b = (b || false) := fun b => (Bool.or_false b).symm
  have ht : ∀ b : Bool, true = (b || true) := fun b => (Bool.or_true b).symm
  cases r with
  | store call =>
    cases call with
    | move review target progress run =>
      rcases reply with e | (_ | _)
      · exact ⟨rfl, rfl, rfl, hf _, hf _, hf _, ht _, fun v hv => .inr hv⟩
      · exact ⟨rfl, rfl, rfl, hf _, ht _, hf _, hf _, fun v hv => .inr hv⟩
      · by_cases htarget : target = Named.name ReviewStatus.inProgress
        · simp only [after, if_pos htarget]
          exact ⟨rfl, rfl, rfl, hf _, hf _, by simp [Entry.ends, htarget], hf _, fun v hv => .inr hv⟩
        · simp only [after, if_neg htarget]
          exact ⟨rfl, rfl, rfl, hf _, hf _, by simp [Entry.ends, htarget], hf _, fun v hv => .inr hv⟩
    | addAnalysis =>
      rcases reply with e | (_ | _)
      · exact ⟨rfl, rfl, rfl, hf _, hf _, hf _, ht _, fun v hv => .inr hv⟩
      · exact ⟨rfl, rfl, rfl, hf _, ht _, hf _, hf _, fun v hv => .inr hv⟩
      · exact ⟨rfl, rfl, rfl, hf _, hf _, hf _, hf _, fun v hv => .inr hv⟩
    | cancel | dropInstallation =>
      rcases reply with e | reviews
      · exact ⟨rfl, rfl, rfl, hf _, hf _, hf _, ht _, fun v hv => .inr hv⟩
      · exact ⟨rfl, rfl, rfl, hf _, hf _, hf _, hf _, fun v hv => .inl hv⟩
    | _ =>
      rcases reply with e | reply
      · exact ⟨rfl, rfl, rfl, hf _, hf _, hf _, ht _, fun v hv => .inr hv⟩
      · exact ⟨rfl, rfl, rfl, hf _, hf _, hf _, hf _, fun v hv => .inr hv⟩
  | isCancelled token =>
    rcases reply with e | (_ | _)
    · exact ⟨rfl, rfl, rfl, hf _, hf _, hf _, hf _, fun v hv => .inr hv⟩
    · exact ⟨rfl, rfl, rfl, hf _, hf _, hf _, hf _, fun v hv => .inr hv⟩
    · exact ⟨rfl, rfl, rfl, ht _, hf _, hf _, hf _, fun v hv => .inr hv⟩
  | _ => rcases reply with e | reply <;> exact ⟨rfl, rfl, rfl, hf _, hf _, hf _, hf _, fun v hv => .inr hv⟩

/-! ## What entries follow -/

/-- An entry may follow a log: its task was allowed the request, and the reply can come. -/
def Entry.Follows (e : Entry) (log : List Entry) : Prop :=
  (memoryOf log e.task).Allows e.request ∧ e.request.CanReply e.reply

/-- Every entry of a log may follow those before it. -/
def Orderly (log : List Entry) : Prop := ∀ before e rest, log = before ++ e :: rest → e.Follows before

theorem Orderly.of_append {log before rest : List Entry} (h : Orderly log) (hsplit : log = before ++ rest) :
    Orderly before :=
  fun b e r hb => h b e (r ++ rest) (by simp [hsplit, hb])

/-- Where a list with one more entry is split: at the new entry, or before it. -/
theorem concat_eq_append_cons {α : Type} {xs before rest : List α} {x y : α} :
    xs ++ [x] = before ++ y :: rest ↔
      (before = xs ∧ y = x ∧ rest = []) ∨ ∃ rest', rest = rest' ++ [x] ∧ xs = before ++ y :: rest' := by
  constructor
  · intro h
    cases rest using List.reverseRecOn with
    | nil =>
      obtain ⟨rfl, hx⟩ := List.append_inj' h rfl
      cases hx
      exact .inl ⟨rfl, rfl, rfl⟩
    | append_singleton rest' z =>
      rw [← List.cons_append, ← List.append_assoc] at h
      obtain ⟨rfl, hx⟩ := List.append_inj' h rfl
      cases hx
      exact .inr ⟨rest', rfl, rfl⟩
  · rintro (⟨rfl, rfl, rfl⟩ | ⟨rest', rfl, rfl⟩)
    · rfl
    · simp

theorem orderly_concat {log : List Entry} {e : Entry} : Orderly (log ++ [e]) ↔ Orderly log ∧ e.Follows log := by
  constructor
  · intro h
    exact ⟨h.of_append rfl, h log e [] rfl⟩
  · rintro ⟨h, he⟩ before f rest hf
    obtain ⟨rfl, rfl, -⟩ | ⟨rest', -, hlog⟩ := concat_eq_append_cons.1 hf
    · exact he
    · exact h before f rest' hlog

namespace Entry.Follows

variable {e : Entry} {log : List Entry}

/-- A review is queued by a task that has been told nothing, and then it knows its run. -/
theorem of_ticket {ticket : Ticket} (h : e.Follows log) (ht : e.ticket? = some ticket) :
    memoryOf log e.task = {} ∧ memoryOf (log ++ [e]) e.task = { ticket := some ticket } := by
  obtain ⟨i, w, number, repository, installation, summary, rfl⟩ := exists_of_ticket ht
  have hnone : memoryOf log i = {} := h.1
  refine ⟨hnone, ?_⟩
  rw [memoryOf_concat, if_pos rfl, hnone]
  rfl

theorem of_cancelled {v : Int} (h : e.Follows log) (hv : v ∈ e.cancelled) : memoryOf log e.task = {} := by
  unfold cancelled at hv
  split at hv
  · exact h.1
  · exact h.1
  · cases hv

theorem of_listing {files : List ChangedFile} (h : e.Follows log) (hf : e.listing? = some files) :
    (memoryOf log e.task).files = none := by
  unfold listing? at hf
  split at hf
  · cases hf
    exact h.1.2
  · cases hf

theorem of_registered {v : Int} {t : Token} (h : e.Follows log) (hr : e.registered? = some (v, t)) :
    (memoryOf log e.task).token = none ∧
      ∃ ticket, (memoryOf log e.task).ticket = some ticket ∧ ticket.review = v := by
  unfold registered? at hr
  split at hr
  · cases hr
    exact h.1
  · cases hr

end Entry.Follows

/-! ## What logs tell -/

/-- A field of memory comes from the entries that tell it, and each task is told it once. -/
structure Memory.Takes {α : Type} (field : Memory → Option α) (told : Entry → Option α) : Prop where
  start : field {} = none
  after : ∀ m e, field (m.after e.request e.reply) = (told e).or (field m)
  once : ∀ {log e a}, e.Follows log → told e = some a → field (memoryOf log e.task) = none

namespace Memory.Takes

variable {α : Type} {field : Memory → Option α} {told : Entry → Option α} {log : List Entry} {a : α} {i : Nat}

theorem concat (h : Takes field told) {e : Entry} (he : e.Follows log) (hi : field (memoryOf log i) = some a) :
    field (memoryOf (log ++ [e]) i) = some a := by
  rw [memoryOf_concat]
  split
  · subst_vars
    rw [h.after]
    cases ht : told e with
    | none => exact hi
    | some b =>
      rw [h.once he ht] at hi
      cases hi
  · exact hi

theorem of_mem (h : Takes field told) (ho : Orderly log) {e : Entry} (he : e ∈ log) (ht : told e = some a) :
    field (memoryOf log e.task) = some a := by
  induction log using List.reverseRecOn with
  | nil => cases he
  | append_singleton log f ih =>
    obtain ⟨ho, hf⟩ := orderly_concat.1 ho
    rcases List.mem_append.1 he with he | he
    · exact h.concat hf (ih ho he)
    · rw [List.mem_singleton.1 he] at ht ⊢
      rw [memoryOf_concat, if_pos rfl, h.after, ht]
      rfl

/-- The field is what the first entry of the task that tells it tells. -/
theorem eq_findSome? (h : Takes field told) (ho : Orderly log) (i : Nat) :
    field (memoryOf log i) = (log.filter (·.task == i)).findSome? told := by
  induction log using List.reverseRecOn with
  | nil => exact h.start
  | append_singleton log e ih =>
    obtain ⟨ho, he⟩ := orderly_concat.1 ho
    rw [memoryOf_concat, List.filter_append, List.findSome?_append, ← ih ho]
    split
    · subst_vars
      rw [h.after]
      cases ht : told e with
      | none => simp [ht]
      | some a => simp [ht, h.once he ht]
    · rename_i hi
      simp [hi]

theorem exists_mem (h : Takes field told) (ho : Orderly log) (hi : field (memoryOf log i) = some a) :
    ∃ e ∈ log, e.task = i ∧ told e = some a := by
  rw [h.eq_findSome? ho] at hi
  obtain ⟨e, he, ht⟩ := List.exists_of_findSome?_eq_some hi
  rw [List.mem_filter, beq_iff_eq] at he
  exact ⟨e, he.1, he.2, ht⟩

end Memory.Takes

theorem takes_ticket : Memory.Takes (·.ticket) Entry.ticket? where
  start := rfl
  after m e := (m.after_adds e).ticket
  once he ht := by rw [(he.of_ticket ht).1]

theorem takes_token : Memory.Takes (·.token) fun e => e.registered?.map (·.2) where
  start := rfl
  after m e := (m.after_adds e).token
  once he ht := by
    obtain ⟨⟨v, t⟩, hr, _⟩ := Option.map_eq_some_iff.1 ht
    exact (he.of_registered hr).1

theorem takes_files : Memory.Takes (·.files) Entry.listing? where
  start := rfl
  after m e := (m.after_adds e).files
  once he ht := he.of_listing ht

/-- A flag of memory is set by the entries that tell it. -/
theorem memoryOf_flag_iff {flag : Memory → Bool} {told : Entry → Bool} (hstart : flag {} = false)
    (hafter : ∀ m e, flag (m.after e.request e.reply) = (flag m || told e)) {log : List Entry} {i : Nat} :
    flag (memoryOf log i) = true ↔ ∃ e ∈ log, e.task = i ∧ told e = true := by
  induction log using List.reverseRecOn with
  | nil => simp [memoryOf, hstart]
  | append_singleton log e ih =>
    simp only [memoryOf_concat, List.mem_append, List.mem_singleton, or_and_right, exists_or, exists_eq_left, ← ih]
    split
    · rename_i hi
      simp [hafter, hi]
    · rename_i hi
      simp [hi]

/-- A flag that is not set stays so unless the task is told it. -/
theorem memoryOf_flag_concat {flag : Memory → Bool} {told : Entry → Bool}
    (hafter : ∀ m e, flag (m.after e.request e.reply) = (flag m || told e)) {log : List Entry} {e : Entry} {i : Nat}
    (h : flag (memoryOf log i) = false) (he : e.task = i → told e = false) :
    flag (memoryOf (log ++ [e]) i) = false := by
  rw [memoryOf_concat]
  by_cases hi : e.task = i
  · rw [if_pos hi, hafter, h, he hi]
    rfl
  · rw [if_neg hi]
    exact h

/-- A ticket was just told or known before. -/
theorem ticket_concat {log : List Entry} {e : Entry} {i : Nat} {ticket : Ticket}
    (h : (memoryOf (log ++ [e]) i).ticket = some ticket) :
    e.ticket? = some ticket ∧ e.task = i ∨ (memoryOf log i).ticket = some ticket := by
  rw [memoryOf_concat] at h
  by_cases hi : e.task = i
  · rw [if_pos hi, (Memory.after_adds _ e).ticket, Option.or_eq_some_iff] at h
    exact h.imp (fun h => ⟨h, hi⟩) And.right
  · rw [if_neg hi] at h
    exact .inr h

theorem stopped_iff {log : List Entry} {i : Nat} :
    (memoryOf log i).stopped = true ↔ ∃ e ∈ log, e.task = i ∧ e.stops = true :=
  memoryOf_flag_iff rfl fun m e => (m.after_adds e).stopped

theorem refused_iff {log : List Entry} {i : Nat} :
    (memoryOf log i).refused = true ↔ ∃ e ∈ log, e.task = i ∧ e.refuses = true :=
  memoryOf_flag_iff rfl fun m e => (m.after_adds e).refused

theorem ended_iff {log : List Entry} {i : Nat} :
    (memoryOf log i).ended = true ↔ ∃ e ∈ log, e.task = i ∧ e.ends = true :=
  memoryOf_flag_iff rfl fun m e => (m.after_adds e).ended

theorem failed_iff {log : List Entry} {i : Nat} :
    (memoryOf log i).failed = true ↔ ∃ e ∈ log, e.task = i ∧ e.fails = true :=
  memoryOf_flag_iff rfl fun m e => (m.after_adds e).failed

/-- A run that has a reason to end keeps it. -/
theorem Memory.Settled.mono {before log : List Entry} {i : Nat} (h : (memoryOf before i).Settled)
    (hsub : before ⊆ log) :
    (memoryOf log i).Settled := by
  simp only [Memory.Settled, refused_iff, ended_iff, stopped_iff, failed_iff] at h ⊢
  have hmono : ∀ {told : Entry → Bool}, (∃ e ∈ before, e.task = i ∧ told e = true) →
      ∃ e ∈ log, e.task = i ∧ told e = true := fun ⟨e, he, h⟩ => ⟨e, hsub he, h⟩
  exact h.imp hmono (Or.imp hmono (Or.imp hmono hmono))

theorem exists_mem_of_cancelled {log : List Entry} {i : Nat} {v : Int} (h : v ∈ (memoryOf log i).cancelled) :
    ∃ e ∈ log, e.task = i ∧ v ∈ e.cancelled := by
  induction log using List.reverseRecOn with
  | nil => cases h
  | append_singleton log e ih =>
    have hold : v ∈ (memoryOf log i).cancelled → ∃ f ∈ log ++ [e], f.task = i ∧ v ∈ f.cancelled := fun h => by
      obtain ⟨f, hf, hi, hv⟩ := ih h
      exact ⟨f, List.mem_append_left _ hf, hi, hv⟩
    rw [memoryOf_concat] at h
    split at h
    · rename_i hi
      rcases (Memory.after_adds _ e).cancelled v h with hv | hv
      · exact ⟨e, List.mem_append_right _ (List.mem_singleton_self e), hi, hv⟩
      · exact hold hv
    · exact hold h

/-! ## Sound memory -/

/-- Each file has one record. -/
theorem length_eq_of_mapM_record {files : List ChangedFile} {records : List Record}
    (h : files.mapM ChangedFile.record = .ok records) : records.length = files.length := by
  induction files generalizing records with
  | nil =>
    cases h
    rfl
  | cons file files ih =>
    rw [List.mapM_cons] at h
    cases hrecord : file.record with
    | error e =>
      rw [hrecord] at h
      cases h
    | ok record =>
      cases hrest : files.mapM ChangedFile.record with
      | error e =>
        rw [hrecord, hrest] at h
        cases h
      | ok rest =>
        rw [hrecord, hrest] at h
        cases h
        rw [List.length_cons, List.length_cons, ih hrest]

/-- What is left to record and what has been recorded make up the files fetched; a run that has stopped
has not ended its review; and a task that runs a review has cancelled none. -/
structure Memory.Sound (m : Memory) : Prop where
  recorded : ∃ done, m.files.getD [] = done ++ m.left ∧ done.mapM ChangedFile.record = .ok m.records
  stopped : m.stopped = true → m.ended = false
  cancelled : ∀ ticket, m.ticket = some ticket → m.cancelled = []

theorem Memory.Sound.after {m : Memory} (h : m.Sound) {r : Request} (hr : m.Allows r)
    {reply : Except Failure r.Reply} (hreply : r.CanReply reply) : (m.after r reply).Sound := by
  obtain ⟨⟨done, hfiles, hdone⟩, hstopped, hcancelled⟩ := h
  have hsame : m.Sound := ⟨⟨done, hfiles, hdone⟩, hstopped, hcancelled⟩
  cases r with
  | store call =>
    cases call with
    | move review target progress run =>
      obtain ⟨ticket, status, -, -, -, hs, -⟩ := hr
      rcases reply with e | (_ | _)
      · exact ⟨⟨done, hfiles, hdone⟩, hstopped, hcancelled⟩
      · exact ⟨⟨done, hfiles, hdone⟩, hstopped, hcancelled⟩
      · simp only [Memory.after]
        split
        · exact ⟨⟨done, hfiles, hdone⟩, hstopped, hcancelled⟩
        · refine ⟨⟨done, hfiles, hdone⟩, fun h => ?_, hcancelled⟩
          rw [show m.stopped = true from h] at hs
          cases hs
    | addAnalysis review run status analysis complexity =>
      obtain ⟨-, -, -, file, rest, hleft, hanalysis, hrecord⟩ := hr
      rcases reply with e | (_ | _)
      · exact ⟨⟨done, hfiles, hdone⟩, hstopped, hcancelled⟩
      · exact ⟨⟨done, hfiles, hdone⟩, hstopped, hcancelled⟩
      · refine ⟨⟨done ++ [file], ?_, ?_⟩, hstopped, hcancelled⟩
        · simp only [Memory.after]
          rw [hleft, List.tail_cons, List.append_assoc, List.singleton_append, ← hleft]
          exact hfiles
        · have hfile : file.record = .ok ⟨status, analysis, complexity⟩ := by
            rw [hrecord, ChangedFile.record, hanalysis]
            rfl
          rw [List.mapM_append, hdone, List.mapM_cons, hfile]
          rfl
    | cancel | dropInstallation =>
      have hticket : m.ticket = none := by rw [show m = {} from hr]
      rcases reply with e | reply
      · exact ⟨⟨done, hfiles, hdone⟩, hstopped, hcancelled⟩
      · refine ⟨⟨done, hfiles, hdone⟩, hstopped, fun ticket ht => ?_⟩
        rw [show m.ticket = some ticket from ht] at hticket
        cases hticket
    | queue =>
      have hnone : m.cancelled = [] := by rw [show m = {} from hr]
      rcases reply with e | reply
      · exact ⟨⟨done, hfiles, hdone⟩, hstopped, hcancelled⟩
      · exact ⟨⟨done, hfiles, hdone⟩, hstopped, fun _ _ => hnone⟩
    | _ => rcases reply with e | reply <;> exact ⟨⟨done, hfiles, hdone⟩, hstopped, hcancelled⟩
  | fetchFiles =>
    rcases reply with e | files
    · exact hsame
    · rw [hr.2] at hfiles
      obtain ⟨rfl, -⟩ := List.append_eq_nil_iff.1 hfiles.symm
      exact ⟨⟨[], rfl, hdone⟩, hstopped, hcancelled⟩
  | isCancelled token =>
    rcases reply with e | (_ | _)
    · exact hsame
    · exact hsame
    · exact ⟨⟨done, hfiles, hdone⟩, fun _ => hr.2, hcancelled⟩
  | analyze => exact hsame
  | startRun | cancelRun | finishRun =>
    rcases reply with e | reply <;> exact ⟨⟨done, hfiles, hdone⟩, hstopped, hcancelled⟩

theorem sound_memoryOf {log : List Entry} (ho : Orderly log) (i : Nat) : (memoryOf log i).Sound := by
  induction log using List.reverseRecOn with
  | nil => exact ⟨⟨[], rfl, rfl⟩, nofun, nofun⟩
  | append_singleton log e ih =>
    obtain ⟨ho, he⟩ := orderly_concat.1 ho
    rw [memoryOf_concat]
    split
    · subst_vars
      exact (ih ho).after he.1 he.2
    · exact ih ho

end PullReview
