import PullReview.Proofs.Run.Isolation
import PullReview.Proofs.Run.Registry

/-!
# Abandoned runs

A run that returns has completed or failed its review, has been refused a write, has met a failing
store call, or has found its token set. The token is registered for the review, the fence in the
database is drawn for the run: a handler of an earlier time, which can do nothing to the review any
more, can still set the token of its current run, and that run then stops and leaves the review
`in_progress` with nobody to go on with it. `abandoned_iff` says that this is the only way in which a
review is left to a run that has returned; `stalled_abandoned` is such a pool.
-/

namespace PullReview

/-! ## Standing of a run -/

namespace Tables

variable {t : Tables} {v : Int} {run : String}

/-- The review waits or runs, on behalf of a run. -/
def ActiveUnder (t : Tables) (v : Int) (run : String) : Prop :=
  ∃ r, t.review? v = some r ∧ r.run = run ∧ r.status.isActive = true

/-- The review has gone from a run: it has another, or is completed, failed or cancelled. -/
def Gone (t : Tables) (v : Int) (run : String) : Prop :=
  ∃ d, t.dossier? v = some d ∧ (d.review.run = run → d.review.status.isTerminal = true)

theorem activeUnder_iff :
    t.ActiveUnder v run ↔ ∃ d, t.dossier? v = some d ∧ d.review.run = run ∧ d.review.status.isActive = true := by
  constructor
  · rintro ⟨r, hr, h⟩
    exact ⟨_, Database.dossier?_of_review? hr, h⟩
  · rintro ⟨d, hd, h⟩
    exact ⟨d.review, (dossier?_eq_some_iff.1 hd).1, h⟩

theorem Gone.not_activeUnder (h : t.Gone v run) : ¬ t.ActiveUnder v run := by
  rw [activeUnder_iff]
  rintro ⟨d, hd, hrun, ha⟩
  obtain ⟨d', hd', ht⟩ := h
  rw [hd, Option.some.injEq] at hd'
  subst hd'
  rw [ReviewStatus.isActive, ht hrun] at ha
  cases ha

end Tables

/-- Since a task queued a review, a review has been queued or cancelled again. -/
def TouchedSince (log : List Entry) (i : Nat) (v : Int) : Prop :=
  ∃ queue touch, [queue, touch].Sublist log ∧ queue.task = i ∧ queue.ticket?.isSome = true ∧ touch.Touches v

theorem pair_sublist_concat {α : Type} {a b c : α} {l : List α} :
    [a, b].Sublist (l ++ [c]) ↔ [a, b].Sublist l ∨ a ∈ l ∧ b = c := by
  rw [← List.reverse_sublist, List.reverse_append, List.reverse_singleton, List.singleton_append,
    List.reverse_cons, List.reverse_singleton, List.singleton_append, List.cons_sublist_cons',
    List.singleton_sublist, List.mem_reverse, ← List.reverse_sublist, List.reverse_reverse]
  exact or_congr_right and_comm

theorem touchedSince_concat {log : List Entry} {e : Entry} {i : Nat} {v : Int} :
    TouchedSince (log ++ [e]) i v ↔
      TouchedSince log i v ∨ (∃ queue ∈ log, queue.task = i ∧ queue.ticket?.isSome = true) ∧ e.Touches v := by
  simp only [TouchedSince, pair_sublist_concat]
  constructor
  · rintro ⟨queue, touch, h | ⟨hqueue, rfl⟩, hi, hticket, ht⟩
    · exact .inl ⟨queue, touch, h, hi, hticket, ht⟩
    · exact .inr ⟨⟨queue, hqueue, hi, hticket⟩, ht⟩
  · rintro (⟨queue, touch, h, hi, hticket, ht⟩ | ⟨⟨queue, hqueue, hi, hticket⟩, ht⟩)
    · exact ⟨queue, touch, .inl h, hi, hticket, ht⟩
    · exact ⟨queue, e, .inr ⟨hqueue, rfl⟩, hi, hticket, ht⟩

/-- How a review stands to the run that a task has drawn for it. -/
inductive Standing (t : Tables) (log : List Entry) (i : Nat) (v : Int) (run : String) : Prop
  | gone (h : t.Gone v run) (why : TouchedSince log i v ∨ (memoryOf log i).ended = true)
  | held (h : t.ActiveUnder v run) (untouched : ¬ TouchedSince log i v) (unended : (memoryOf log i).ended = false)
    (unrefused : (memoryOf log i).refused = false)

section Step

variable {s s' : Service} {log : List Entry} {e : Entry} {i : Nat} {v : Int} {run : String}

/-- No run that has been drawn before is the one of a review just queued. -/
theorem Entry.Effects.run_ne (he : Entry.Effects s.now log e s.database s'.database) (hrun : s.database.Issued run)
    {ticket : Ticket} (hticket : e.ticket? = some ticket) : ticket.run ≠ run := by
  rintro rfl
  refine s.database.not_issued_nextRun ?_
  rwa [← (he.next hticket).1]

/-- A review that has gone from a run does not come back to it. -/
theorem Tables.Gone.step (h : s.database.tables.Gone v run) (hrun : s.database.Issued run)
    (he : Entry.Effects s.now log e s.database s'.database) : s'.database.tables.Gone v run := by
  obtain ⟨d, hd, hgone⟩ := h
  have hturns := he.turns v
  rw [hd] at hturns
  generalize hafter : s'.database.tables.dossier? v = after at hturns
  cases hturns with
  | @queued _ ticket number repository installation summary hticket =>
    exact ⟨_, hafter, fun hsame => absurd hsame (he.run_ne hrun hticket)⟩
  | cancelled => exact ⟨_, hafter, fun _ => rfl⟩
  | moved _ _ _ hs =>
    refine ⟨_, hafter, fun hsame => ?_⟩
    rw [ReviewStatus.isTerminal_iff.1 (hgone hsame)] at hs
    cases hs
  | extended _ _ _ ha =>
    refine ⟨_, hafter, fun hsame => ?_⟩
    rw [ReviewStatus.isActive, hgone hsame] at ha
    cases ha
  | kept => exact ⟨d, hafter, hgone⟩

/-- The review of a run may go where the run moves it. -/
theorem Memory.Writes.mem_successors {m : Memory} {status current : ReviewStatus} {progress : Progress}
    (hw : m.Writes status progress) (ha : current.isActive = true) (hb : m.begun = true → current ≠ .pending) :
    status ∈ current.successors := by
  cases current with
  | pending =>
    cases hw with
    | completed hbegun => exact absurd rfl (hb hbegun)
    | _ => decide
  | inProgress => cases hw <;> decide
  | completed | failed | cancelled => cases ha

/-- A run whose review it may write is not refused. -/
theorem not_refuses (hh : History Service.Drifts s log) (hf : e.Follows log) (hs : e.Happens s s')
    (hi : (memoryOf log e.task).ticket = some ⟨v, run⟩) (hactive : s.database.tables.ActiveUnder v run) :
    e.refuses = false := by
  have ho := hh.owned
  obtain ⟨d, hd, hrun, ha⟩ := Tables.activeUnder_iff.1 hactive
  have hnot : d.review.status.isTerminal ≠ true := by simpa [ReviewStatus.isActive] using ha
  unfold Entry.refuses
  split
  · rename_i j w review target progress named moved
    obtain ⟨-, -, hturns⟩ := hs.commit ho.tables
    obtain ⟨⟨ticket, status, hticket, rfl, rfl, -, -, rfl, hw⟩, -⟩ := hf
    rw [hi, Option.some.injEq] at hticket
    subst hticket
    cases moved with
    | true => rfl
    | false =>
      refine absurd ?_ (hturns.2 d status hd rfl (fun named hnamed => ?_))
      · obtain ⟨k, hk, htracks⟩ := hh.traced hd
        obtain rfl := ho.unique hk hi hrun
        exact hw.mem_successors ha htracks.begun
      · cases hnamed
        exact Text.ofString_inj.2 hrun.symm
  · rename_i j w review named status analysis complexity recorded
    obtain ⟨-, -, hturns⟩ := hs.commit ho.tables
    obtain ⟨⟨⟨ticket, hticket, rfl, rfl⟩, -⟩, -⟩ := hf
    rw [hi, Option.some.injEq] at hticket
    subst hticket
    cases recorded with
    | true => rfl
    | false => exact absurd (hturns.2 d hd (Text.ofString_inj.2 hrun)) hnot
  · rfl

/-- A review that is queued or cancelled goes from every run drawn before. -/
theorem Entry.Touches.gone (h : e.Touches v) (hrun : s.database.Issued run)
    (hactive : s.database.tables.ActiveUnder v run) (he : Entry.Effects s.now log e s.database s'.database) :
    s'.database.tables.Gone v run := by
  obtain ⟨d, hd, -, -⟩ := Tables.activeUnder_iff.1 hactive
  have hturns := he.turns v
  rw [hd] at hturns
  generalize hafter : s'.database.tables.dossier? v = after at hturns
  cases hturns with
  | queued _ number repository installation summary hticket =>
    exact ⟨_, hafter, fun hsame => absurd hsame (he.run_ne hrun hticket)⟩
  | cancelled => exact ⟨_, hafter, fun _ => rfl⟩
  | moved he | extended _ _ he =>
    subst he
    rcases h with ⟨ticket, ht, -⟩ | hc
    · cases ht
    · cases hc
  | kept _ hno => exact absurd h hno

theorem Entry.Follows.written_of_ends (hf : e.Follows log) (hi : (memoryOf log e.task).ticket = some ⟨v, run⟩)
    (h : e.ends = true) : e.written? = some v := by
  unfold Entry.ends at h
  split at h
  · obtain ⟨⟨ticket, status, hticket, rfl, -⟩, -⟩ := hf
    rw [hi, Option.some.injEq] at hticket
    subst hticket
    rfl
  · cases h

/-- A review that has gone from a run stays so, for the same reason. -/
theorem Standing.concat_gone (hgone : s.database.tables.Gone v run)
    (why : TouchedSince log i v ∨ (memoryOf log i).ended = true) (hrun : s.database.Issued run)
    (he : Entry.Effects s.now log e s.database s'.database) :
    Standing s'.database.tables (log ++ [e]) i v run := by
  refine .gone (hgone.step hrun he) ?_
  rcases why with htouched | hended
  · exact .inl (touchedSince_concat.2 (.inl htouched))
  · obtain ⟨f, hf, hends⟩ := ended_iff.1 hended
    exact .inr (ended_iff.2 ⟨f, List.mem_append_left _ hf, hends⟩)

/-- The step: a review that is held by a run stays held until it is touched, or the run ends it. -/
theorem Standing.concat (h : Standing s.database.tables log i v run) (hh : History Service.Drifts s log)
    (hf : e.Follows log) (hs : e.Happens s s') (hi : (memoryOf log i).ticket = some ⟨v, run⟩) :
    Standing s'.database.tables (log ++ [e]) i v run := by
  have ho := hh.owned
  have he := hs.effects hf ho.tables
  have hrun := ho.issued hi
  rcases h with ⟨hgone, why⟩ | ⟨hactive, huntouched, hunended, hunrefused⟩
  · exact .concat_gone hgone why hrun he
  by_cases htouch : e.Touches v
  · obtain ⟨queue, hqueue, hqi, hticket⟩ := takes_ticket.exists_mem hh.orderly hi
    have hsome : queue.ticket?.isSome = true := by rw [hticket]; rfl
    refine .gone (htouch.gone hrun hactive he) (.inl (touchedSince_concat.2 (.inr ⟨?_, htouch⟩)))
    exact ⟨queue, hqueue, hqi, hsome⟩
  have huntouched' : ¬ TouchedSince (log ++ [e]) i v := by
    rw [touchedSince_concat]
    rintro (h | ⟨-, h⟩)
    · exact huntouched h
    · exact htouch h
  have hunrefused' : (memoryOf (log ++ [e]) i).refused = false := by
    refine memoryOf_flag_concat (fun m e => (m.after_adds e).refused) hunrefused fun htask => ?_
    subst htask
    exact not_refuses hh hf hs hi hactive
  have hunended' : (e.task = i → e.ends = false) → (memoryOf (log ++ [e]) i).ended = false :=
    memoryOf_flag_concat (fun m e => (m.after_adds e).ended) hunended
  obtain ⟨d, hd, rfl, ha⟩ := Tables.activeUnder_iff.1 hactive
  have hturns := he.turns v
  rw [hd] at hturns
  generalize hafter : s'.database.tables.dossier? v = after at hturns
  cases hturns with
  | queued _ _ _ _ _ hticket hv => exact absurd (.inl ⟨_, hticket, hv⟩) htouch
  | cancelled _ hc => exact absurd (.inr hc) htouch
  | @moved _ j w status progress hmove hticket hw _ =>
    obtain rfl := ho.unique hticket hi rfl
    subst hmove
    by_cases hstatus : status = .inProgress
    · subst hstatus
      have hactive' := Tables.activeUnder_iff.2 ⟨_, hafter, rfl, rfl⟩
      exact .held hactive' huntouched' (hunended' fun _ => rfl) hunrefused'
    · -- the run itself has completed or failed its review
      have hterminal : status.isTerminal = true ∧
          (Named.name status : Text) ≠ Named.name ReviewStatus.inProgress := by
        cases hw <;> first | exact absurd rfl hstatus | decide
      refine .gone ⟨_, hafter, fun _ => hterminal.1⟩ (.inr (ended_iff.2 ?_))
      exact ⟨_, List.mem_append_right _ (List.mem_singleton_self _), rfl, decide_eq_true hterminal.2⟩
  | extended _ _ hadd =>
    subst hadd
    exact .held (Tables.activeUnder_iff.2 ⟨_, hafter, rfl, ha⟩) huntouched' (hunended' fun _ => rfl) hunrefused'
  | kept _ _ hw =>
    have hactive' := Tables.activeUnder_iff.2 ⟨d, hafter, rfl, ha⟩
    refine .held hactive' huntouched' (hunended' fun htask => ?_) hunrefused'
    subst htask
    exact Bool.eq_false_iff.2 fun hends => hw (hf.written_of_ends hi hends)

/-- A review that has just been queued stands to its run as held. -/
theorem standing_of_queued {ticket : Ticket} (hh : History Service.Drifts s log) (hf : e.Follows log)
    (hs : e.Happens s s') (hticket : e.ticket? = some ticket) :
    Standing s'.database.tables (log ++ [e]) e.task ticket.review ticket.run := by
  obtain ⟨hnone, hmemory⟩ := hf.of_ticket hticket
  have hfirst : ∀ queue ∈ log, queue.task = e.task → queue.ticket?.isSome ≠ true := by
    intro queue hqueue htask hsome
    obtain ⟨old, hold⟩ := Option.isSome_iff_exists.1 hsome
    have hknown := takes_ticket.of_mem hh.orderly hqueue hold
    rw [htask, hnone] at hknown
    cases hknown
  refine .held (Tables.activeUnder_iff.2 ?_) ?_ (by rw [hmemory]) (by rw [hmemory])
  · have hturns := (hs.effects hf hh.owned.tables).turns ticket.review
    generalize s.database.tables.dossier? ticket.review = before at hturns
    generalize hafter : s'.database.tables.dossier? ticket.review = after at hturns
    cases hturns with
    | @queued _ ticket' _ _ _ _ hticket' =>
      rw [hticket, Option.some.injEq] at hticket'
      subst hticket'
      exact ⟨_, rfl, rfl, rfl⟩
    | cancelled _ hc =>
      rw [Entry.cancelled_of_ticket hticket] at hc
      cases hc
    | moved he | extended _ _ he =>
      subst he
      cases hticket
    | kept _ hno => exact absurd (.inl ⟨ticket, hticket, rfl⟩) hno
  · rw [touchedSince_concat]
    rintro (⟨queue, touch, hsub, hi, hsome, -⟩ | ⟨⟨queue, hqueue, hi, hsome⟩, -⟩)
    · exact hfirst queue (hsub.subset (List.mem_cons_self ..)) hi hsome
    · exact hfirst queue hqueue hi hsome

end Step

/-- The run lemma. -/
theorem History.standing {s : Service} {log : List Entry} (h : History Service.Drifts s log) {i : Nat} {v : Int}
    {run : String} (hi : (memoryOf log i).ticket = some ⟨v, run⟩) : Standing s.database.tables log i v run := by
  induction h with
  | start now => cases hi
  | entry h hf _ hs ih =>
    rcases ticket_concat hi with ⟨hticket, rfl⟩ | hi
    · exact standing_of_queued h hf hs hticket
    · exact (ih hi).concat h hf hs hi
  | drift _ hs ih => exact hs.1 ▸ ih hi

/-! ## Stale stops -/

/-- A run has found its token set by a handler that had queued or cancelled the review before the run
was queued. -/
def StaleStop (log : List Entry) (i : Nat) (v : Int) : Prop :=
  ∃ old queue start setter check, [old, queue, start, setter, check].Sublist log ∧
    old.Touches v ∧ queue.task = i ∧ queue.ticket?.isSome = true ∧
    start.task = i ∧ start.registered?.isSome = true ∧
    setter.task = old.task ∧ setter.task ≠ i ∧ setter.worker = start.worker ∧ setter.Sets v ∧
    check.task = i ∧ check.stops = true

section Stop

variable {log : List Entry} {i : Nat} {v : Int} {run : String}

/-- Whoever sets the token of a review had queued or cancelled it. -/
theorem Entry.Sets.exists_touch {e : Entry} (h : e.Sets v) (hf : e.Follows log) (hlog : Orderly log) :
    ∃ old ∈ log, old.task = e.task ∧ old.Touches v := by
  obtain ⟨hallows, -⟩ := hf
  rcases h with h | h
  · rw [h] at hallows
    obtain ⟨-, ticket, hticket, hv⟩ := hallows
    obtain ⟨old, hold, htask, ht⟩ := takes_ticket.exists_mem hlog hticket
    exact ⟨old, hold, htask, .inl ⟨ticket, ht, hv⟩⟩
  · rw [h] at hallows
    obtain ⟨old, hold, htask, hc⟩ := exists_mem_of_cancelled hallows
    exact ⟨old, hold, htask, .inr hc⟩

theorem exists_append_of_triple {α : Type} {x y z : α} {l : List α} (h : [x, y, z].Sublist l) :
    ∃ a b c, l = a ++ x :: (b ++ y :: c) ∧ z ∈ c := by
  obtain ⟨l₁, l₂, rfl, hx, hyz⟩ := List.cons_sublist_iff.1 h
  obtain ⟨l₃, l₄, rfl, hy, hz⟩ := List.cons_sublist_iff.1 hyz
  obtain ⟨a, b, rfl⟩ := List.append_of_mem hx
  obtain ⟨c, d, rfl⟩ := List.append_of_mem hy
  exact ⟨a, b ++ c, d ++ l₄, by simp, List.mem_append_right _ (List.singleton_sublist.1 hz)⟩

/-- A run is registered after it has been queued. -/
theorem exists_queue_of_registered {before rest : List Entry} {start : Entry} {t : Token} (hlog : Orderly log)
    (hsplit : log = before ++ start :: rest) (hr : start.registered? = some (v, t)) :
    ∃ queue ∈ before, queue.task = start.task ∧ ∃ ticket, queue.ticket? = some ticket ∧ ticket.review = v := by
  obtain ⟨-, ticket, hticket, hv⟩ := (hlog before start rest hsplit).of_registered hr
  obtain ⟨queue, hqueue, htask, ht⟩ := takes_ticket.exists_mem (hlog.of_append hsplit) hticket
  exact ⟨queue, hqueue, htask, ticket, ht, hv⟩

/-- A run that has its token does not set it itself. -/
theorem Entry.Sets.task_ne {e start : Entry} {u : Int} {t : Token} (h : e.Sets v) (hf : e.Follows log)
    (hlog : Orderly log) (hstart : start ∈ log) (hr : start.registered? = some (u, t)) : e.task ≠ start.task := by
  intro htask
  obtain ⟨hallows, -⟩ := hf
  rcases h with h | h
  · rw [h] at hallows
    have htoken := takes_token.of_mem hlog hstart (by rw [hr]; rfl)
    rw [← htask, hallows.1] at htoken
    cases htoken
  · rw [h] at hallows
    obtain ⟨before, rest, hsplit⟩ := List.append_of_mem hstart
    obtain ⟨queue, hqueue, hqi, ticket, hticket, -⟩ := exists_queue_of_registered hlog hsplit hr
    have hqueue : queue ∈ log := hsplit ▸ List.mem_append_left _ hqueue
    have hsome := takes_ticket.of_mem hlog hqueue hticket
    have hnone := (sound_memoryOf hlog queue.task).cancelled ticket hsome
    rw [hqi, ← htask] at hnone
    simp only [Memory.Allows, hnone] at hallows
    cases hallows

/-- A run that has found its token set, and whose review nobody has touched since, was stopped by
somebody who had touched it before. -/
theorem staleStop_of_stopped {s : Service} (h : History Service.DriftsQuietly s log)
    (hi : (memoryOf log i).ticket = some ⟨v, run⟩) (hstopped : (memoryOf log i).stopped = true)
    (huntouched : ¬ TouchedSince log i v) : StaleStop log i v := by
  have hlog := h.orderly
  obtain ⟨check, hcheck, hci, hstops⟩ := stopped_iff.1 hstopped
  obtain ⟨start, setter, u, t, hsub, hrequest, ⟨hsw, hstart⟩, hworker, hsets⟩ := h.registered.found hcheck hstops
  -- the token found set is the one of the run
  have hsi : start.task = i := by
    obtain ⟨before, rest, hsplit⟩ := List.append_of_mem hcheck
    have hallows := (hlog before check rest hsplit).1
    rw [hrequest] at hallows
    obtain ⟨start', hstart', htask, ht⟩ := takes_token.exists_mem (hlog.of_append hsplit) hallows.1
    obtain ⟨⟨u', t'⟩, hr, rfl⟩ := Option.map_eq_some_iff.1 ht
    have hmem : start' ∈ log := hsplit ▸ List.mem_append_left _ hstart'
    rw [h.registered.unique (hsub.subset (List.mem_cons_self ..)) hmem ⟨hsw, hstart⟩
      ⟨h.worker_eq hmem hcheck htask, hr⟩, htask, hci]
  -- the log taken apart: the run is queued, it starts, its token is set, it finds that
  obtain ⟨a, b, c, rfl, hc⟩ := exists_append_of_triple hsub
  obtain ⟨queue, hqueue, hqi, ticket, hticket, rfl⟩ := exists_queue_of_registered hlog rfl hstart
  rw [hsi] at hqi
  have hv : ticket.review = v := by
    have := takes_ticket.of_mem hlog (List.mem_append_left _ hqueue) hticket
    rw [hqi, hi, Option.some.injEq] at this
    rw [← this]
  obtain ⟨a₁, a₂, rfl⟩ := List.append_of_mem hqueue
  have hsplit : a₁ ++ queue :: a₂ ++ start :: (b ++ setter :: c) =
      (a₁ ++ queue :: (a₂ ++ start :: b)) ++ setter :: c := by simp
  have hprior := hlog.of_append hsplit
  have hfollows := hlog _ setter c hsplit
  have hother : setter.task ≠ i := hsi ▸ hsets.task_ne hfollows hprior (by simp) hstart
  obtain ⟨old, hold, htask, htouch⟩ := hsets.exists_touch hfollows hprior
  rw [hv] at htouch hsets
  have hlate : [start, setter, check].Sublist (a₂ ++ start :: (b ++ setter :: c)) := by
    have hset : [setter, check].Sublist (setter :: c) := (List.singleton_sublist.2 hc).cons_cons setter
    exact ((hset.trans (List.sublist_append_right b _)).cons_cons start).trans (List.sublist_append_right a₂ _)
  rcases List.mem_append.1 hold with hold | hold
  · refine ⟨old, queue, start, setter, check, ?_, htouch, hqi, by rw [hticket]; rfl, hsi, by rw [hstart]; rfl,
      htask.symm, hother, hworker.trans hsw.symm, hsets, hci, hstops⟩
    rw [List.append_assoc]
    exact (List.singleton_sublist.2 hold).append (hlate.cons_cons queue)
  · rcases List.mem_cons.1 hold with rfl | hold
    · exact absurd (htask.symm.trans hqi) hother
    · refine absurd ⟨queue, old, ?_, hqi, by rw [hticket]; rfl, htouch⟩ huntouched
      rw [hsplit, List.append_assoc]
      refine ((List.Sublist.cons_cons queue ?_).trans (List.sublist_append_right a₁ _))
      exact (List.singleton_sublist.2 hold).trans (List.sublist_append_left ..)

end Stop

/-! ## Returning -/

namespace Pool

/-- The run of the task has returned, and none of the task's store calls has failed. -/
def ReturnedCleanly (p : Pool) (i : Nat) : Prop :=
  (∃ e ∈ p.log, e.task = i ∧ e.returns = true) ∧ ∀ e ∈ p.log, e.task = i → e.fails = false

/-- A run that has returned has a reason to have ended. -/
theorem settled_of_returned {log : List Entry} {e : Entry} (hlog : Orderly log) (he : e ∈ log)
    (hr : e.returns = true) : (memoryOf log e.task).Settled := by
  obtain ⟨before, rest, hsplit⟩ := List.append_of_mem he
  have hf := hlog before e rest hsplit
  have hsettled : (memoryOf before e.task).Settled := by
    unfold Entry.returns at hr
    split at hr
    · exact hf.1.2.2
    · cases hr
  exact hsettled.mono fun f hf => hsplit ▸ List.mem_append_left _ hf

end Pool

/-- **When a run is abandoned.** In any pool whose registries are left to its handlers: a review is left
to a run that has returned, none of whose store calls has failed, exactly if the run has found its
token set by a handler that had queued or cancelled the review before the run was queued, and the
review has been neither queued nor cancelled since. -/
theorem abandoned_iff {p : Pool} (h : p.Reachable Service.DriftsQuietly) {i : Nat} {v : Int} {run : String}
    (hruns : p.Runs i ⟨v, run⟩) (hreturned : p.ReturnedCleanly i) :
    p.tables.ActiveUnder v run ↔ StaleStop p.log i v ∧ ¬ TouchedSince p.log i v := by
  have hquiet := h.history
  have hh := hquiet.mono fun _ _ h => h.1
  have hlog := hh.orderly
  have hi : (memoryOf p.log i).ticket = some ⟨v, run⟩ := by
    obtain ⟨e, he, rfl, hticket⟩ := hruns
    exact takes_ticket.of_mem hlog he hticket
  obtain ⟨⟨e, he, rfl, hreturns⟩, hclean⟩ := hreturned
  have hstanding := hh.standing hi
  constructor
  · intro hactive
    cases hstanding with
    | gone hgone => exact absurd hactive hgone.not_activeUnder
    | held _ huntouched hunended hunrefused =>
      refine ⟨staleStop_of_stopped hquiet hi ?_ huntouched, huntouched⟩
      rcases Pool.settled_of_returned hlog he hreturns with hr | hr | hr | hr
      · rw [hunrefused] at hr
        cases hr
      · rw [hunended] at hr
        cases hr
      · exact hr
      · obtain ⟨f, hf, htask, hfails⟩ := failed_iff.1 hr
        rw [hclean f hf htask] at hfails
        cases hfails
  · rintro ⟨⟨_, _, _, _, check, hsub, -, -, -, -, -, -, -, -, -, hci, hstops⟩, huntouched⟩
    have hcheck : check ∈ p.log := hsub.subset (by simp)
    have hunended := (sound_memoryOf hlog e.task).stopped (stopped_iff.2 ⟨check, hcheck, hci, hstops⟩)
    cases hstanding with
    | gone _ why =>
      rcases why with htouched | hended
      · exact absurd htouched huntouched
      · rw [hunended] at hended
        cases hended
    | held hactive => exact hactive

/-- A pull request is opened and pushed to; when the run of the push has fetched its files, the run of the
opening starts. -/
def stalled : Pool :=
  .play (fun _ _ _ _ => .ok twoFiles)
    ([.arrive 0 (dueReview .opened), .perform 0, .arrive 0 (dueReview .synchronize)] ++
      List.replicate 5 (.perform 1) ++ [.perform 0] ++ List.replicate 2 (.perform 1))

theorem stalled_runs : stalled.Runs 1 ⟨1, "run-2"⟩ := by
  unfold Pool.Runs
  decide +kernel

theorem stalled_returnedCleanly : stalled.ReturnedCleanly 1 := by
  unfold Pool.ReturnedCleanly
  decide +kernel

theorem stalled_activeUnder : stalled.tables.ActiveUnder 1 "run-2" := by
  have hany : (stalled.tables.review? 1).any (fun r => r.run = "run-2" ∧ r.status.isActive) = true := by
    decide +kernel
  obtain ⟨r, hr, h⟩ := (Option.any_eq_true _ _).1 hany
  obtain ⟨hrun, ha⟩ := of_decide_eq_true h
  exact ⟨r, hr, hrun, ha⟩

/-- A run can return, with no store call failing, and leave its review waiting for it. -/
theorem stalled_abandoned :
    stalled.Reachable Service.DriftsQuietly ∧ stalled.Runs 1 ⟨1, "run-2"⟩ ∧ stalled.ReturnedCleanly 1 ∧
      stalled.tables.ActiveUnder 1 "run-2" :=
  ⟨Pool.reachable_play .., stalled_runs, stalled_returnedCleanly, stalled_activeUnder⟩

theorem stalled_staleStop :
    stalled.Runs 1 ⟨1, "run-2"⟩ ∧ stalled.ReturnedCleanly 1 ∧ StaleStop stalled.log 1 1 ∧
      ¬ TouchedSince stalled.log 1 1 :=
  ⟨stalled_runs, stalled_returnedCleanly,
    (abandoned_iff (Pool.reachable_play ..) stalled_runs stalled_returnedCleanly).1 stalled_activeUnder⟩

end PullReview
