import PullReview.Proofs.Run.Metadata
import PullReview.Proofs.Store.Holdings

/-!
# Repositories without their installation

The row of a repository names its installation, but the tables need not hold that one: repositories can be added
to an installation that was never recorded, or has been removed, by a delivery that does not name its owner.
This is the only way (`orphaned_iff`): such a row is there exactly while its repository has been added like
that and neither has been undone since, neither by removing the repository nor by recording the installation.
-/

namespace PullReview

/-- A repository is there and its installation is not. -/
def Tables.Orphaned (t : Tables) (key : Int × Int) : Prop :=
  key ∈ t.repositories.map Repository.key ∧ key.1 ∉ t.installations.map (·.id)

/-! ## What calls add and remove -/

namespace StoreCall

/-- Whether a call adds the repository with a key. -/
def adds (key : Int × Int) : StoreCall → Bool
  | saveInstallation installation _ _ repositories | saveRepositories installation repositories _ _ =>
    key.1 == installation && repositories.any (·.id == key.2)
  | queue .. | move .. | addAnalysis .. | cancel .. | dropRepositories .. | dropInstallation .. => false

/-- Whether a call removes the repository with a key. -/
def removes (key : Int × Int) : StoreCall → Bool
  | dropRepositories installation ids => key.1 == installation && ids.contains key.2
  | dropInstallation installation => key.1 == installation
  | queue .. | move .. | addAnalysis .. | cancel .. | saveInstallation .. | saveRepositories .. => false

end StoreCall

namespace Repository

variable {installation : Int} {r : Event.Repository} {rs : List Event.Repository} {rows : List Repository}
  {key : Int × Int}

theorem mem_key_put :
    key ∈ (put installation rows r).map Repository.key ↔
      key = (installation, r.id) ∨ key ∈ rows.map Repository.key := by
  unfold put
  split
  · rename_i h
    obtain ⟨row, hrow, hof⟩ := h
    have hkeys : (rows.map (named installation · r)).map Repository.key = rows.map Repository.key := by
      simp [Function.comp_def, key_named]
    have hthere : (installation, r.id) ∈ rows.map Repository.key :=
      List.mem_map.2 ⟨row, hrow, isOf_iff_key.1 hof⟩
    rw [hkeys]
    constructor
    · exact .inr
    · rintro (rfl | h)
      · exact hthere
      · exact h
  · rw [List.map_append, List.mem_append, List.map_singleton, List.mem_singleton, or_comm]
    exact Iff.rfl

theorem mem_key_foldl_put :
    key ∈ (rs.foldl (put installation) rows).map Repository.key ↔
      (key.1 == installation && rs.any (·.id == key.2)) = true ∨ key ∈ rows.map Repository.key := by
  induction rs generalizing rows with
  | nil => simp
  | cons r rs ih =>
    rw [List.foldl_cons, ih, mem_key_put]
    obtain ⟨i, id⟩ := key
    simp only [List.any_cons, Bool.and_eq_true, Bool.or_eq_true, beq_iff_eq, Prod.mk.injEq]
    grind

end Repository

namespace StoreCall

variable {call : StoreCall} {now : Moment} {key : Int × Int}

theorem mem_key_rows {repositories : List Repository} :
    key ∈ (call.rows repositories).map Repository.key ↔
      call.adds key = true ∨ key ∈ repositories.map Repository.key ∧ call.removes key = false := by
  have hfilter : ∀ gone : Int × Int → Bool,
      key ∈ (repositories.filter fun row => !gone row.key).map Repository.key ↔
        key ∈ repositories.map Repository.key ∧ gone key = false := by
    intro gone
    simp only [List.mem_map, List.mem_filter, Bool.not_eq_true']
    constructor
    · rintro ⟨row, ⟨hrow, hgone⟩, rfl⟩
      exact ⟨⟨row, hrow, rfl⟩, hgone⟩
    · rintro ⟨⟨row, hrow, rfl⟩, hgone⟩
      exact ⟨row, ⟨hrow, hgone⟩, rfl⟩
  cases call with
  | saveInstallation installation login kind added =>
    rw [removes, and_iff_left rfl]
    exact Repository.mem_key_foldl_put
  | saveRepositories installation added login kind =>
    rw [removes, and_iff_left rfl]
    exact Repository.mem_key_foldl_put
  | dropRepositories installation ids =>
    rw [adds, or_iff_right Bool.false_ne_true]
    exact hfilter fun key => key.1 == installation && ids.contains key.2
  | dropInstallation installation =>
    rw [adds, or_iff_right Bool.false_ne_true]
    exact hfilter fun key => key.1 == installation
  | _ => rw [adds, removes, or_iff_right Bool.false_ne_true, and_iff_left rfl]; rfl

/-- A call that removes an installation removes all its repositories and adds none. -/
theorem removes_of_uninstalled (h : call.uninstalled? = some key.1) :
    call.removes key = true ∧ call.adds key = false := by
  cases call with
  | dropInstallation installation =>
    obtain rfl : installation = key.1 := Option.some.inj h
    exact ⟨beq_self_eq_true _, rfl⟩
  | _ => cases h

theorem keepsBooks_of_adds (h : call.adds key = true) : call.keepsBooks = true := by
  cases call <;> first | rfl | cases h

theorem recorded?_of_adds (h : call.adds key = true) : call.recorded? = none ∨ call.recorded? = some key.1 := by
  cases call with
  | saveInstallation installation login kind added =>
    rw [adds, Bool.and_eq_true, beq_iff_eq] at h
    exact .inr (congrArg some h.1.symm)
  | saveRepositories installation added login kind =>
    rw [adds, Bool.and_eq_true, beq_iff_eq] at h
    rw [recorded?]
    cases login.filter fun name : Text => name ≠ "" with
    | none => exact .inl rfl
    | some login => exact .inr (congrArg some h.1.symm)
  | _ => cases h

end StoreCall

/-! ## What many calls add and remove -/

/-- One of some calls has started something, given the calls before it, and all calls since keep it. -/
def Since (starts : List StoreCall → StoreCall → Prop) (keeps : StoreCall → Prop) (calls : List StoreCall) : Prop :=
  ∃ before call after, calls = before ++ call :: after ∧ starts before call ∧ ∀ c ∈ after, keeps c

theorem not_since_nil {starts : List StoreCall → StoreCall → Prop} {keeps : StoreCall → Prop} :
    ¬ Since starts keeps [] := by
  rintro ⟨before, call, after, hcalls, -⟩
  simp at hcalls

theorem since_concat {starts : List StoreCall → StoreCall → Prop} {keeps : StoreCall → Prop} {calls : List StoreCall}
    {c : StoreCall} : Since starts keeps (calls ++ [c]) ↔ starts calls c ∨ Since starts keeps calls ∧ keeps c := by
  constructor
  · rintro ⟨before, call, after, hcalls, hstarts, hkeeps⟩
    obtain ⟨rfl, rfl, rfl⟩ | ⟨after', rfl, rfl⟩ := concat_eq_append_cons.1 hcalls
    · exact .inl hstarts
    · rw [List.forall_mem_append] at hkeeps
      exact .inr ⟨⟨before, call, after', rfl, hstarts, hkeeps.1⟩, hkeeps.2 c (List.mem_singleton_self c)⟩
  · rintro (hstarts | ⟨⟨before, call, after, rfl, hstarts, hkeeps⟩, hc⟩)
    · exact ⟨calls, c, [], rfl, hstarts, List.forall_mem_nil _⟩
    · refine ⟨before, call, after ++ [c], by simp, hstarts, ?_⟩
      exact List.forall_mem_append.2 ⟨hkeeps, List.forall_mem_singleton.2 hc⟩

/-- The installation has been recorded, and not been removed since. -/
def Installed (installation : Int) : List StoreCall → Prop :=
  Since (fun _ call => call.recorded? = some installation) fun call => call.uninstalled? ≠ some installation

/-- The repository has been added by a call that does not record its installation while that one was not there;
and since then neither has the installation been recorded nor the repository been removed. -/
def Stranded (key : Int × Int) : List StoreCall → Prop :=
  Since (fun before call => call.adds key = true ∧ call.recorded? = none ∧ ¬ Installed key.1 before)
    fun call => call.recorded? ≠ some key.1 ∧ call.removes key = false

/-- The tables hold the installations and the orphans that some calls make. -/
structure Tables.Books (t : Tables) (calls : List StoreCall) : Prop where
  installed : ∀ i, i ∈ t.installations.map (·.id) ↔ Installed i calls
  stranded : ∀ key, t.Orphaned key ↔ Stranded key calls

theorem Tables.Books.concat {db : Database} {now : Moment} {calls : List StoreCall} (h : db.tables.Books calls)
    {call : StoreCall} {reply : call.Reply} {t : Tables} (hok : call.transaction db now = .ok (reply, t)) :
    t.Books (calls ++ [call]) := by
  obtain ⟨hrepositories, hinstallations⟩ := StoreCall.transaction_books hok
  constructor
  case installed =>
    intro i
    rw [hinstallations, StoreCall.mem_id_owners, h.installed, Installed, since_concat]
  case stranded =>
    intro key
    have hold := h.stranded key
    rw [Stranded, since_concat, ← Stranded, ← hold, ← h.installed]
    rw [Orphaned, hrepositories, hinstallations, StoreCall.mem_key_rows, StoreCall.mem_id_owners, Orphaned]
    -- what becomes of the installation decides first, then whether the call adds the repository
    by_cases hun : call.uninstalled? = some key.1
    · obtain ⟨hremoves, hadds⟩ := StoreCall.removes_of_uninstalled hun
      simp [hremoves, hadds]
    · by_cases hadds : call.adds key = true
      · rcases StoreCall.recorded?_of_adds hadds with hrecorded | hrecorded
        · simp only [hadds, hrecorded, hun, reduceCtorEq, ne_eq, not_false_eq_true, and_true, true_and, true_or,
            false_or]
          tauto
        · simp [hrecorded]
      · simp only [hadds, hun, ne_eq, not_false_eq_true, and_true, not_or]
        tauto

/-! ## Pools -/

namespace Entry

/-- The store call of an entry, if it succeeded. -/
def commit? : Entry → Option StoreCall
  | ⟨_, _, .store call, .ok _⟩ => some call
  | _ => none

variable {e : Entry}

theorem exists_of_commit? {call : StoreCall} (h : e.commit? = some call) :
    ∃ i w reply, e = ⟨i, w, .store call, .ok reply⟩ := by
  unfold commit? at h
  split at h
  · cases h
    exact ⟨_, _, _, rfl⟩
  · cases h

theorem commits_of_commit?_eq_none (h : e.commit? = none) : e.commits = false := by
  unfold commits
  split
  · cases h
  · rfl

end Entry

/-- The store calls of a log that have succeeded. -/
def commitsOf (log : List Entry) : List StoreCall := log.filterMap Entry.commit?

/-- **What a history leaves of installations and orphans** is told by the calls that have succeeded. -/
theorem History.books {s : Service} {log : List Entry} (h : History Service.Drifts s log) :
    s.database.tables.Books (commitsOf log) := by
  induction h with
  | start now =>
    constructor
    case installed => exact fun i => iff_of_false List.not_mem_nil not_since_nil
    case stranded => exact fun key => iff_of_false (fun h => List.not_mem_nil h.1) not_since_nil
  | drift _ hs ih => exact hs.1 ▸ ih
  | @entry s s' log e h _ _ hs ih =>
    have hconcat : commitsOf (log ++ [e]) = commitsOf log ++ e.commit?.toList := by
      rw [commitsOf, List.filterMap_append]
      cases h : e.commit? <;> simp [commitsOf, h]
    rw [hconcat]
    cases hc : e.commit? with
    | none =>
      obtain ⟨htables, -⟩ := hs.idle (Entry.commits_of_commit?_eq_none hc)
      rw [htables, Option.toList_none, List.append_nil]
      exact ih
    | some call =>
      obtain ⟨i, w, reply, rfl⟩ := Entry.exists_of_commit? hc
      exact ih.concat hs.transaction.1

/-! ## Where orphans come from -/

/-- What may be asked on behalf of an event: the repositories of installations are left to the one store call
of the event. -/
def Event.Books (event : Event) : Request → Prop
  | .store call => call.keepsBooks = true → event.firstCall? = some call
  | _ => True

theorem Event.process_books (event : Event) : event.process.Asks event.Books := by
  apply Event.process_asks_of
  case hrun =>
    intro r hr
    cases r with
    | store call =>
      intro hbooks
      cases call with
      | move review target progress run => cases hbooks
      | addAnalysis review run status analysis complexity => cases hbooks
      | _ => cases hr
    | _ => trivial
  case hcall =>
    intro call hcall _
    exact hcall

/-- A call that adds a repository without recording its installation is for a delivery that names no owner. -/
theorem Event.of_unowned {event : Event} {call : StoreCall} {key : Int × Int} (h : event.firstCall? = some call)
    (hadds : call.adds key = true) (hrecorded : call.recorded? = none) :
    ∃ installation repositories, event = .repositoriesAdded installation repositories ∧ installation.id = key.1 ∧
      (∀ account ∈ installation.account, account.login = "") ∧ ∃ r ∈ repositories, r.id = key.2 := by
  cases event with
  | reviewDue action pullRequest repository installation =>
    cases h
    cases hadds
  | pullRequestClosed pullRequest repository installation =>
    cases h
    cases hadds
  | installationCreated installation repositories =>
    obtain ⟨account, -, rfl⟩ := Option.map_eq_some_iff.1 h
    cases hrecorded
  | installationDeleted installation =>
    cases h
    cases hadds
  | repositoriesAdded installation repositories =>
    cases h
    simp only [StoreCall.adds, Bool.and_eq_true, beq_iff_eq, List.any_eq_true] at hadds
    refine ⟨installation, repositories, rfl, hadds.1.symm, ?_, hadds.2⟩
    intro account haccount
    rw [Option.mem_def] at haccount
    simpa [StoreCall.recorded?, haccount] using hrecorded
  | repositoriesRemoved installation repositories =>
    cases h
    cases hadds

/-- **When a repository is there without its installation.** However the handlers of some deliveries interleave
and whichever requests fail: it is there without it exactly when it was added, by a call that records no owner,
to an installation that was not there, and neither has been undone since. Such a call is made for a delivery
of added repositories that does not name the owner; where every such delivery names it, every repository
has its installation. -/
theorem orphaned_iff {events : List Event} {p : Pool} (h : p.ReachedBy Service.Drifts events) :
    (∀ key, p.tables.Orphaned key ↔ Stranded key (commitsOf p.log)) ∧
    (∀ key, p.tables.Orphaned key → ∃ (installation : Event.Installation) (repositories : List Event.Repository),
      .repositoriesAdded installation repositories ∈ events ∧ installation.id = key.1 ∧
      (∀ account ∈ installation.account, account.login = "") ∧ ∃ r ∈ repositories, r.id = key.2) ∧
    ((∀ (installation : Event.Installation) repositories, .repositoriesAdded installation repositories ∈ events →
        ∃ account ∈ installation.account, account.login ≠ "") →
      ∀ row ∈ p.tables.repositories, ∃ i ∈ p.tables.installations, i.id = row.installation) := by
  have hbooks : p.tables.Books (commitsOf p.log) := h.reachable.history.books
  have hcause : ∀ key, p.tables.Orphaned key →
      ∃ (installation : Event.Installation) (repositories : List Event.Repository),
      .repositoriesAdded installation repositories ∈ events ∧ installation.id = key.1 ∧
      (∀ account ∈ installation.account, account.login = "") ∧ ∃ r ∈ repositories, r.id = key.2 := by
    intro key horphaned
    obtain ⟨before, call, after, hcalls, ⟨hadds, hrecorded, -⟩, -⟩ := (hbooks.stranded key).1 horphaned
    have hmem : call ∈ commitsOf p.log := hcalls ▸ List.mem_append_right before List.mem_cons_self
    obtain ⟨e, he, hcommit⟩ := List.mem_filterMap.1 hmem
    obtain ⟨i, w, reply, rfl⟩ := Entry.exists_of_commit? hcommit
    obtain ⟨event, hevent, hasked⟩ := h.asked Event.process_books _ he
    have hkeeps : call.keepsBooks = true := StoreCall.keepsBooks_of_adds hadds
    obtain ⟨installation, repositories, rfl, hcause⟩ := Event.of_unowned (hasked hkeeps) hadds hrecorded
    exact ⟨installation, repositories, List.mem_of_getElem? hevent, hcause⟩
  refine ⟨hbooks.stranded, hcause, ?_⟩
  intro hnamed row hrow
  by_contra hnone
  have horphaned : p.tables.Orphaned row.key := by
    refine ⟨List.mem_map_of_mem hrow, ?_⟩
    intro hmem
    obtain ⟨i, hi, hid⟩ := List.mem_map.1 hmem
    exact hnone ⟨i, hi, hid⟩
  obtain ⟨installation, repositories, hevent, -, hunnamed, -⟩ := hcause row.key horphaned
  obtain ⟨account, haccount, hlogin⟩ := hnamed installation repositories hevent
  exact hlogin (hunnamed account haccount)

/-- A repository added to installation 77, whose owner is named or not. -/
def addition (account : Option Event.Account) : Event :=
  .repositoriesAdded { id := 77, account } [{ id := 5, fullName := "acme/widgets" }]

/-- It is all that ever comes in. -/
def additionAlone (account : Option Event.Account) : Pool :=
  .play (fun _ _ _ _ => .ok []) [.arrive 0 (addition account), .perform 0]

theorem additionAlone_reachedBy (account : Option Event.Account) :
    (additionAlone account).ReachedBy Service.Drifts [addition account] :=
  Pool.reachedBy_play _ (fun _ _ _ _ => .ok []) [.arrive 0 (addition account), .perform 0]

/-- Without its owner, the repository is there and the installation is not. -/
theorem addition_unowned :
    (additionAlone none).ReachedBy Service.Drifts [addition none] ∧
    ∃ row ∈ (additionAlone none).tables.repositories,
      ∀ i ∈ (additionAlone none).tables.installations, i.id ≠ row.installation := by
  refine ⟨additionAlone_reachedBy none, ⟨1, 77, 5, "acme/widgets", false⟩, ?_, ?_⟩
  · exact List.mem_singleton_self _
  · exact List.forall_mem_nil _

/-- With its owner, both are there. -/
theorem addition_orphaned_iff :
    ((additionAlone none).tables.Orphaned (77, 5) ∧ Stranded (77, 5) (commitsOf (additionAlone none).log) ∧
      ∃ (installation : Event.Installation) (repositories : List Event.Repository),
        .repositoriesAdded installation repositories ∈ [addition none] ∧ installation.id = 77 ∧
          (∀ account ∈ installation.account, account.login = "") ∧ ∃ r ∈ repositories, r.id = 5) ∧
    ∀ row ∈ (additionAlone (some { login := "acme" })).tables.repositories,
      ∃ i ∈ (additionAlone (some { login := "acme" })).tables.installations, i.id = row.installation := by
  have horphaned : (additionAlone none).tables.Orphaned (77, 5) := by
    constructor
    · exact List.mem_singleton_self _
    · exact List.not_mem_nil
  obtain ⟨hstranded, hcause, -⟩ := orphaned_iff (additionAlone_reachedBy none)
  obtain ⟨-, -, hnamed⟩ := orphaned_iff (additionAlone_reachedBy (some { login := "acme" }))
  refine ⟨⟨horphaned, (hstranded _).1 horphaned, hcause _ horphaned⟩, hnamed ?_⟩
  intro installation repositories hmem
  cases List.mem_singleton.1 hmem
  exact ⟨{ login := "acme" }, rfl, by decide⟩

end PullReview
