import PullReview.Proofs.Store.Guards
import PullReview.Proofs.Store.Timestamps

/-!
# Removing an installation

Removing an installation cancels its active reviews, and takes away its repositories and its own row. What
is left of all five tables and what the call tells is said in full (`Tables.Removes`), and holds whenever the
call succeeds (`removal_exact`). It succeeds if the database is up and the id of the installation fits a column;
under an id that does not fit nothing is ever stored.
-/

namespace PullReview

/-- A review of an installation and what becomes of it when the installation is removed. -/
structure Review.Uninstalled (r : Review) (now : Moment) (r' : Review) : Prop where
  step : r'.data.get? "step" = some (.str "cancelled")
  reason : r'.data.get? "reason" = some (.str "installation_deleted")
  others : ∀ key : Text, key ≠ "step" → key ≠ "reason" → r'.data.get? key = r.data.get? key
  incomplete : r'.completedAt = none
  rest : r' = { r with status := .cancelled, data := r'.data, updatedAt := now }

/-- What is removed with an installation: the tables after it, and what is told. -/
structure Tables.Removes (t : Tables) (now : Moment) (installation : Int) (removal : Removal) (after : Tables) :
    Prop where
  reviews : List.Forall₂ (fun r r' => if r.installation = installation ∧ r.status.isActive = true then
    r.Uninstalled now r' else r' = r) t.reviews after.reviews
  fileChanges : after.fileChanges = t.fileChanges
  comments : after.comments = t.comments
  repositories : after.repositories = t.repositories.filter (·.installation != installation)
  installations : after.installations = t.installations.filter (·.id != installation)
  mem_reviews : ∀ v, v ∈ removal.reviews ↔
    ∃ r ∈ t.reviews, r.id = v ∧ r.installation = installation ∧ r.status.isActive = true
  nodup_reviews : removal.reviews.Nodup
  repositoriesTold : removal.repositories = (t.repositories.filter (·.installation == installation)).length
  installationsTold : removal.installations = if installation ∈ t.installations.map (·.id) then 1 else 0

/-! ## What stored rows are like -/

/-- The installations that rows name. -/
def Tables.installationIds (t : Tables) : List Int :=
  t.reviews.map (·.installation) ++ t.repositories.map (·.installation) ++ t.installations.map (·.id)

/-- An active review has no time of completion, an installation has one row, and ids of installations fit. -/
structure Tables.Regular (t : Tables) : Prop where
  incomplete : ∀ r ∈ t.reviews, r.status.isActive = true → r.completedAt = none
  nodup_installations : (t.installations.map (·.id)).Nodup
  fits : ∀ i ∈ t.installationIds, fitsColumn i = true

theorem Review.Turned.incomplete {now : Moment} {r s : Review} (h : r.Turned now s)
    (hr : r.status.isActive = true → r.completedAt = none) (hs : s.status.isActive = true) : s.completedAt = none := by
  cases h with
  | kept => exact hr hs
  | moved status written hsucc =>
    have hactive : r.status.isActive = true := by
      rw [← Bool.not_eq_false, ReviewStatus.isActive_eq_false_iff, ReviewStatus.isTerminal_iff]
      exact List.ne_nil_of_mem hsucc
    have hopen : status ≠ .completed := by
      rintro rfl
      cases hs
    simp only [Database.moved, if_neg hopen]
    exact hr hactive

theorem Review.Turned.installation_eq {now : Moment} {r s : Review} (h : r.Turned now s) :
    s.installation = r.installation := by
  cases h <;> rfl

theorem Installation.perm_insertInstallation (i : Installation) (rows : List Installation) :
    (Database.insertInstallation i rows).Perm (i :: rows) := by
  induction rows with
  | nil => exact .refl _
  | cons row rows ih =>
    unfold Database.insertInstallation
    split
    · exact .refl _
    · exact (ih.cons row).trans (.swap i row rows)

theorem Installation.nodup_put {rows : List Installation} (h : (rows.map (·.id)).Nodup) (installation : Int)
    (login kind : Text) (now : Moment) : ((put installation login kind now rows).map (·.id)).Nodup := by
  unfold put
  split
  · rwa [map_id_retold]
  · rename_i hnew
    rw [((perm_insertInstallation _ rows).map (·.id)).nodup_iff, List.map_cons, List.nodup_cons]
    exact ⟨fun hid => hnew (List.mem_map.1 hid), h⟩

namespace StoreCall

variable {call : StoreCall} {now : Moment} {db : Database} {t : Tables}

theorem nodup_owners {rows : List Installation} (h : (rows.map (·.id)).Nodup) :
    ((call.owners now rows).map (·.id)).Nodup := by
  cases call with
  | saveInstallation installation login kind repositories => exact Installation.nodup_put h installation login kind now
  | saveRepositories installation repositories login kind =>
    rw [owners]
    cases login.filter fun name : Text => name ≠ "" with
    | none => exact h
    | some name => exact Installation.nodup_put h installation name kind now
  | dropInstallation installation => exact h.sublist (List.filter_sublist.map _)
  | _ => exact h

theorem recorded?_mem_carried {i : Int} (h : call.recorded? = some i) : .int i ∈ call.carried t := by
  cases call with
  | saveInstallation installation login kind repositories =>
    cases h
    exact List.mem_append_left _ List.mem_cons_self
  | saveRepositories installation repositories login kind =>
    rw [recorded?, Option.map_eq_some_iff] at h
    obtain ⟨name, hname, rfl⟩ := h
    rw [carried, hname]
    exact List.mem_append_left _ List.mem_cons_self
  | _ => cases h

/-- Recording any repository carries its installation. -/
theorem mem_carriedByEach {installation : Int} {repositories : List Event.Repository} (h : repositories ≠ []) :
    .int installation ∈ carriedByEach installation repositories := by
  obtain ⟨r, hr⟩ := List.exists_mem_of_ne_nil _ h
  exact List.mem_flatMap.2 ⟨r, hr, List.mem_cons_self⟩

end StoreCall

theorem Repository.installation_foldl_put {installation : Int} {rs : List Event.Repository} {rows : List Repository}
    {row : Repository} (h : row ∈ rs.foldl (put installation) rows) :
    row.installation ∈ rows.map (·.installation) ∨ rs ≠ [] ∧ row.installation = installation := by
  induction rs using List.reverseRecOn generalizing row with
  | nil => exact .inl (List.mem_map_of_mem h)
  | append_singleton rs r ih =>
    rw [List.foldl_append] at h
    change row ∈ put installation _ r at h
    have hne : rs ++ [r] ≠ [] := List.append_ne_nil_of_right_ne_nil rs (List.cons_ne_nil r [])
    have hold : ∀ row ∈ rs.foldl (put installation) rows,
        row.installation ∈ rows.map (·.installation) ∨ rs ++ [r] ≠ [] ∧ row.installation = installation :=
      fun row hrow => (ih hrow).imp_right fun h => ⟨hne, h.2⟩
    unfold put at h
    split at h
    · obtain ⟨before, hbefore, rfl⟩ := List.mem_map.1 h
      have hsame : (before.named installation r).installation = before.installation := by
        rw [named]
        split <;> rfl
      rw [hsame]
      exact hold before hbefore
    · rcases List.mem_append.1 h with h | h
      · exact hold row h
      · rw [List.mem_singleton.1 h]
        exact .inr ⟨hne, rfl⟩

namespace StoreCall

variable {call : StoreCall} {now : Moment} {db : Database} {t : Tables}

theorem installation_rows {rows : List Repository} {row : Repository} (h : row ∈ call.rows rows) :
    row.installation ∈ rows.map (·.installation) ∨ .int row.installation ∈ call.carried t := by
  cases call with
  | saveInstallation installation login kind repositories =>
    refine (Repository.installation_foldl_put h).imp_right fun hnew => ?_
    rw [hnew.2]
    exact List.mem_append_left _ List.mem_cons_self
  | saveRepositories installation repositories login kind =>
    refine (Repository.installation_foldl_put h).imp_right fun hnew => ?_
    obtain ⟨hne, hinstallation⟩ := hnew
    rw [hinstallation]
    exact List.mem_append_right _ (mem_carriedByEach hne)
  | dropRepositories installation ids => exact .inl (List.mem_map_of_mem (List.mem_of_mem_filter h))
  | dropInstallation installation => exact .inl (List.mem_map_of_mem (List.mem_of_mem_filter h))
  | _ => exact .inl (List.mem_map_of_mem h)

/-- After a successful call a review has just been queued for an installation, or the call turns it. -/
theorem Turns.renewed {v : Int} {e : Dossier} (he : t.dossier? v = some e) {reply : call.Reply}
    (h : call.Turns now db t reply) :
    (e.review.completedAt = none ∧ .int e.review.installation ∈ call.carried db.tables) ∨
    ∃ d, db.tables.dossier? v = some d ∧ d.review.Turned now e.review := by
  by_cases hqueued : ∃ number repository installation summary, call = .queue number repository installation summary
  · obtain ⟨number, repository, installation, summary, rfl⟩ := hqueued
    obtain ⟨-, -, hafter⟩ := h
    rw [hafter] at he
    split at he
    · cases he
      exact .inl ⟨rfl, List.mem_cons_of_mem _ (List.mem_cons_of_mem _ List.mem_cons_self)⟩
    · exact .inr ⟨e, he, .kept⟩
  · obtain ⟨ticket, number, repository, installation, summary, hcall, -⟩ | ⟨-, hturned⟩ := h.turned he
    · cases call with
      | queue number repository installation summary =>
        exact absurd ⟨number, repository, installation, summary, rfl⟩ hqueued
      | _ => cases hcall
    · exact .inr hturned

end StoreCall

/-- A call that succeeds carries integers that fit. -/
theorem TimedCall.fits_of_carried {c : TimedCall} {db : Database} {reply : c.call.Reply}
    (h : (c.perform db).1 = .ok reply) {i : Int} (hi : .int i ∈ c.call.carried db.tables) : fitsColumn i = true := by
  have hi : .int i ∈ c.call.carried (c.finds db).tables := hi
  exact StoreCall.binds_of_perform_ok h _ hi

namespace Database

variable {db : Database}

/-- The step of one call. -/
theorem performed_regular (hw : db.tables.WellFormed) (h : db.tables.Regular) (c : TimedCall) :
    (db.performed c).tables.Regular := by
  obtain ⟨e, -, htables⟩ | ⟨reply, hreply, hok⟩ := performed_cases db c
  · exact htables ▸ h
  have hw : (c.finds db).tables.WellFormed := hw
  obtain ⟨hw', hturns⟩ := StoreCall.transaction_turns hw hok
  obtain ⟨hrepositories, hinstallations⟩ := StoreCall.transaction_books hok
  -- a review is one that the call has queued, or one from before that it has turned
  have hreviews : ∀ r ∈ (db.performed c).tables.reviews,
      (r.completedAt = none ∧ .int r.installation ∈ c.call.carried db.tables) ∨
      ∃ before ∈ db.tables.reviews, before.Turned c.now r := by
    intro r hr
    obtain ⟨d, hd, rfl⟩ := Tables.dossier?_of_mem hw' hr
    refine (hturns.renewed hd).imp_right ?_
    rintro ⟨before, hbefore, hturned⟩
    exact ⟨before.review, Tables.review_mem hbefore, hturned⟩
  constructor
  case incomplete =>
    intro r hr hactive
    obtain ⟨hnone, -⟩ | ⟨before, hbefore, hturned⟩ := hreviews r hr
    · exact hnone
    · exact hturned.incomplete (h.incomplete before hbefore) hactive
  case nodup_installations =>
    rw [hinstallations]
    exact StoreCall.nodup_owners h.nodup_installations
  case fits =>
    have hold : ∀ i ∈ db.tables.installationIds, fitsColumn i = true := h.fits
    simp only [Tables.installationIds, List.mem_append, or_imp, forall_and] at hold ⊢
    obtain ⟨⟨holdReviews, holdRepositories⟩, holdInstallations⟩ := hold
    refine ⟨⟨?_, ?_⟩, ?_⟩
    · intro i hi
      obtain ⟨r, hr, rfl⟩ := List.mem_map.1 hi
      obtain ⟨-, hcarried⟩ | ⟨before, hbefore, hturned⟩ := hreviews r hr
      · exact TimedCall.fits_of_carried hreply hcarried
      · exact hturned.installation_eq ▸ holdReviews _ (List.mem_map_of_mem hbefore)
    · intro i hi
      obtain ⟨row, hrow, rfl⟩ := List.mem_map.1 hi
      rw [hrepositories] at hrow
      exact (StoreCall.installation_rows hrow).elim (holdRepositories _)
        (TimedCall.fits_of_carried hreply)
    · intro i hi
      rw [hinstallations, StoreCall.mem_id_owners] at hi
      obtain hrecorded | ⟨hi, -⟩ := hi
      · exact TimedCall.fits_of_carried hreply (StoreCall.recorded?_mem_carried hrecorded)
      · exact holdInstallations i hi

/-- The run lemma: whatever calls are made, the rows stay like that. -/
theorem after_regular (calls : List TimedCall) : (after {} calls).tables.Regular := by
  induction calls using List.reverseRecOn with
  | nil => constructor <;> simp [after, Tables.installationIds]
  | append_singleton calls c ih =>
    rw [after_append]
    exact performed_regular (after_wellFormed Tables.wellFormed_empty calls) ih c

end Database

/-! ## Removing -/

theorem Review.uninstalled_moved {r : Review} (h : r.completedAt = none) (now : Moment) :
    r.Uninstalled now (Database.moved r now .cancelled (Progress.cancelled "installation_deleted").toMembers) := by
  have hgone : r.GoneTo now "cancelled" (.cancelled "installation_deleted")
      (Database.moved r now .cancelled (Progress.cancelled "installation_deleted").toMembers) :=
    r.goneTo_moved now .cancelled (.cancelled "installation_deleted")
  constructor
  case step => exact hgone.overwritten ("step", .str "cancelled") List.mem_cons_self nofun
  case reason =>
    exact hgone.overwritten ("reason", .str "installation_deleted") (List.mem_cons_of_mem _ List.mem_cons_self) nofun
  case others =>
    intro key hstep hreason
    refine hgone.others key fun e he hkey => ?_
    simp only [Progress.toMembers, Progress.toMembers.tag, List.mem_cons, List.not_mem_nil, or_false] at he
    rcases he with rfl | rfl
    · exact absurd hkey.symm hstep
    · exact absurd hkey.symm hreason
  case incomplete => exact h
  case rest => rfl

/-- Active reviews of an installation are the ones that are hit. -/
theorem Review.hit_iff {r : Review} {installation : Int} :
    (r.installation == installation &&
      (ReviewStatus.sources (Named.name ReviewStatus.cancelled)).contains r.status) = true ↔
    r.installation = installation ∧ r.status.isActive = true := by
  rw [Bool.and_eq_true, beq_iff_eq, ReviewStatus.contains_sources, ReviewStatus.isActive_iff]

theorem Database.dropInstallation_exact {db : Database} {now : Moment} {installation : Int} {removal : Removal}
    {t : Tables} (hw : db.tables.WellFormed) (hregular : db.tables.Regular)
    (h : db.dropInstallation now installation = .ok (removal, t)) : db.tables.Removes now installation removal t := by
  obtain ⟨rfl, rfl⟩ := Prod.mk.inj (Except.ok.inj (statement_bind_eq_ok h))
  constructor
  case reviews =>
    simp only [List.forall₂_map_right_iff, List.forall₂_same, Review.hit_iff]
    intro r hr
    split
    · rename_i hof
      exact Review.uninstalled_moved (hregular.incomplete r hr hof.2) now
    · rfl
  case fileChanges => rfl
  case comments => rfl
  case repositories => rfl
  case installations => rfl
  case mem_reviews =>
    intro v
    simp only [List.mem_map, List.mem_filter, Review.hit_iff]
    constructor
    · rintro ⟨r, ⟨hr, hof⟩, rfl⟩
      exact ⟨r, hr, rfl, hof⟩
    · rintro ⟨r, hr, rfl, hof⟩
      exact ⟨r, ⟨hr, hof⟩, rfl⟩
  case nodup_reviews => exact hw.nodup_reviewIds.sublist (List.filter_sublist.map _)
  case repositoriesTold => exact List.countP_eq_length_filter
  case installationsTold =>
    rw [← hregular.nodup_installations.count, List.count_eq_countP, List.countP_map]
    rfl

namespace Tables.Removes

variable {t t₁ t₂ : Tables} {now later : Moment} {installation : Int} {removal removal' : Removal}

/-- No review of the installation is active any more. -/
theorem closed (h : t.Removes now installation removal t₁) :
    ∀ r ∈ t₁.reviews, ¬ (r.installation = installation ∧ r.status.isActive = true) := by
  have hclosed : List.Forall₂ (fun r' r : Review =>
      (¬ (r'.installation = installation ∧ r'.status.isActive = true)) ∧ True) t₁.reviews t.reviews := by
    refine List.Forall₂.flip (h.reviews.imp fun r r' hr => ⟨fun hof => ?_, trivial⟩)
    split at hr
    · rw [hr.rest] at hof
      cases hof.2
    · rename_i hno
      exact hno (hr ▸ hof)
  exact ((List.forall₂_and_left _ _).1 hclosed).1

/-- Removing again removes nothing. -/
theorem again (h : t.Removes now installation removal t₁) (h' : t₁.Removes later installation removal' t₂) :
    removal' = ⟨[], 0, 0⟩ ∧ t₂ = t₁ := by
  have hreviews : t₂.reviews = t₁.reviews := by
    have hkept : List.Forall₂ (fun r r' => r = r') t₁.reviews t₂.reviews := by
      refine ((List.forall₂_and_left _ _).2 ⟨h.closed, h'.reviews⟩).imp fun r r' hr => ?_
      obtain ⟨hno, hr⟩ := hr
      rw [if_neg hno] at hr
      exact hr.symm
    rw [List.forall₂_eq_eq_eq] at hkept
    exact hkept.symm
  have hrepositories : t₂.repositories = t₁.repositories := by
    rw [h'.repositories, h.repositories, List.filter_filter]
    simp
  have hinstallations : t₂.installations = t₁.installations := by
    rw [h'.installations, h.installations, List.filter_filter]
    simp
  constructor
  case left =>
    have hnone : removal'.reviews = [] := by
      refine List.eq_nil_iff_forall_not_mem.2 fun v hv => ?_
      obtain ⟨r, hr, -, hof⟩ := (h'.mem_reviews v).1 hv
      exact h.closed r hr hof
    have hno : removal'.repositories = 0 := by
      rw [h'.repositoriesTold, h.repositories, List.filter_filter]
      simp
    have hgone : removal'.installations = 0 := by
      rw [h'.installationsTold, h.installations, if_neg]
      simp
    obtain ⟨reviews, repositories, installations⟩ := removal'
    simp_all
  case right =>
    cases t₁
    cases t₂
    rw [Tables.mk.injEq]
    exact ⟨hreviews, h'.fileChanges, h'.comments, hinstallations, hrepositories⟩

end Tables.Removes

theorem Database.after_removes (calls : List TimedCall) {now : Moment} {isUp : Bool} {installation : Int}
    {removal : Removal}
    (h : (TimedCall.perform ⟨now, isUp, .dropInstallation installation⟩ (after {} calls)).1 = .ok removal) :
    (after {} calls).tables.Removes now installation removal
      ((after {} calls).performed ⟨now, isUp, .dropInstallation installation⟩).tables := by
  let c : TimedCall := ⟨now, isUp, .dropInstallation installation⟩
  have hw : (c.finds (after {} calls)).tables.WellFormed := after_wellFormed Tables.wellFormed_empty calls
  have hregular : (c.finds (after {} calls)).tables.Regular := after_regular calls
  obtain ⟨e, hfails, -⟩ | ⟨reply, hreply, hok⟩ := performed_cases (after {} calls) c
  · cases h.symm.trans hfails
  · cases h.symm.trans hreply
    have hremoves := dropInstallation_exact hw hregular hok
    exact hremoves

/-- **Removing an installation removes exactly what is its own.** In whatever state calls have left the database:
a removal that succeeds cancels the active reviews of the installation and takes away its repositories and its
row, tells their ids and how many they were, and leaves everything else; made again it tells nothing and changes
nothing. It succeeds exactly if the database is up and the id fits a column, and otherwise leaves all tables as
they are. Under an id that does not fit there is nothing to remove. -/
theorem removal_exact (calls : List TimedCall) (now : Moment) (isUp : Bool) (installation : Int) :
    let db := Database.after {} calls
    let removes now isUp : TimedCall := ⟨now, isUp, .dropInstallation installation⟩
    (∀ removal : Removal, ((removes now isUp).perform db).1 = .ok removal →
      db.tables.Removes now installation removal (db.performed (removes now isUp)).tables ∧
      ∀ later, ((removes later true).perform (db.performed (removes now isUp))).1 = .ok (⟨[], 0, 0⟩ : Removal) ∧
        ((db.performed (removes now isUp)).performed (removes later true)).tables =
          (db.performed (removes now isUp)).tables) ∧
    ((∃ removal : Removal, ((removes now isUp).perform db).1 = .ok removal) ↔
      isUp = true ∧ fitsColumn installation = true) ∧
    ((∃ e, ((removes now isUp).perform db).1 = .error e) →
      (db.performed (removes now isUp)).tables = db.tables) ∧
    (fitsColumn installation = false → installation ∉ db.tables.installationIds) := by
  intro db removes
  have hanswers : ∀ calls now, fitsColumn installation = true →
      ∃ removal : Removal, ((removes now true).perform (Database.after {} calls)).1 = .ok removal := by
    intro calls now hfits
    obtain ⟨removal, hreply, -⟩ :=
      Database.after_answers calls (c := removes now true) rfl fun p hp => by rwa [List.mem_singleton.1 hp]
    exact ⟨removal, hreply⟩
  have hsucceeds : (∃ removal : Removal, ((removes now isUp).perform db).1 = .ok removal) ↔
      isUp = true ∧ fitsColumn installation = true := by
    constructor
    · rintro ⟨removal, h⟩
      refine ⟨?_, TimedCall.fits_of_carried h List.mem_cons_self⟩
      cases isUp with
      | true => rfl
      | false => cases h
    · rintro ⟨rfl, hfits⟩
      exact hanswers calls now hfits
  refine ⟨fun removal h => ?_, hsucceeds, ?_, fun hunfit hmem => ?_⟩
  case refine_1 =>
    have hremoves : db.tables.Removes now installation removal (db.performed (removes now isUp)).tables :=
      Database.after_removes calls h
    refine ⟨hremoves, fun later => ?_⟩
    have hafter : Database.after {} (calls ++ [removes now isUp]) = db.performed (removes now isUp) :=
      Database.after_append _ _ _
    obtain ⟨removal', hagain⟩ := hanswers (calls ++ [removes now isUp]) later (hsucceeds.1 ⟨removal, h⟩).2
    have hremoves' := Database.after_removes (calls ++ [removes now isUp]) hagain
    rw [hafter] at hagain hremoves'
    obtain ⟨rfl, htables⟩ := hremoves.again hremoves'
    exact ⟨hagain, htables⟩
  case refine_2 =>
    rintro ⟨e, he⟩
    obtain ⟨-, -, htables⟩ | ⟨reply, hreply, -⟩ := db.performed_cases (removes now isUp)
    · exact htables
    · cases he.symm.trans hreply
  case refine_3 =>
    rw [(Database.after_regular calls).fits installation hmem] at hunfit
    cases hunfit

/-- Two reviews of installation 7, one of them completed, and one of installation 8 in the same repository. -/
def twoInstallations : List TimedCall :=
  [{ now := 5, call := .saveInstallation 7 "acme" "Organization" [{ id := 1, fullName := "acme/widgets" }] },
    { now := 6, call := .saveInstallation 8 "acme-labs" "Organization" [{ id := 1, fullName := "acme/widgets" }] },
    { now := 10, call := .queue 12 "acme/widgets" 7 {} },
    { now := 11, call := .queue 13 "acme/widgets" 7 {} },
    { now := 12, call := .queue 14 "acme/widgets" 8 {} },
    { now := 13, call := .move 1 "in_progress" (.fetching 10) none },
    { now := 14, call := .move 1 "completed" (.completed 100 0 0) none }]

theorem removal_exact_twoInstallations :
    let db := Database.after {} twoInstallations
    let removes now : TimedCall := ⟨now, true, .dropInstallation 7⟩
    ((removes 20).perform db).1 = .ok (⟨[2], 1, 1⟩ : Removal) ∧
    db.tables.Removes 20 7 ⟨[2], 1, 1⟩ (db.performed (removes 20)).tables ∧
    ((db.performed (removes 20)).performed (removes 21)).tables = (db.performed (removes 20)).tables ∧
    fitsColumn 9223372036854775808 = false ∧ 9223372036854775808 ∉ db.tables.installationIds := by
  intro db removes
  have hok : ((removes 20).perform db).1 = .ok (⟨[2], 1, 1⟩ : Removal) := rfl
  have hunfit : fitsColumn 9223372036854775808 = false := by decide
  obtain ⟨hremoves, -, -, -⟩ := removal_exact twoInstallations 20 true 7
  obtain ⟨-, -, -, hnothing⟩ := removal_exact twoInstallations 20 true 9223372036854775808
  obtain ⟨hexact, hagain⟩ := hremoves ⟨[2], 1, 1⟩ hok
  exact ⟨hok, hexact, (hagain 21).2, hunfit, hnothing hunfit⟩

/-- Where the id fits no column, the call does not succeed, although there is nothing to remove. -/
theorem removal_unfit :
    ¬ ∃ removal : Removal,
      (TimedCall.perform ⟨5, true, .dropInstallation 9223372036854775808⟩ (Database.after {} [])).1 = .ok removal := by
  rintro ⟨removal, h⟩
  cases h

end PullReview
