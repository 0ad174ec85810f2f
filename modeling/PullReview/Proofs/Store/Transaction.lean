import PullReview.Proofs.Store.Repetition

/-!
# Transactions statement by statement

Each store call as the statements that it executes (`StoreCall.script`): every statement works on the
tables as the ones before have left them, and what they have all done is stored at the end. A statement
fails when the database does not answer it, which may happen at any of them, or when it carries a value
that cannot be bound. Then the call fails and nothing of what the statements before it did is stored
(`failed_call_undone`). Where the database answers all along or not at all, this is what
`StoreCall.perform` does (`StoreCall.attempt_eq_perform`).
-/

namespace PullReview

/-- What a transaction executes: statements, and then a reply. A statement carries values and changes
the tables; what comes next may depend on the tables as it has found them. -/
inductive Script (α : Type) : Type where
  | reply (a : α)
  | statement (params : List Param) (effect : Tables → Tables) (next : Tables → Script α)

/-- The tables of a transaction under way, as they are stored and as its statements have left them. -/
structure Transaction where
  stored : Tables
  working : Tables

namespace Transaction

def opened (t : Tables) : Transaction := ⟨t, t⟩

def commit (x : Transaction) : Transaction := { x with stored := x.working }

def rollback (x : Transaction) : Transaction := { x with working := x.stored }

end Transaction

/-- The database, answering or not. -/
def Database.answering (db : Database) (isUp : Bool) : Database := { db with isUp }

/-- Checks statements in order, up to the first that fails. The `n`th is answered if `answers n`. -/
def Database.check (db : Database) : (answers : Nat → Bool) → List (List Param) → Except Failure Unit
  | _, [] => .ok ()
  | answers, params :: rest => do
    (db.answering (answers 0)).statement params
    db.check (fun n => answers (n + 1)) rest

namespace Script

variable {α β : Type}

/-- One statement for each of some items, and what comes after them. -/
def forEach (params : β → List Param) (effect : β → Tables → Tables) (next : Script α) : List β → Script α
  | [] => next
  | b :: bs => .statement (params b) (effect b) fun _ => forEach params effect next bs

/-- Executes the statements of a script, up to the first that fails. The `n`th is answered if
`answers n`. -/
def execute (db : Database) : (answers : Nat → Bool) → Script α → Transaction → Except Failure α × Transaction
  | _, reply a, x => (.ok a, x)
  | answers, statement params effect next, x =>
    match (db.answering (answers 0)).statement params with
    | .ok () =>
      (next x.working).execute db (fun n => answers (n + 1)) { x with working := effect x.working }
    | .error failure => (.error failure, x)

/-- A whole transaction: the end of its script stores what has been done, a failure undoes it. -/
def run (db : Database) (answers : Nat → Bool) (p : Script α) : Except Failure α × Transaction :=
  match p.execute db answers (.opened db.tables) with
  | (.ok a, x) => (.ok a, x.commit)
  | (.error failure, x) => (.error failure, x.rollback)

/-- The values of the statements that are executed when none of them fails. -/
def statements : Script α → Tables → List (List Param)
  | reply _, _ => []
  | statement params effect next, t => params :: (next t).statements (effect t)

/-- The reply and the tables when no statement fails. -/
def result : Script α → Tables → α × Tables
  | reply a, t => (a, t)
  | statement _ effect next, t => (next t).result (effect t)

end Script

/-! ## The scripts of the calls -/

namespace StoreCall

open Database

/-- The reviews found active are cancelled one by one. Their ids come from the tables. -/
def cancelEach {α : Type} (now : Moment) (reason : Text) (next : Script α) (ids : List Int) : Script α :=
  Script.forEach (fun _ => [])
    (fun id t => t.updateReview id fun r =>
      if r.status.isActive then moved r now .cancelled (Progress.cancelled reason).toMembers else r)
    next ids

/-- Repositories are recorded one by one, and then they are counted. -/
def putEach (installation : Int) (repositories : List Event.Repository) : Script Nat :=
  Script.forEach (paramsOfRepository installation) (fun r t => putRepository t installation r)
    (.reply repositories.length) repositories

/-- The statements of a call, for a run that has been drawn for it. -/
def script (now : Moment) (run : String) : (call : StoreCall) → Script call.Reply
  | queue number repository installation summary =>
    .statement [number, repository, installation] (putReview · now run number repository installation summary) fun _ =>
    .statement [number, repository] id fun t =>
      let id := ((t.reviewOf? number repository).map (·.id)).getD 0
      .statement [] (fun t => { t with comments := t.comments.filter (·.review != id) }) fun _ =>
      .statement [] (fun t => { t with fileChanges := t.fileChanges.filter (·.review != id) }) fun _ =>
      .reply ⟨id, run⟩
  | move review target progress run =>
    .statement [review] id fun t =>
      match t.review? review with
      | none => .reply false
      | some r =>
        .statement (.text target :: .int review :: run.toList.map .text) (fun t =>
          match (Named.ofName? target : Option ReviewStatus) with
          | some status =>
            if mayMove r target run then t.updateReview r.id fun r => moved r now status progress.written else t
          | none => t) fun _ =>
        .reply (mayMove r target run)
  | addAnalysis review run status analysis complexity =>
    .statement [review] id fun t =>
      if (t.review? review).any (mayRecord · run) then
        .statement (paramsOfAnalysis review status analysis complexity)
          (fun t => { t with
            fileChanges :=
              t.fileChanges ++ [rowOfAnalysis t.nextFileChangeId review status analysis complexity] }) fun _ =>
        Script.forEach (paramsOfIssue review analysis.filename)
          (fun i t => { t with
            comments := t.comments ++ rowsOfIssues t.nextCommentId review analysis.filename [i] })
          (.reply true) analysis.issues
      else .reply false
  | cancel number repository reason =>
    .statement [number, repository] id fun t =>
      let found := (cancelAll t now reason fun r => r.number == number && r.repository == repository).1
      cancelEach now reason (.reply found) found
  | saveInstallation installation login kind repositories =>
    .statement [installation, login, kind] (putInstallation · now installation login kind) fun _ =>
      putEach installation repositories
  | saveRepositories installation repositories login kind =>
    match login.filter fun name : Text => name ≠ "" with
    | some login =>
      .statement [installation, login, kind] (putInstallation · now installation login kind) fun _ =>
        putEach installation repositories
    | none => putEach installation repositories
  | dropRepositories installation ids =>
    if ids.isEmpty then .reply 0
    else
      let hit (row : Repository) := row.installation == installation && ids.contains row.repo
      .statement ((installation :: ids).map .int)
        (fun t => { t with repositories := t.repositories.filter fun row => !hit row }) fun t =>
      .reply (t.repositories.countP hit)
  | dropInstallation installation =>
    .statement [installation] id fun t =>
      let found := (cancelAll t now "installation_deleted" (·.installation == installation)).1
      cancelEach now "installation_deleted"
        (.statement [installation]
          (fun t => { t with repositories := t.repositories.filter (·.installation != installation) }) fun t =>
        .statement [installation]
          (fun t => { t with installations := t.installations.filter (·.id != installation) }) fun t' =>
        .reply ⟨found, t.repositories.countP (·.installation == installation),
          t'.installations.countP (·.id == installation)⟩)
        found

/-- A call statement by statement, and the database after it. -/
def attempt (now : Moment) (answers : Nat → Bool) (db : Database) (call : StoreCall) :
    Except Failure call.Reply × Database :=
  let (reply, x) := (call.script now db.nextRun).run db answers
  (reply, { db with tables := x.stored, runs := db.runs.draw call.runsDrawn })

end StoreCall

/-! ## Checking statements -/

namespace Database

variable {db : Database} {answers : Nat → Bool} {statements : List (List Param)}

theorem check_eq_ok_iff :
    db.check answers statements = .ok () ↔
      ∀ n params, statements[n]? = some params → (db.answering (answers n)).statement params = .ok () := by
  induction statements generalizing answers with
  | nil => simp [check]
  | cons params rest ih =>
    constructor
    · intro h n found hn
      have hhead : (db.answering (answers 0)).statement params = .ok () := by
        rw [check] at h
        cases hs : (db.answering (answers 0)).statement params with
        | ok u => rfl
        | error e => simp [hs, bind, Except.bind] at h
      have hrest : db.check (fun n => answers (n + 1)) rest = .ok () := statement_bind_eq_ok h
      cases n with
      | zero =>
        have hfound : params = found := by simpa using hn
        rw [← hfound, hhead]
      | succ n =>
        have hfound : rest[n]? = some found := by simpa using hn
        exact ih.1 hrest n found hfound
    · intro h
      have hhead : (db.answering (answers 0)).statement params = .ok () := h 0 params rfl
      have hrest : db.check (fun n => answers (n + 1)) rest = .ok () := by
        apply ih.2
        intro n found hn
        exact h (n + 1) found (by simpa using hn)
      rw [check, hhead]
      exact hrest

/-- A check fails when one of the statements fails, wherever it stands. -/
theorem check_fails_iff :
    (∃ e, db.check answers statements = .error e) ↔
      ∃ n params e, statements[n]? = some params ∧ (db.answering (answers n)).statement params = .error e := by
  constructor
  · rintro ⟨e, he⟩
    by_contra hnone
    have hok : db.check answers statements = .ok () := by
      apply check_eq_ok_iff.2
      intro n params hn
      cases hs : (db.answering (answers n)).statement params with
      | ok u => rfl
      | error e => exact absurd ⟨n, params, e, hn, hs⟩ hnone
    rw [he] at hok
    cases hok
  · rintro ⟨n, params, e, hn, hs⟩
    cases hc : db.check answers statements with
    | error e => exact ⟨e, rfl⟩
    | ok u =>
      have hok := check_eq_ok_iff.1 hc n params hn
      rw [hs] at hok
      cases hok

end Database

/-! ## Running scripts -/

namespace Script

variable {α β : Type}

/-- Nothing is stored while a script is executed. -/
theorem execute_cases (p : Script α) (db : Database) (answers : Nat → Bool) (x : Transaction) :
    (db.check answers (p.statements x.working) = .ok () ∧
      p.execute db answers x = (.ok (p.result x.working).1, ⟨x.stored, (p.result x.working).2⟩)) ∨
    ∃ e t, db.check answers (p.statements x.working) = .error e ∧
      p.execute db answers x = (.error e, ⟨x.stored, t⟩) := by
  induction p generalizing answers x with
  | reply a => exact .inl ⟨rfl, rfl⟩
  | statement params effect next ih =>
    simp only [statements, Database.check, execute, result]
    cases hs : (db.answering (answers 0)).statement params with
    | error e => exact .inr ⟨e, x.working, rfl, rfl⟩
    | ok u => exact ih x.working (fun n => answers (n + 1)) { x with working := effect x.working }

/-- A transaction stores what its statements have done, or leaves the tables when one of them fails. -/
theorem run_eq (p : Script α) (db : Database) (answers : Nat → Bool) :
    p.run db answers =
      match db.check answers (p.statements db.tables) with
      | .ok () => (.ok (p.result db.tables).1, .opened (p.result db.tables).2)
      | .error e => (.error e, .opened db.tables) := by
  unfold run
  rcases p.execute_cases db answers (.opened db.tables) with ⟨hcheck, hexecute⟩ | ⟨e, t, hcheck, hexecute⟩
  · have hcheck : db.check answers (p.statements db.tables) = .ok () := hcheck
    rw [hexecute, hcheck]
    rfl
  · have hcheck : db.check answers (p.statements db.tables) = .error e := hcheck
    rw [hexecute, hcheck]
    rfl

theorem statements_forEach (params : β → List Param) (effect : β → Tables → Tables) (next : Script α) (bs : List β)
    (t : Tables) :
    (forEach params effect next bs).statements t =
      bs.map params ++ next.statements (bs.foldl (fun t b => effect b t) t) := by
  induction bs generalizing t with
  | nil => rfl
  | cons b bs ih => simp [forEach, statements, ih]

theorem result_forEach (params : β → List Param) (effect : β → Tables → Tables) (next : Script α) (bs : List β)
    (t : Tables) :
    (forEach params effect next bs).result t = next.result (bs.foldl (fun t b => effect b t) t) := by
  induction bs generalizing t with
  | nil => rfl
  | cons b bs ih => simp [forEach, result, ih]

end Script

/-! ## Calls and their scripts -/

namespace Database

theorem statement_append (db : Database) (a b : List Param) :
    db.statement (a ++ b) = db.statement a >>= fun _ => db.statement b := by
  unfold statement Param.fault?
  rw [List.findSome?_append]
  cases db.isUp <;> cases db.hasTables <;> cases a.findSome? Param.failure? <;> rfl

theorem statement_congr (db : Database) {a b : List Param} (h : Param.fault? a = Param.fault? b) :
    db.statement a = db.statement b := by
  unfold statement
  rw [h]

/-- Values that have been bound before do not fail a statement. -/
theorem fault?_append_of_subset {a b : List Param} (h : b ⊆ a) : Param.fault? (a ++ b) = Param.fault? a := by
  cases ha : Param.fault? a with
  | none =>
    have hb : Param.fault? b = none :=
      Param.fault?_eq_none_iff.2 fun p hp => Param.fault?_eq_none_iff.1 ha p (h hp)
    simp only [Param.fault?] at ha hb ⊢
    rw [List.findSome?_append, ha, hb]
    rfl
  | some e =>
    simp only [Param.fault?] at ha ⊢
    rw [List.findSome?_append, ha]
    rfl

/-- Whether the database answers does not change while statements are checked. -/
def checkSteadily (db : Database) (statements : List (List Param)) : Except Failure Unit :=
  db.check (fun _ => db.isUp) statements

theorem checkSteadily_cons (db : Database) (params : List Param) (rest : List (List Param)) :
    db.checkSteadily (params :: rest) = db.statement params >>= fun _ => db.checkSteadily rest := rfl

/-- Then they are as good as one statement with all their values. -/
theorem checkSteadily_eq (db : Database) {statements : List (List Param)} (h : statements ≠ []) :
    db.checkSteadily statements = db.statement statements.flatten := by
  induction statements with
  | nil => exact absurd rfl h
  | cons params rest ih =>
    rw [checkSteadily_cons, List.flatten_cons, statement_append]
    cases rest with
    | nil =>
      have hempty : (do db.statement params; db.statement []) = db.statement params := by
        rw [← statement_append, List.append_nil]
      rw [List.flatten_nil, hempty]
      cases db.statement params <;> rfl
    | cons next rest => rw [ih (List.cons_ne_nil _ _)]

theorem nextId_concat (ids : List Int) : nextId (ids ++ [nextId ids]) = nextId ids + 1 := by
  have hle : ids.foldl max 0 ≤ nextId ids := by unfold nextId; omega
  show (ids ++ [nextId ids]).foldl max 0 + 1 = nextId ids + 1
  rw [List.foldl_append, List.foldl_cons, List.foldl_nil, Int.max_eq_right hle]

/-- Issues recorded one by one take the ids that they take together. -/
theorem foldl_rowsOfIssues (t : Tables) (review : Int) (filename : Text) (issues : List Issue) :
    issues.foldl (fun t i => { t with
        comments := t.comments ++ rowsOfIssues t.nextCommentId review filename [i] }) t =
      { t with comments := t.comments ++ rowsOfIssues t.nextCommentId review filename issues } := by
  induction issues generalizing t with
  | nil => simp [rowsOfIssues]
  | cons i is ih =>
    rw [List.foldl_cons, ih]
    simp [rowsOfIssues, Tables.nextCommentId, nextId_concat]

/-- Reviews changed one by one, where a second change of the same review comes to nothing. -/
theorem foldl_updateReview (ids : List Int) (t : Tables) {change : Review → Review}
    (hid : ∀ r, (change r).id = r.id) (hagain : ∀ r, change (change r) = change r) :
    ids.foldl (fun t id => t.updateReview id change) t =
      t.mapReviews fun r => if r.id ∈ ids then change r else r := by
  induction ids generalizing t with
  | nil => simp [Tables.mapReviews]
  | cons id ids ih =>
    rw [List.foldl_cons, ih, Tables.updateReview_eq_mapReviews]
    simp only [Tables.mapReviews, List.map_map]
    congr 1
    apply List.map_congr_left
    intro r _
    by_cases h : r.id = id <;> by_cases hmem : r.id ∈ ids <;> simp [h, hmem, hid, hagain]

/-- Cancelling the reviews that were found one by one. -/
theorem foldl_cancelEach {t : Tables} (h : (t.reviews.map (·.id)).Nodup) (now : Moment) (reason : Text)
    (fits : Review → Bool) :
    (cancelAll t now reason fits).1.foldl (fun t id => t.updateReview id fun r =>
        if r.status.isActive then moved r now .cancelled (Progress.cancelled reason).toMembers else r) t =
      (cancelAll t now reason fits).2 := by
  have hactive : ∀ s : ReviewStatus,
      (ReviewStatus.sources (Named.name ReviewStatus.cancelled)).contains s = s.isActive := by
    intro s
    cases s <;> decide
  rw [foldl_updateReview]
  · simp only [Tables.mapReviews, cancelAll, hactive]
    congr 1
    apply List.map_congr_left
    intro r hr
    by_cases hhit : (fits r && r.status.isActive) = true
    · have hmem : r.id ∈ (t.reviews.filter fun r => fits r && r.status.isActive).map (·.id) :=
        List.mem_map_of_mem (List.mem_filter.2 ⟨hr, hhit⟩)
      rw [Bool.and_eq_true] at hhit
      simp [hmem, hhit]
    · have hmem : r.id ∉ (t.reviews.filter fun r => fits r && r.status.isActive).map (·.id) := by
        intro hmem
        obtain ⟨q, hq, hid⟩ := List.mem_map.1 hmem
        obtain ⟨hq, hfits⟩ := List.mem_filter.1 hq
        rw [List.inj_on_of_nodup_map h hq hr hid] at hfits
        exact hhit hfits
      simp [hmem, hhit]
  · intro r
    split <;> rfl
  · intro r
    by_cases ha : r.status.isActive = true
    · have hclosed : (moved r now .cancelled (Progress.cancelled reason).toMembers).status.isActive = false := rfl
      simp [ha, hclosed]
    · simp [ha]

end Database

namespace StoreCall

open Database

/-- The transaction of a call checks the statements of its script, and then comes to what the script comes
to, provided that ids tell reviews apart. -/
def Executes (call : StoreCall) (now : Moment) (db : Database) : Prop :=
  ∃ outcome,
    call.transaction db now =
      (db.checkSteadily ((call.script now db.nextRun).statements db.tables)).map (fun _ => outcome) ∧
    ((db.tables.reviews.map (·.id)).Nodup → (call.script now db.nextRun).result db.tables = outcome)

/-- A call that has one statement for all values of its script. -/
theorem Executes.of_statement {call : StoreCall} {now : Moment} {db : Database} (params : List Param)
    (outcome : call.Reply × Tables) (h : call.transaction db now = do db.statement params; .ok outcome)
    (hne : (call.script now db.nextRun).statements db.tables ≠ [])
    (hparams : Param.fault? ((call.script now db.nextRun).statements db.tables).flatten = Param.fault? params)
    (hresult : (db.tables.reviews.map (·.id)).Nodup → (call.script now db.nextRun).result db.tables = outcome) :
    call.Executes now db := by
  refine ⟨outcome, ?_, hresult⟩
  rw [h, db.checkSteadily_eq hne, db.statement_congr hparams]
  cases db.statement params <;> rfl

variable (now : Moment) (db : Database)

theorem queue_executes (number : Int) (repository : Text) (installation : Int) (summary : PullRequestSummary) :
    (queue number repository installation summary).Executes now db := by
  apply Executes.of_statement [number, repository, installation] _ rfl
  case hne => exact List.cons_ne_nil _ _
  case hparams =>
    -- the review is looked up by values that are bound by then
    exact @fault?_append_of_subset [number, repository, installation] [number, repository] (by simp)
  case hresult => exact fun _ => rfl

/-- A target that is no status is never allowed. -/
theorem mayMove_of_not_status {r : Review} {target : Text} {run : Option Text}
    (h : (Named.ofName? target : Option ReviewStatus) = none) : mayMove r target run = false := by
  have hsources : ReviewStatus.sources target = [] := by
    apply List.filter_eq_nil_iff.2
    intro s _ hs
    obtain ⟨next, -, hname⟩ := List.any_eq_true.1 hs
    have hnamed := ReviewStatus.ofName?_eq_some_iff.2 (by simpa using hname : Named.name next = target)
    rw [h] at hnamed
    cases hnamed
  simp [mayMove, hsources]

theorem move_executes (review : Int) (target : Text) (progress : Progress) (run : Option Text) :
    (move review target progress run).Executes now db := by
  cases hr : db.tables.review? review with
  | none =>
    apply Executes.of_statement [review] (false, db.tables)
    case h =>
      simp only [transaction, Database.move, hr]
      rfl
    case hne => simp [script, Script.statements]
    case hparams => simp [script, Script.statements, hr]
    case hresult => simp [script, Script.result, hr]
  | some r =>
    apply Executes.of_statement ([.int review] ++ .text target :: .int review :: run.toList.map .text)
      (mayMove r target run,
        if mayMove r target run then
          db.tables.updateReview r.id fun r => moved r now ((Named.ofName? target).getD .pending) progress.written
        else db.tables)
    case h =>
      rw [statement_append]
      cases hs : (Named.ofName? target : Option ReviewStatus) with
      | none =>
        simp only [transaction, Database.move, hr, hs, mayMove_of_not_status hs, bind_assoc]
        rfl
      | some status =>
        by_cases hmay : mayMove r target run = true
        · simp only [transaction, Database.move, hr, hs, hmay, bind_assoc]
          rfl
        · simp only [transaction, Database.move, hr, hs, hmay, bind_assoc]
          rfl
    case hne => simp [script, Script.statements]
    case hparams => simp [script, Script.statements, hr]
    case hresult =>
      intro _
      cases hs : (Named.ofName? target : Option ReviewStatus) with
      | none => simp [script, Script.result, hr, hs, mayMove_of_not_status hs]
      | some status => simp [script, Script.result, hr, hs]

theorem addAnalysis_executes (review : Int) (run status : Text) (analysis : Analysis) (complexity : Int) :
    (addAnalysis review run status analysis complexity).Executes now db := by
  cases hr : (db.tables.review? review).any (mayRecord · run) with
  | false =>
    apply Executes.of_statement [review] (false, db.tables)
    case h =>
      simp only [transaction, Database.addAnalysis, hr]
      rfl
    case hne => simp [script, Script.statements]
    case hparams => simp [script, Script.statements, hr]
    case hresult => simp [script, Script.result, hr]
  | true =>
    apply Executes.of_statement ([.int review] ++ paramsOfRows review status analysis complexity)
      (true, { db.tables with
        fileChanges := db.tables.fileChanges ++
          [rowOfAnalysis db.tables.nextFileChangeId review status analysis complexity]
        comments := db.tables.comments ++
          rowsOfIssues db.tables.nextCommentId review analysis.filename analysis.issues })
    case h =>
      rw [statement_append]
      simp only [transaction, Database.addAnalysis, hr, bind_assoc]
      rfl
    case hne => simp [script, Script.statements]
    case hparams =>
      simp only [script, Script.statements, hr, if_true, id_eq, Script.statements_forEach, List.flatten_cons,
        List.append_nil, paramsOfRows, List.flatMap_def]
    case hresult =>
      intro _
      simp only [script, Script.result, id, hr, if_true, Script.result_forEach, foldl_rowsOfIssues]
      rfl

theorem cancel_executes (number : Int) (repository reason : Text) :
    (cancel number repository reason).Executes now db := by
  apply Executes.of_statement [number, repository] _ rfl
  case hne => simp [script, Script.statements]
  case hparams => simp [script, Script.statements, cancelEach, Script.statements_forEach]
  case hresult =>
    intro h
    simp only [script, Script.result, cancelEach, Script.result_forEach, id, foldl_cancelEach h]

theorem checkRepositories_eq (installation : Int) (rs : List Event.Repository) :
    db.checkRepositories installation rs = db.checkSteadily (rs.map (paramsOfRepository installation)) := by
  induction rs with
  | nil => rfl
  | cons r rs ih =>
    rw [List.map_cons, checkSteadily_cons, ← ih]
    rfl

theorem statements_putEach (installation : Int) (rs : List Event.Repository) (t : Tables) :
    (putEach installation rs).statements t = rs.map (paramsOfRepository installation) := by
  rw [putEach, Script.statements_forEach]
  simp [Script.statements]

theorem result_putEach (installation : Int) (rs : List Event.Repository) (t : Tables) :
    (putEach installation rs).result t =
      (rs.length, { t with repositories := rs.foldl (Repository.put installation) t.repositories }) := by
  rw [putEach, Script.result_forEach, Script.result]
  congr 1
  induction rs generalizing t with
  | nil => rfl
  | cons r rs ih => rw [List.foldl_cons, ih, putRepository_eq, List.foldl_cons]

theorem saveInstallation_executes (installation : Int) (login kind : Text) (rs : List Event.Repository) :
    (saveInstallation installation login kind rs).Executes now db := by
  refine ⟨(rs.length, recorded installation (some login) kind rs now db.tables), ?_, ?_⟩
  · simp only [script, Script.statements, statements_putEach, checkSteadily_cons, ← checkRepositories_eq, transaction,
      Database.saveInstallation, putRepositories_eq, putInstallation_eq]
    cases db.statement [installation, login, kind] with
    | error e => rfl
    | ok u => cases db.checkRepositories installation rs <;> rfl
  · intro _
    simp only [script, Script.result, result_putEach, putInstallation_eq]
    rfl

theorem saveRepositories_executes (installation : Int) (rs : List Event.Repository) (login : Option Text)
    (kind : Text) : (saveRepositories installation rs login kind).Executes now db := by
  cases hlogin : login.filter fun name : Text => name ≠ "" with
  | none =>
    have hunnamed : (saveRepositories installation rs login kind).transaction db now =
        (saveRepositories installation rs none kind).transaction db now := by
      cases login with
      | none => rfl
      | some name =>
        have hname : name = "" := by simpa using hlogin
        subst hname
        rfl
    refine ⟨(rs.length, { db.tables with
      repositories := rs.foldl (Repository.put installation) db.tables.repositories }), ?_, ?_⟩
    · rw [hunnamed]
      simp only [script, hlogin, statements_putEach, ← checkRepositories_eq, transaction, Database.saveRepositories,
        putRepositories_eq, pure_bind]
      cases db.checkRepositories installation rs <;> rfl
    · intro _
      simp only [script, hlogin, result_putEach]
  | some name =>
    obtain ⟨rfl, hname⟩ := Option.filter_eq_some_iff.1 hlogin
    obtain ⟨outcome, htransaction, hresult⟩ := saveInstallation_executes now db installation name kind rs
    refine ⟨outcome, ?_, ?_⟩
    · simp only [script, hlogin]
      rw [script] at htransaction
      rw [← htransaction]
      have hname : name ≠ "" := by simpa using hname
      simp only [transaction, Database.saveRepositories, Database.saveInstallation, hname, if_false]
      cases db.statement [installation, name, kind] <;> rfl
    · intro h
      simp only [script, hlogin]
      exact hresult h

theorem dropRepositories_executes (installation : Int) (ids : List Int) :
    (dropRepositories installation ids).Executes now db := by
  by_cases hids : ids.isEmpty = true
  · refine ⟨(0, db.tables), ?_, ?_⟩
    · simp [transaction, Database.dropRepositories, script, hids, Script.statements]
      rfl
    · simp [script, hids, Script.result]
  · have hids : ids.isEmpty = false := by simpa using hids
    let hit (row : Repository) := row.installation == installation && ids.contains row.repo
    apply Executes.of_statement ((installation :: ids).map .int)
      (db.tables.repositories.countP hit,
        { db.tables with repositories := db.tables.repositories.filter fun row => !hit row })
    case h =>
      simp only [transaction, Database.dropRepositories, hids]
      rfl
    case hne => simp [script, Script.statements, hids]
    case hparams => simp [script, Script.statements, hids]
    case hresult =>
      intro _
      simp only [script, hids]
      rfl

theorem dropInstallation_executes (installation : Int) : (dropInstallation installation).Executes now db := by
  let cancelled := cancelAll db.tables now "installation_deleted" (·.installation == installation)
  apply Executes.of_statement [installation]
    (Removal.mk cancelled.1 (db.tables.repositories.countP (·.installation == installation))
        (db.tables.installations.countP (·.id == installation)),
      { cancelled.2 with
        repositories := db.tables.repositories.filter (·.installation != installation)
        installations := db.tables.installations.filter (·.id != installation) }) rfl
  case hne => simp [script, Script.statements]
  case hparams =>
    have hflatten : (((dropInstallation installation).script now db.nextRun).statements db.tables).flatten =
        [.int installation] ++ [.int installation, .int installation] := by
      simp [script, Script.statements, cancelEach, Script.statements_forEach]
    rw [hflatten]
    exact fault?_append_of_subset (by simp)
  case hresult =>
    intro h
    simp only [script, Script.result, cancelEach, Script.result_forEach, id, foldl_cancelEach h]
    rfl

theorem executes (call : StoreCall) : call.Executes now db := by
  cases call with
  | queue number repository installation summary =>
    exact queue_executes now db number repository installation summary
  | move review target progress run => exact move_executes now db review target progress run
  | addAnalysis review run status analysis complexity =>
    exact addAnalysis_executes now db review run status analysis complexity
  | cancel number repository reason => exact cancel_executes now db number repository reason
  | saveInstallation installation login kind repositories =>
    exact saveInstallation_executes now db installation login kind repositories
  | saveRepositories installation repositories login kind =>
    exact saveRepositories_executes now db installation repositories login kind
  | dropRepositories installation ids => exact dropRepositories_executes now db installation ids
  | dropInstallation installation => exact dropInstallation_executes now db installation

end StoreCall

/-! ## Calls that fail -/

namespace Database

variable {db : Database} {params : List Param} {e : Failure}

/-- Why a statement fails. -/
theorem statement_eq_error_iff :
    db.statement params = .error e ↔
      (db.isUp = false ∧ e = .database "database is down") ∨
      (db.isUp = true ∧ db.hasTables = false ∧ e = .database "no such table") ∨
      (db.Available ∧ Param.fault? params = some e) := by
  rw [@eq_comm _ e, @eq_comm _ e]
  unfold statement
  cases hup : db.isUp with
  | false =>
    have hno : ¬ db.Available := fun h => by simp [h.isUp] at hup
    simp [hno]
  | true =>
    cases htables : db.hasTables with
    | false =>
      have hno : ¬ db.Available := fun h => by simp [h.hasTables] at htables
      simp [hno]
    | true =>
      have havailable : db.Available := ⟨hup, htables⟩
      cases Param.fault? params <;> simp [havailable]

/-- Statements fail as the first of them that fails. -/
theorem checkSteadily_eq_error_iff {statements : List (List Param)} :
    db.checkSteadily statements = .error e ↔
      ∃ before params rest, statements = before ++ params :: rest ∧
        (∀ earlier ∈ before, db.statement earlier = .ok ()) ∧ db.statement params = .error e := by
  induction statements with
  | nil => simp [checkSteadily, check]
  | cons params rest ih =>
    rw [checkSteadily_cons]
    cases hs : db.statement params with
    | error e' =>
      constructor
      · intro h
        exact ⟨[], params, rest, rfl, List.forall_mem_nil _, hs.trans h⟩
      · rintro ⟨before, found, after, hsplit, hbefore, hfound⟩
        cases before with
        | nil =>
          obtain ⟨rfl, -⟩ := List.cons.inj hsplit
          exact hs.symm.trans hfound
        | cons first before =>
          obtain ⟨rfl, -⟩ := List.cons.inj hsplit
          cases (hbefore params List.mem_cons_self).symm.trans hs
    | ok u =>
      refine Iff.trans ih ⟨?_, ?_⟩
      · rintro ⟨before, found, after, rfl, hbefore, hfound⟩
        exact ⟨params :: before, found, after, rfl, List.forall_mem_cons.2 ⟨hs, hbefore⟩, hfound⟩
      · rintro ⟨before, found, after, hsplit, hbefore, hfound⟩
        cases before with
        | nil =>
          obtain ⟨rfl, -⟩ := List.cons.inj hsplit
          cases hs.symm.trans hfound
        | cons first before =>
          obtain ⟨-, rfl⟩ := List.cons.inj hsplit
          exact ⟨before, found, after, rfl, fun q hq => hbefore q (List.mem_cons_of_mem _ hq), hfound⟩

end Database

namespace StoreCall

open Database

variable {call : StoreCall} {now : Moment} {db : Database}

/-- The database after a call that has failed: a run that was drawn for it is not drawn again. -/
def undone (call : StoreCall) (db : Database) : Database := { db with runs := db.runs.draw call.runsDrawn }

/-- What is carried for each of some repositories. -/
def carriedByEach (installation : Int) (repositories : List Event.Repository) : List Param :=
  repositories.flatMap (paramsOfRepository installation)

/-- The values that the statements of a call carry. A move of a review that is not there is not tried, and the rows of
an analysis are not reached if it is not for the current run of an active review. -/
def carried (t : Tables) : StoreCall → List Param
  | queue number repository installation _ => [number, repository, installation]
  | move review target _ run =>
    .int review :: if (t.review? review).isSome then .text target :: run.toList.map .text else []
  | addAnalysis review run status analysis complexity =>
    .int review ::
      if (t.review? review).any (mayRecord · run) then paramsOfRows review status analysis complexity else []
  | cancel number repository _ => [number, repository]
  | saveInstallation installation login kind repositories =>
    [.int installation, .text login, .text kind] ++ carriedByEach installation repositories
  | saveRepositories installation repositories login kind =>
    ((login.filter fun name : Text => name ≠ "").elim [] fun login => [.int installation, .text login, .text kind]) ++
      carriedByEach installation repositories
  | dropRepositories installation ids => if ids.isEmpty then [] else (installation :: ids).map .int
  | dropInstallation installation => [installation]

theorem mem_carried_iff (now : Moment) (run : String) {t : Tables} {p : Param} :
    p ∈ call.carried t ↔ ∃ params ∈ (call.script now run).statements t, p ∈ params := by
  rw [← List.mem_flatten]
  cases call with
  | queue number repository installation summary =>
    simp only [carried, script, Script.statements, List.flatten_cons, List.flatten_nil, List.append_nil,
      List.mem_append, List.mem_cons, List.not_mem_nil, or_false]
    tauto
  | move review target progress named =>
    cases hr : t.review? review with
    | none => simp [carried, script, Script.statements, hr]
    | some r =>
      simp only [carried, script, Script.statements, hr, Option.isSome_some, if_true, id_eq, List.flatten_cons,
        List.flatten_nil, List.append_nil, List.mem_append, List.mem_cons, List.not_mem_nil, or_false]
      tauto
  | addAnalysis review named status analysis complexity =>
    cases hr : (t.review? review).any (mayRecord · named) with
    | false => simp [carried, script, Script.statements, hr]
    | true =>
      simp only [carried, script, Script.statements, Script.statements_forEach, hr, if_true, id_eq, paramsOfRows,
        List.flatMap_def, List.flatten_cons, List.append_nil, List.cons_append, List.nil_append]
  | cancel number repository reason => simp [carried, script, Script.statements, cancelEach, Script.statements_forEach]
  | saveInstallation installation login kind repositories =>
    simp only [carried, script, Script.statements, statements_putEach, carriedByEach, List.flatMap_def,
      List.flatten_cons]
  | saveRepositories installation repositories login kind =>
    cases hlogin : login.filter fun name : Text => name ≠ "" with
    | none => simp only [carried, script, statements_putEach, hlogin, carriedByEach, List.flatMap_def, Option.elim_none,
        List.nil_append]
    | some name =>
      simp only [carried, script, Script.statements, statements_putEach, hlogin, carriedByEach, List.flatMap_def,
        Option.elim_some, List.flatten_cons]
  | dropRepositories installation ids =>
    cases hids : ids.isEmpty <;> simp [carried, script, Script.statements, hids]
  | dropInstallation installation =>
    simp [carried, script, Script.statements, cancelEach, Script.statements_forEach]

/-- A call fails as the first of its statements that fails. -/
theorem perform_eq_error_iff {e : Failure} :
    (call.perform now db).1 = .error e ↔
      ∃ before params rest, (call.script now db.nextRun).statements db.tables = before ++ params :: rest ∧
        (∀ earlier ∈ before, db.statement earlier = .ok ()) ∧ db.statement params = .error e := by
  obtain ⟨outcome, htransaction, -⟩ := call.executes now db
  rw [← checkSteadily_eq_error_iff]
  unfold perform
  rw [htransaction]
  cases db.checkSteadily ((call.script now db.nextRun).statements db.tables) with
  | ok u => simp [Except.map]
  | error e' => simp [Except.map]

/-- A call fails because the database does, or for a value that it carries. -/
theorem perform_error_cases {e : Failure} (h : (call.perform now db).1 = .error e) :
    e.isDatabase = true ∨
      e.isUnbindable = true ∧ db.Available ∧ ∃ p ∈ call.carried db.tables, p.isBindable = false := by
  obtain ⟨before, params, rest, hsplit, -, hfails⟩ := perform_eq_error_iff.1 h
  rcases statement_eq_error_iff.1 hfails with ⟨-, rfl⟩ | ⟨-, -, rfl⟩ | ⟨havailable, hfault⟩
  · exact .inl rfl
  · exact .inl rfl
  · obtain ⟨⟨p, hp, hbinds⟩, he⟩ := Param.exists_of_fault? hfault
    have hmem : params ∈ (call.script now db.nextRun).statements db.tables := by simp [hsplit]
    exact .inr ⟨he, havailable, p, (mem_carried_iff now db.nextRun).2 ⟨params, hmem, hp⟩, hbinds⟩

/-- A call succeeds where the tables can be reached and all values that it carries can be bound. -/
theorem perform_ok_of_binds (h : db.Available) (hbinds : ∀ p ∈ call.carried db.tables, p.isBindable = true) :
    ∃ reply, (call.perform now db).1 = .ok reply := by
  cases hp : (call.perform now db).1 with
  | ok reply => exact ⟨reply, rfl⟩
  | error e =>
    obtain ⟨before, params, rest, hsplit, -, hfails⟩ := perform_eq_error_iff.1 hp
    have hmem : params ∈ (call.script now db.nextRun).statements db.tables := by simp [hsplit]
    have hok : db.statement params = .ok () := h.statement_ok (Param.fault?_eq_none_iff.2 fun p hp =>
      hbinds p ((mem_carried_iff now db.nextRun).2 ⟨params, hmem, hp⟩))
    cases hok.symm.trans hfails

/-- A call that succeeds could bind all values that it carries. -/
theorem binds_of_perform_ok {reply : call.Reply} (h : (call.perform now db).1 = .ok reply) :
    ∀ p ∈ call.carried db.tables, p.isBindable = true := by
  obtain ⟨outcome, htransaction, -⟩ := call.executes now db
  have hcheck : db.checkSteadily ((call.script now db.nextRun).statements db.tables) = .ok () := by
    unfold perform at h
    rw [htransaction] at h
    cases hc : db.checkSteadily ((call.script now db.nextRun).statements db.tables) with
    | ok u => rfl
    | error e => simp [hc, Except.map] at h
  intro p hp
  obtain ⟨params, hmem, hp⟩ := (mem_carried_iff now db.nextRun).1 hp
  obtain ⟨n, hn⟩ := List.mem_iff_getElem?.1 hmem
  exact (statement_eq_ok_iff.1 (check_eq_ok_iff.1 hcheck n params hn)).2.2 p hp

/-- A call fails for a value if one that it carries cannot be bound. -/
theorem perform_unbindable_iff :
    (∃ e, (call.perform now db).1 = .error e ∧ e.isUnbindable = true) ↔
      db.Available ∧ ∃ p ∈ call.carried db.tables, p.isBindable = false := by
  constructor
  · rintro ⟨e, hfails, he⟩
    rcases perform_error_cases hfails with hdatabase | ⟨-, hcarried⟩
    · rw [Failure.isDatabase_of_isUnbindable he] at hdatabase
      cases hdatabase
    · exact hcarried
  · rintro ⟨h, p, hp, hbinds⟩
    cases hperform : (call.perform now db).1 with
    | ok reply =>
      rw [binds_of_perform_ok hperform p hp] at hbinds
      cases hbinds
    | error e =>
      refine ⟨e, rfl, ?_⟩
      obtain ⟨before, params, rest, -, -, hfails⟩ := perform_eq_error_iff.1 hperform
      rcases statement_eq_error_iff.1 hfails with ⟨hdown, -⟩ | ⟨-, hgone, -⟩ | ⟨-, hfault⟩
      · rw [h.isUp] at hdown
        cases hdown
      · rw [h.hasTables] at hgone
        cases hgone
      · exact (Param.exists_of_fault? hfault).2

/-- What a call comes to when its statements are answered as they may be. -/
theorem attempt_eq (call : StoreCall) (now : Moment) (answers : Nat → Bool) (db : Database) :
    call.attempt now answers db =
      match db.check answers ((call.script now db.nextRun).statements db.tables) with
      | .ok () =>
        (.ok ((call.script now db.nextRun).result db.tables).1,
          { call.undone db with tables := ((call.script now db.nextRun).result db.tables).2 })
      | .error e => (.error e, call.undone db) := by
  unfold attempt
  rw [Script.run_eq]
  cases db.check answers ((call.script now db.nextRun).statements db.tables) <;> rfl

/-- Where the database answers all along or not at all, a call does statement by statement what it does in
one go. -/
theorem attempt_eq_perform (call : StoreCall) (now : Moment) {db : Database}
    (h : (db.tables.reviews.map (·.id)).Nodup) : call.attempt now (fun _ => db.isUp) db = call.perform now db := by
  obtain ⟨outcome, htransaction, hresult⟩ := call.executes now db
  have hresult := hresult h
  have hcheck : db.check (fun _ => db.isUp) ((call.script now db.nextRun).statements db.tables) =
      db.checkSteadily ((call.script now db.nextRun).statements db.tables) := rfl
  rw [attempt_eq, hcheck, hresult]
  unfold perform
  rw [htransaction]
  cases db.checkSteadily ((call.script now db.nextRun).statements db.tables) <;> rfl

/-- A call that fails leaves nothing of itself. -/
theorem perform_undone {e : Failure} (h : (call.perform now db).1 = .error e) :
    call.perform now db = (.error e, call.undone db) := by
  unfold perform at h ⊢
  split
  · rename_i heq
    rw [heq] at h
    cases h
  · rename_i heq
    rw [heq] at h
    cases h
    rfl

/-- **A call one of whose statements fails, fails and is undone.** Whichever statement fails, and whatever
those before it have done, the call fails and all tables are as before. Which statement fails may change while
the call is made, as the database stops answering and answers again; where it does not, the call is
`perform`, which fails as the first of its statements that fails does, so it fails whenever any value that the call
carries cannot be bound. -/
theorem failed_call_undone (call : StoreCall) (now : Moment) (db : Database) :
    (∀ answers n params e, ((call.script now db.nextRun).statements db.tables)[n]? = some params →
      (db.answering (answers n)).statement params = .error e →
      (∃ e', (call.attempt now answers db).1 = .error e') ∧ (call.attempt now answers db).2.tables = db.tables) ∧
    (∀ before params rest e, (call.script now db.nextRun).statements db.tables = before ++ params :: rest →
      (∀ earlier ∈ before, db.statement earlier = .ok ()) → db.statement params = .error e →
      (call.perform now db).1 = .error e ∧ (call.perform now db).2.tables = db.tables) ∧
    (∀ p ∈ call.carried db.tables, p.isBindable = false →
      (∃ e, (call.perform now db).1 = .error e) ∧ (call.perform now db).2.tables = db.tables) ∧
    ((db.tables.reviews.map (·.id)).Nodup → call.attempt now (fun _ => db.isUp) db = call.perform now db) := by
  have hundone (e : Failure) (herror : (call.perform now db).1 = .error e) :
      (call.perform now db).2.tables = db.tables := by
    rw [perform_undone herror]
    rfl
  refine ⟨?_, ?_, ?_, attempt_eq_perform call now⟩
  case refine_1 =>
    intro answers n params e hn hfails
    obtain ⟨e', hcheck⟩ := check_fails_iff.2 ⟨n, params, e, hn, hfails⟩
    rw [attempt_eq, hcheck]
    exact ⟨⟨e', rfl⟩, rfl⟩
  case refine_2 =>
    intro before params rest e hsplit hbefore hfails
    have herror : (call.perform now db).1 = .error e :=
      perform_eq_error_iff.2 ⟨before, params, rest, hsplit, hbefore, hfails⟩
    exact ⟨herror, hundone e herror⟩
  case refine_3 =>
    intro p hp hbinds
    cases hperform : (call.perform now db).1 with
    | error e => exact ⟨⟨e, rfl⟩, hundone e hperform⟩
    | ok reply =>
      rw [binds_of_perform_ok hperform p hp] at hbinds
      cases hbinds

/-- Two repositories, the second with an id that fits no column. -/
def oddRepositories : List Event.Repository :=
  [{ id := 1, fullName := "acme/widgets" }, { id := 9223372036854775808, fullName := "acme/gadgets" }]

/-- The installation and its first repository are written, and they go when the second repository does not
fit, or when the database stops answering before it is written. -/
theorem saveInstallation_undone :
    let call := saveInstallation 7 "acme" "Organization" oddRepositories
    let reached := (call.script 5 "run-1").execute {} (· < 2) (.opened {})
    (reached.2.working.installations.map (·.id), reached.2.working.repositories.map (·.repo)) = ([7], [1]) ∧
    ((∃ e, (call.attempt 5 (· < 2) {}).1 = .error e) ∧ (call.attempt 5 (· < 2) {}).2.tables = {}) ∧
    ((call.perform 5 {}).1 = .error .integerRange ∧ (call.perform 5 {}).2.tables = {}) ∧
    ((∃ e, (call.perform 5 {}).1 = .error e) ∧ (call.perform 5 {}).2.tables = {}) ∧
    call.attempt 5 (fun _ => true) {} = call.perform 5 {} := by
  obtain ⟨hattempt, hperform, hcarried, heq⟩ :=
    failed_call_undone (saveInstallation 7 "acme" "Organization" oddRepositories) 5 {}
  refine ⟨rfl, ?_, ?_, ?_, ?_⟩
  · exact hattempt (· < 2) 2 [.int 7, .int 9223372036854775808, .text "acme/gadgets"] (.database "database is down")
      rfl rfl
  · exact hperform [[.int 7, .text "acme", .text "Organization"], [.int 7, .int 1, .text "acme/widgets"]]
      [.int 7, .int 9223372036854775808, .text "acme/gadgets"] [] .integerRange rfl (by decide) rfl
  · exact hcarried (.int 9223372036854775808) (by decide) (by decide)
  · exact heq List.nodup_nil

end StoreCall

end PullReview
