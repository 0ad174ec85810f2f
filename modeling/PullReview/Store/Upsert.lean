import PullReview.Failure

/-!
# Upsert clauses

The clause that turns an insertion into an update when the row is there, in the dialects that have
one. The updated columns stand in the order of the table's columns.

| here | there |
| --- | --- |
| `upsertClause` | the clause that `upsert` generates (review_store:47-61) |
-/

namespace PullReview

/-- The tables that rows are upserted into. -/
inductive UpsertTable where
  | reviews | installations | repositories
  deriving DecidableEq, Repr

def UpsertTable.columns : UpsertTable → List String
  | reviews =>
    ["id", "pr_number", "repo_full_name", "installation_id", "status", "run_id", "review_data", "created_at",
      "updated_at", "completed_at"]
  | installations => ["installation_id", "account_login", "account_type", "created_at", "updated_at"]
  | repositories => ["id", "installation_id", "repo_id", "full_name", "private"]

inductive UpsertError where
  | unsupportedDialect (dialect : String)
  | unknownColumn
  | nothingToUpdate
  deriving DecidableEq, Repr

/-- The refusal of a dialect without upserts. -/
def unsupportedDialect (dialect : String) : Rejection :=
  { message := "Upsert is not supported on " ++ dialect, code := "unsupported_dialect" }

/-- The two ways to write the clause. -/
inductive UpsertForm where
  | onConflict | onDuplicateKey
  deriving DecidableEq, Repr

def UpsertForm.ofDialect? (dialect : String) : Option UpsertForm :=
  if ["sqlite", "postgresql"].contains dialect then some .onConflict
  else if ["mysql", "mariadb"].contains dialect then some .onDuplicateKey
  else none

/-- The clause in a form. -/
def UpsertForm.clause (conflictOn updated : List String) : UpsertForm → String
  | .onConflict =>
    "ON CONFLICT (" ++ ", ".intercalate conflictOn ++ ") DO UPDATE SET " ++
      ", ".intercalate (updated.map fun c => c ++ " = excluded." ++ c)
  | .onDuplicateKey =>
    "ON DUPLICATE KEY UPDATE " ++ ", ".intercalate (updated.map fun c => c ++ " = VALUES(" ++ c ++ ")")

/-- The upsert clause of a table in a dialect (review_store:47-61). -/
def upsertClause (dialect : String) (table : UpsertTable) (conflictOn updated : List String) :
    Except UpsertError String :=
  match UpsertForm.ofDialect? dialect with
  | none => .error (.unsupportedDialect dialect)
  | some form =>
    if updated.any fun c => !table.columns.contains c then .error .unknownColumn
    else if updated.isEmpty then .error .nothingToUpdate
    else .ok (form.clause conflictOn (table.columns.filter updated.contains))

end PullReview
