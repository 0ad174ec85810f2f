import PullReview.Store.Tables
import PullReview.Failure

/-!
# The database

The tables, whether statements can be run on them, and the source of run ids. A statement fails while the database is
down, after its tables are gone, and when it carries a value that cannot be bound: an integer that does not fit a
column of 64 bits, or a text with surrogates. The first such value in the order of the parameters counts.

Left out are the lengths of text columns and foreign keys, neither of which the database checks.

| here | there |
| --- | --- |
| `Database` | the `Engine` (database:13-25) |
| `RunSource` | `uuid4().hex`, of which no two are equal (review_store:89) |
| `Param` | a parameter that the driver binds |
| `Database.statement` | `db.execute`, and what it raises: `SQLAlchemyError`, `OverflowError`, `UnicodeEncodeError` |
-/

namespace PullReview

/-- A source of run ids: the ids in the order in which they are drawn, none of them twice, and how many have been
drawn so far. -/
structure RunSource where
  id : Nat → String
  fresh : Function.Injective id
  drawn : Nat := 0

namespace RunSource

theorem numbered_injective : Function.Injective fun n : Nat => s!"run-{n + 1}" := by
  intro m n h
  have hlist := congrArg String.toList h
  simp only [toString, Nat.repr_eq_ofList_toDigits, String.toList_append, String.toList_ofList,
    List.append_cancel_left_eq] at hlist
  have hvalue := congrArg (Nat.ofDigitChars 10 · 0) hlist
  simpa only [Nat.ofDigitChars_ten_toDigits, Nat.add_right_cancel_iff] using hvalue

/-- The source that numbers its ids. -/
def numbered : RunSource := { id := fun n => s!"run-{n + 1}", fresh := numbered_injective }

/-- The id that is drawn next. -/
def next (s : RunSource) : String := s.id s.drawn

/-- The source after so many ids more. -/
def draw (s : RunSource) (count : Nat) : RunSource := { s with drawn := s.drawn + count }

end RunSource

structure Database where
  tables : Tables := {}
  /-- Whether the database answers at all. -/
  isUp : Bool := true
  /-- Whether the tables are still there. -/
  hasTables : Bool := true
  /-- Where the ids of new runs come from. -/
  runs : RunSource := .numbered

/-- Whether an integer fits a column: a sign and 63 bits. -/
def fitsColumn (i : Int) : Bool := -9223372036854775808 ≤ i && i ≤ 9223372036854775807

/-- A value that a statement carries. -/
inductive Param where
  | int (i : Int)
  | text (t : Text)
  deriving DecidableEq, Repr

namespace Param

instance : Coe Int Param := ⟨int⟩

instance : Coe Text Param := ⟨text⟩

/-- Whether the value can be bound. -/
def isBindable : Param → Bool
  | int i => fitsColumn i
  | text t => t.isPlain

@[simp] theorem isBindable_int (i : Int) : isBindable i = fitsColumn i := rfl

@[simp] theorem isBindable_text (t : Text) : isBindable t = t.isPlain := rfl

/-- The failure that a value brings about. -/
def failure? : Param → Option Failure
  | int i => if fitsColumn i then none else some .integerRange
  | text t => t.unencodable?.map .unencodable

theorem failure?_eq_none_iff {p : Param} : p.failure? = none ↔ p.isBindable = true := by
  cases p with
  | int i => simp [failure?]
  | text t => simp [failure?, Text.unencodable?_eq_none_iff]

theorem isUnbindable_of_failure? {p : Param} {e : Failure} (h : p.failure? = some e) : e.isUnbindable = true := by
  cases p with
  | int i =>
    simp only [failure?, Option.ite_none_left_eq_some, Option.some.injEq] at h
    exact h.2 ▸ rfl
  | text t =>
    obtain ⟨cause, -, rfl⟩ := Option.map_eq_some_iff.mp h
    rfl

/-- The failure of the first value that cannot be bound. -/
def fault? (params : List Param) : Option Failure := params.findSome? failure?

theorem fault?_eq_none_iff {params : List Param} :
    fault? params = none ↔ ∀ p ∈ params, p.isBindable = true := by
  simp only [fault?, List.findSome?_eq_none_iff, failure?_eq_none_iff]

theorem exists_of_fault? {params : List Param} {e : Failure} (h : fault? params = some e) :
    (∃ p ∈ params, p.isBindable = false) ∧ e.isUnbindable = true := by
  obtain ⟨p, hp, hfails⟩ := List.exists_of_findSome?_eq_some h
  have hno : ¬ p.isBindable = true := fun hbinds => by simp [failure?_eq_none_iff.mpr hbinds] at hfails
  exact ⟨⟨p, hp, Bool.eq_false_iff.mpr hno⟩, isUnbindable_of_failure? hfails⟩

end Param

namespace Database

/-- The failure of a statement that needs no table. -/
def connection (db : Database) : Except Failure Unit :=
  if db.isUp then .ok () else .error (.database "database is down")

/-- The failure of a statement on the tables that carries the given values. -/
def statement (db : Database) (params : List Param) : Except Failure Unit :=
  if !db.isUp then .error (.database "database is down")
  else if !db.hasTables then .error (.database "no such table")
  else
    match Param.fault? params with
    | none => .ok ()
    | some e => .error e

theorem statement_eq_ok_iff {db : Database} {params : List Param} :
    db.statement params = .ok () ↔
      db.isUp = true ∧ db.hasTables = true ∧ ∀ p ∈ params, p.isBindable = true := by
  rw [← Param.fault?_eq_none_iff, statement]
  cases db.isUp <;> cases db.hasTables <;> cases Param.fault? params <;> simp

/-- The run id that is drawn next. -/
def nextRun (db : Database) : String := db.runs.next

end Database

end PullReview
