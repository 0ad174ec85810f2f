import PullReview.Intake.Scalar
import PullReview.Text.Percent
import PullReview.Report.Page

/-!
# Query parameters

A query is a list of `name=value` with ampersands between them. A plus sign is a blank, percent form
is undone, a parameter without an equals sign has the empty value, and of a name that comes more than
once the last value counts.

| here | there |
| --- | --- |
| `valueOf?` | `request.query_params` |
| `selection` | the parameters of `list_reviews` (main:163-169) |
-/

namespace PullReview.Web

/-- A name or a value of a query. -/
def queryText (cs : List Char) : String :=
  String.ofList (Text.percentDecode (cs.map fun c => if c = '+' then ' ' else c))

/-- A parameter: its name and its value. -/
def parameter (cs : List Char) : String × String :=
  (queryText (cs.takeWhile (· ≠ '=')), queryText ((cs.dropWhile (· ≠ '=')).drop 1))

/-- The parameters of a query. -/
def parameters (query : List Char) : List (String × String) :=
  ((Text.splitOn '&' query).filter (!·.isEmpty)).map parameter

/-- The value that counts for a name. -/
def valueOf? (query : List Char) (name : String) : Option String :=
  ((parameters query).reverse.find? (·.1 == name)).map (·.2)

/-- Takes an integer that is at least `low` and, where there is a `high`, at most that. -/
def integerBetween (low : Int) (high : Option Int) (s : String) : Checked Int :=
  (Json.integerOfText s).andThen fun i =>
    if i < low then .fault .tooSmall
    else if high.any (· < i) then .fault .tooLarge
    else .ok i

/-- A parameter with a default for its absence. -/
def parameterOr (query : List Char) (name : String) (default : α) (take : String → Checked α) :
    Checked α :=
  match valueOf? query name with
  | none => .ok default
  | some value => ((take value).under (.member name)).under (.member "query")

/-- The selection of a page that a query asks for: the first page of 20 unless it says otherwise, a
page having at most 100 reviews. -/
def selection (query : List Char) : Checked Report.Selection :=
  (fun page limit status => ⟨Int.toNat page, Int.toNat limit, status⟩) <$>
    parameterOr query "page" 1 (integerBetween 1 none) <*>
    parameterOr query "limit" 20 (integerBetween 1 (some 100)) <*>
    parameterOr query "status" none fun s => some <$> Json.asNamed (.str s)

end PullReview.Web
