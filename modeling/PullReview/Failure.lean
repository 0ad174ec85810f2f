import PullReview.Bytes.Hex
import PullReview.Text.Basic
import PullReview.Text.Digit

/-!
# Failures

Why a step of the work did not succeed: a collaborator refused, the database failed, an integer did not fit its
column, a text could not be encoded, a numeral was too long, or the work itself went wrong. Each failure has the
name of its kind, a text, and the message that is recorded with a failed review.

| here | there |
| --- | --- |
| `Rejection` | `ServiceError` (service_errors:1-11) |
| `Failure.kind` | the class of the exception |
| `Failure.text` | `str(exc)` |
| `Failure.message` | `_error_message` (review_lifecycle:82-83) |
| `Failure.isDatabase` | `SQLAlchemyError` |
-/

namespace PullReview

/-- A refusal by a collaborator, with the status and the code under which it is reported. -/
structure Rejection where
  message : String
  statusCode : Int := 500
  code : String := "service_error"
  deriving DecidableEq, Repr

/-- The message with its code. -/
def Rejection.text (e : Rejection) : String := e.message ++ " (" ++ e.code ++ ")"

/-- Where the surrogates stand that cannot be encoded. -/
def Unencodable.place (e : Unencodable) : String :=
  if e.count = 1 then
    let digits := [e.first.code / 4096, e.first.code / 256 % 16, e.first.code / 16 % 16, e.first.code % 16]
    "character '\\u" ++ String.ofList (digits.map Bytes.hexDigit) ++ s!"' in position {e.position}"
  else s!"characters in position {e.position}-{e.position + e.count - 1}"

/-- Says which surrogates cannot be encoded. -/
def Unencodable.message (e : Unencodable) : String :=
  "'utf-8' codec can't encode " ++ e.place ++ ": surrogates not allowed"

inductive Failure where
  | rejected (rejection : Rejection)
  | database (message : String)
  /-- An integer outside the signed 64-bit range was to be stored or compared. -/
  | integerRange
  /-- A text with surrogates was to be stored or compared. -/
  | unencodable (cause : Unencodable)
  | longNumeral (error : Text.LongNumeral)
  | value (message : String)
  | runtime (message : String)
  deriving DecidableEq, Repr

namespace Failure

/-- The name of the kind of failure. -/
def kind : Failure → String
  | rejected _ => "ServiceError"
  | database _ => "SQLAlchemyError"
  | integerRange => "OverflowError"
  | unencodable _ => "UnicodeEncodeError"
  | longNumeral _ => "ValueError"
  | value _ => "ValueError"
  | runtime _ => "RuntimeError"

def text : Failure → String
  | rejected e => e.text
  | database message => message
  | integerRange => "Python int too large to convert to SQLite INTEGER"
  | unencodable cause => cause.message
  | longNumeral e => e.message
  | value message => message
  | runtime message => message

/-- What is recorded about a failure: the bare message of a refusal, else the text, else the name of
the kind. It is never empty. -/
def message (f : Failure) : String :=
  match f with
  | rejected e => if e.message = "" then e.text else e.message
  | f => if f.text = "" then f.kind else f.text

/-- Whether the database itself failed. -/
def isDatabase : Failure → Bool
  | database _ => true
  | _ => false

/-- Whether a statement could not be given a value. -/
def isUnbindable : Failure → Bool
  | integerRange | unencodable _ => true
  | _ => false

theorem isDatabase_of_isUnbindable {e : Failure} (h : e.isUnbindable = true) : e.isDatabase = false := by
  cases e <;> first | rfl | cases h

/-- Whether a collaborator refused. -/
def isRejection : Failure → Bool
  | rejected _ => true
  | _ => false

theorem isRejection_of_isUnbindable {e : Failure} (h : e.isUnbindable = true) : e.isRejection = false := by
  cases e <;> first | rfl | cases h

end Failure

end PullReview
