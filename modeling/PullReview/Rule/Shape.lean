import PullReview.Text.Pattern

/-!
# Shapes of suspicious code

The patterns that the rules look for, one definition each.

| here | there |
| --- | --- |
| `secrets` | `SECRET_PATTERNS` (issue_detector:43-48) |
| `reminders`, `consoleCalls` | `TODO_PATTERN`, `CONSOLE_CALL` (issue_detector:49-51) |
| `looseEquality`, `varDeclaration` | `LOOSE_EQUALITY`, `VAR_DECLARATION` (issue_detector:52-53) |
| `call`, `bareExcept` | `EVAL_CALL`, `PRINT_CALL`, `BARE_EXCEPT` (issue_detector:54-57) |
-/

namespace PullReview.Shape

open Text (Pattern Piece)

def quote : Piece := .oneOf ['"', '\x27']

/-- A quoted text that is not empty; the quotes need not be alike. -/
def quotedText : List Piece := [quote, (Piece.noneOf ['"', '\x27']).some, quote]

/-- A keyword set to a quoted text with `=` or `:`. -/
def assigned (keyword : List Piece) : Pattern :=
  { pieces := keyword ++ [.blanks, .oneOf ['=', ':'], .blanks] ++ quotedText }

/-- The keywords whose quoted values are taken for secrets. -/
def secretKeywords : List (List Piece) :=
  [Piece.anyCase "password",
    Piece.anyCase "api" ++ [(Piece.oneOf ['_', '-']).optional] ++ Piece.anyCase "key",
    Piece.anyCase "secret",
    Piece.anyCase "token"]

/-- One pattern for each secret keyword. -/
def secrets : List Pattern := secretKeywords.map assigned

/-- The words that mark unfinished work. -/
def reminders : List Pattern := ["todo", "fixme", "hack"].map fun word => { pieces := Piece.anyCase word }

/-- The console methods that are reported. -/
def consoleMethods : List String := ["log", "debug", "trace"]

/-- Calls of the console methods, each under its method's name. -/
def consoleCalls : List (String × Pattern) :=
  consoleMethods.map fun method =>
    (method, { pieces := Piece.word "console." ++ Piece.word method ++ [.blanks, .char '('] })

/-- Two equals signs between characters that make no other operator of them. -/
def looseEquality : Pattern :=
  { pieces := [.noneOf ['=', '!'], .char '=', .char '=', .noneOf ['=']] }

/-- The word `var` and a name. -/
def varDeclaration : Pattern :=
  { wordStart := true
    pieces := Piece.word "var" ++ [Piece.blanks.some, { accepts := Text.isWord }] }

/-- A call of a function by its bare name. -/
def call (name : String) : Pattern :=
  { wordStart := true, pieces := Piece.word name ++ [.blanks, .char '('] }

/-- An exception clause that names no exception. -/
def bareExcept : Pattern :=
  { wordStart := true, pieces := Piece.word "except" ++ [.blanks, .char ':'] }

end PullReview.Shape
