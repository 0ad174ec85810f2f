import PullReview.Json.Basic
import PullReview.Bytes.Hex
import PullReview.Text.Digit

/-!
# Reading JSON

The reader of JSON texts. Beyond the standard it takes `NaN`, `Infinity` and `-Infinity`; of a key
that comes twice the last value counts. Control characters must be escaped inside strings, numbers
have no leading zeros, and nothing but white space may follow the value. An integer of more than
4300 digits is well-formed but cannot be converted, and values may nest only so deep as the caller has
room for. The first fault from the left is reported.

Surrogates stand inside strings only. One that is escaped makes a character with the next if both are escaped and
make a pair, and otherwise stays alone.

| here | there |
| --- | --- |
| `readString` | `JSONDecoder`, its `scanstring` |
| `readNumber` | `JSONDecoder`, `int` and `float` of what matches a number |
| `readValue` | `JSONDecoder`, its `scan_once`; the room is what the recursion limit leaves |
| `ReadError` | `JSONDecodeError`, `ValueError` of `int`, `RecursionError` |
-/

namespace PullReview.Json

/-- Why a text was not read. -/
inductive ReadError where
  | malformed
  | longNumeral
  /-- More arrays and objects are open at once than there is room for. -/
  | tooDeep
  deriving DecidableEq, Repr

/-- What a step of the reader gives: a value and the text after it. -/
abbrev Step (α : Type) := Except ReadError (α × List CodePoint)

/-- White space between tokens. -/
def isSpace : CodePoint → Bool
  | .char c => c == ' ' || c == '\t' || c == '\n' || c == '\r'
  | .lone _ => false

def skipSpace (ps : List CodePoint) : List CodePoint := ps.dropWhile isSpace

/-- The text after a word that must come next. -/
def afterWord? (word : String) (ps : List CodePoint) : Option (List CodePoint) :=
  if (word.toList.map .char).isPrefixOf ps then some (ps.drop word.length) else none

/-- The value of a hexadecimal digit. -/
def hexValue? : CodePoint → Option Nat
  | .char c => Bytes.hexValue? c
  | .lone _ => none

/-- The value of four hexadecimal digits. -/
def codeUnit? (a b c d : CodePoint) : Option Nat := do
  let a ← hexValue? a
  let b ← hexValue? b
  let c ← hexValue? c
  let d ← hexValue? d
  return 4096 * a + 256 * b + 16 * c + d

/-- What is read so far, latest first, once a high surrogate that found no partner is settled. -/
def settled (high : Option Surrogate) (read : List CodePoint) : List CodePoint :=
  match high with
  | some s => .lone s :: read
  | none => read

/-- The character that a single-letter escape stands for. -/
def escaped? : Char → Option Char
  | '"' => some '"'
  | '\\' => some '\\'
  | '/' => some '/'
  | 'b' => some '\x08'
  | 'f' => some '\x0c'
  | 'n' => some '\n'
  | 'r' => some '\r'
  | 't' => some '\t'
  | _ => none

/-- Reads a string after its opening quote. `high` is a high surrogate that was just escaped. -/
def readString (high : Option Surrogate) (read : List CodePoint) : List CodePoint → Step Text
  | [] => .error .malformed
  | .char '"' :: ps => .ok (Text.ofPoints (settled high read).reverse, ps)
  | .char '\\' :: .char 'u' :: a :: b :: c :: d :: ps =>
    match codeUnit? a b c d with
    | none => .error .malformed
    | some unit =>
      match Surrogate.ofCode? unit with
      | none => readString none (.char (Char.ofNat unit) :: settled high read) ps
      | some half =>
        if half.isHigh then readString (some half) (settled high read) ps
        else
          match high with
          | some high => readString none (.char (high.paired half) :: read) ps
          | none => readString none (.lone half :: read) ps
  | .char '\\' :: .char e :: ps =>
    match escaped? e with
    | some c => readString none (.char c :: settled high read) ps
    | none => .error .malformed
  | .char '\\' :: .lone _ :: _ => .error .malformed
  | .char c :: ps =>
    if c.toNat < 0x20 then .error .malformed else readString none (.char c :: settled high read) ps
  | .lone s :: ps => readString none (.lone s :: settled high read) ps

/-- The ASCII digits at the front, as values, and the text after them. -/
def digitRun : List CodePoint → List Nat × List CodePoint
  | .char c :: ps =>
    match Text.asciiDigit? c with
    | some d => let (ds, rest) := digitRun ps; (d :: ds, rest)
    | none => ([], .char c :: ps)
  | ps => ([], ps)

/-- The digits after a point, if a point and a digit come next. -/
def fraction? : List CodePoint → Option (List Nat × List CodePoint)
  | .char '.' :: ps => match digitRun ps with
    | ([], _) => none
    | run => some run
  | _ => none

/-- The exponent, if a whole one comes next. -/
def exponent? : List CodePoint → Option (Int × List CodePoint)
  | .char c :: ps =>
    if c == 'e' || c == 'E' then
      let (negative, ps) := match ps with
        | .char '-' :: ps => (true, ps)
        | .char '+' :: ps => (false, ps)
        | ps => (false, ps)
      match digitRun ps with
      | ([], _) => none
      | (ds, rest) => some (if negative then -(Text.ofDigits ds : Int) else Text.ofDigits ds, rest)
    else none
  | _ => none

/-- Reads a number after its sign. A leading zero is a whole integer part by itself. -/
def readNumber (negative : Bool) (ps : List CodePoint) : Step Json :=
  let (digits, rest) := match ps with
    | .char '0' :: ps => ([0], ps)
    | ps => digitRun ps
  match digits with
  | [] => .error .malformed
  | _ =>
    match fraction? rest, exponent? ((fraction? rest).elim rest (·.2)) with
    | none, none =>
      match Text.readNumeral digits with
      | .error _ => .error .longNumeral
      | .ok n => .ok (.int (if negative then -n else n), rest)
    | fraction, exponent =>
      let (places, rest) := fraction.getD ([], rest)
      let (power, rest) := exponent.getD (0, rest)
      .ok (.float (.ofDecimal negative (Text.ofDigits (digits ++ places)) (power - places.length)), rest)

/-- Reads a value that is neither a string, an array nor an object. -/
def readScalar (ps : List CodePoint) : Step Json :=
  let words : List (String × Json) :=
    [("null", .null), ("true", .bool true), ("false", .bool false), ("NaN", .float .nan),
      ("Infinity", .float (.infinite false)), ("-Infinity", .float (.infinite true))]
  match words.findSome? fun word => (afterWord? word.1 ps).map (word.2, ·) with
  | some read => .ok read
  | none =>
    match ps with
    | .char '-' :: ps => readNumber true ps
    | ps => readNumber false ps

mutual

/-- Reads a value, with `room` for arrays and objects inside one another. Each step takes at least one
character, so the fuel is the length of the text. -/
def readValue : Nat → Nat → List CodePoint → Step Json
  | 0, _, _ => .error .malformed
  | fuel + 1, room, ps =>
    match ps, room with
    | .char '"' :: ps, _ => (readString none [] ps).map fun read => (.str read.1, read.2)
    | .char '[' :: _, 0 | .char '\x7b' :: _, 0 => .error .tooDeep
    | .char '[' :: ps, room + 1 =>
      match skipSpace ps with
      | .char ']' :: ps => .ok (.arr [], ps)
      | ps => readItems fuel room [] ps
    | .char '\x7b' :: ps, room + 1 =>
      match skipSpace ps with
      | .char '\x7d' :: ps => .ok (.obj [], ps)
      | ps => readMembers fuel room [] ps
    | ps, _ => readScalar ps

/-- Reads the items of an array up to its closing bracket; `read` holds earlier ones, latest first. -/
def readItems : Nat → Nat → List Json → List CodePoint → Step Json
  | 0, _, _, _ => .error .malformed
  | fuel + 1, room, read, ps =>
    match readValue fuel room ps with
    | .error e => .error e
    | .ok (value, ps) =>
      match skipSpace ps with
      | .char ',' :: ps => readItems fuel room (value :: read) (skipSpace ps)
      | .char ']' :: ps => .ok (.arr (value :: read).reverse, ps)
      | _ => .error .malformed

/-- Reads the members of an object up to its closing brace. -/
def readMembers : Nat → Nat → Members → List CodePoint → Step Json
  | 0, _, _, _ => .error .malformed
  | fuel + 1, room, read, ps =>
    match ps with
    | .char '"' :: ps =>
      match readString none [] ps with
      | .error e => .error e
      | .ok (key, ps) =>
        match skipSpace ps with
        | .char ':' :: ps =>
          match readValue fuel room (skipSpace ps) with
          | .error e => .error e
          | .ok (value, ps) =>
            match skipSpace ps with
            | .char ',' :: ps => readMembers fuel room (read.set key value) (skipSpace ps)
            | .char '\x7d' :: ps => .ok (.obj (read.set key value), ps)
            | _ => .error .malformed
        | _ => .error .malformed
    | _ => .error .malformed

end

/-- Reads a whole text in which arrays and objects may nest as deep as there is room for. -/
def read (room : Nat) (ps : List CodePoint) : Except ReadError Json :=
  match readValue (ps.length + 1) room (skipSpace ps) with
  | .error e => .error e
  | .ok (value, rest) => if (skipSpace rest).isEmpty then .ok value else .error .malformed

end PullReview.Json
