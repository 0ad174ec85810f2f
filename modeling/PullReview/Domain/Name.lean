import PullReview.Domain.Permitted
import PullReview.Domain.Composition
import PullReview.Domain.Direction
import PullReview.Domain.Context
import PullReview.Domain.Punycode
import PullReview.Text.Percent

/-!
# International domain names

A domain name is a list of labels with dots between them. A label beyond ASCII is checked and sent in
Punycode behind a prefix; such a label is read back the same way. A name that cannot be sent has a
fault, the first one that its labels show from left to right.
-/

namespace PullReview.Domain

/-- Why a name cannot be sent or read. -/
inductive Fault where
  /-- A label is empty, too long, not in composed form, begins with a mark, has a hyphen or a joiner
  out of place or is no Punycode; or the name is too long. -/
  | malformed
  /-- A label mixes directions. -/
  | direction
  /-- A character may not stand in a label. -/
  | character
  /-- A character that needs a context does not have it. -/
  | context
  deriving DecidableEq, Repr

/-- The greatest length of a label in ASCII. -/
def labelLimit : Nat := 63

/-- The greatest length of a name, its last dot included. -/
def nameLimit : Nat := 254

/-- Whether a label has hyphens where none may be: at its ends, or both third and fourth. -/
def misplacesHyphen (label : List Char) : Bool :=
  label.head? == some '-' || label.getLast? == some '-' || (label.drop 2).take 2 == ['-', '-']

/-- Checks the characters of a label from left to right; `before` holds the ones before them, the
nearest first. -/
def checkCharacters (before : List Char) : List Char → Except Fault Unit
  | [] => .ok ()
  | c :: cs =>
    if isPermitted c then checkCharacters (c :: before) cs
    else if isJoiner c then
      if joinerAllowed c before cs then checkCharacters (c :: before) cs else .error .malformed
    else if contextual.holds c then
      if contextAllowed c before cs then checkCharacters (c :: before) cs else .error .context
    else .error .character

/-- Checks a label. -/
def checkLabel (label : List Char) : Except Fault Unit :=
  if label = [] ∨ nameLimit < label.length ∨ composed label ≠ label ∨ misplacesHyphen label
      ∨ label.head?.any isMark then .error .malformed
  else
    match checkCharacters [] label with
    | .error fault => .error fault
    | .ok () => if directionRule label then .ok () else .error .direction

/-- What a label in Punycode begins with. -/
def punycodePrefix : List Char := ['x', 'n', '-', '-']

/-- The label that stands behind a label in ASCII. -/
def readLabel (label : List Char) : Except Fault (List Char) :=
  let lower := label.map Char.toLower
  if punycodePrefix.isPrefixOf lower then
    let places := lower.drop punycodePrefix.length
    if places = [] ∨ places.getLast? = some '-' then .error .malformed
    else
      match Punycode.decode? places with
      | none => .error .malformed
      | some read => (checkLabel read).map fun () => read
  else (checkLabel lower).map fun () => lower

/-- The form of a label that is sent. -/
def writeLabel (label : List Char) : Except Fault (List Char) := do
  let written ←
    if label.all Text.isAscii then (readLabel label).map fun _ => label
    else (checkLabel label).map fun () => punycodePrefix ++ Punycode.encode label
  if labelLimit < written.length then .error .malformed else .ok written

/-- The characters that count as dots. -/
def dots : List Char := ['.', '\u3002', '\uFF0E', '\uFF61']

/-- The labels of a name, and whether a dot ends it. -/
def labelsOf (name : List Char) : List (List Char) × Bool :=
  let labels := Text.splitOn '.' (name.map fun c => if dots.contains c then '.' else c)
  if labels.getLast? = some [] then (labels.dropLast, true) else (labels, false)

/-- A name with each of its labels turned into another form. -/
def mapLabels (turn : List Char → Except Fault (List Char)) (name : List Char) :
    Except Fault (List Char) := do
  if nameLimit < name.length then .error .malformed
  else
    let (labels, dotted) := labelsOf name
    return Text.joinWith '.' ((← labels.mapM turn) ++ if dotted then [[]] else [])

/-- The form of a name that is sent. -/
def write (name : List Char) : Except Fault (List Char) := do
  let written ← mapLabels writeLabel name
  let limit := if (labelsOf name).2 then nameLimit else nameLimit - 1
  if limit < written.length then .error .malformed else .ok written

/-- The name behind a name in ASCII. -/
def read (name : List Char) : Except Fault (List Char) := mapLabels readLabel name

end PullReview.Domain
