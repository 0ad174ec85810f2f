import PullReview.Text.Ascii

/-!
# Punycode

Punycode writes a text of any characters with lower-case letters, digits and hyphens. First come its
ASCII characters, then, behind a hyphen, where the others go: in the order of their code points, each
as the number of places and code points passed over since the one before. These numbers have digits of
base 36 whose weights adapt to the size of the numbers seen.
-/

namespace PullReview.Domain.Punycode

/-- The character of a digit below 36. -/
def digitChar (d : Nat) : Char := if d < 26 then Char.ofNat (0x61 + d) else Char.ofNat (0x16 + d)

/-- The value of a digit, its letter in either case. -/
def digitOf? (c : Char) : Option Nat :=
  if 'a' ≤ c ∧ c ≤ 'z' then some (c.toNat - 0x61)
  else if 'A' ≤ c ∧ c ≤ 'Z' then some (c.toNat - 0x41)
  else if '0' ≤ c ∧ c ≤ '9' then some (c.toNat - 0x16)
  else none

/-- The least digit that does not end a number, at the place whose weight index is `k`. -/
def threshold (k bias : Nat) : Nat := max 1 (min 26 (k - bias))

/-- Brings a number down to at most 455, and how far the bias moves for that. -/
def scaleDown (delta moved : Nat) : Nat × Nat :=
  if 455 < delta then scaleDown (delta / 35) (moved + 36) else (delta, moved)
termination_by delta
decreasing_by exact Nat.div_lt_self (by omega) (by omega)

/-- The bias after a number, when `count` characters are placed. -/
def adapt (delta count : Nat) (first : Bool) : Nat :=
  let halved := if first then delta / 700 else delta / 2
  let (small, moved) := scaleDown (halved + halved / count) 0
  moved + 36 * small / (small + 38)

/-- A number in digits, from the place of index `k` on. -/
def writeNumber (bias k n : Nat) : List Char :=
  let t := threshold k bias
  if n < t then [digitChar n]
  else digitChar (t + (n - t) % (36 - t)) :: writeNumber bias (k + 36) ((n - t) / (36 - t))
termination_by n
decreasing_by
  have h : 1 ≤ threshold k bias := Nat.le_max_left _ _
  exact Nat.lt_of_le_of_lt (Nat.div_le_self _ _) (by omega)

/-- What is written so far, how much was passed over since, the bias, and how many characters are
placed. -/
structure Writer where
  digits : List Char := []
  passed : Nat := 0
  bias : Nat := 72
  placed : Nat

/-- Passes over a character, or places it if it is the one in turn. -/
def Writer.step (ascii point : Nat) (w : Writer) (c : Char) : Writer :=
  if c.toNat < point then { w with passed := w.passed + 1 }
  else if c.toNat = point then
    { digits := w.digits ++ writeNumber w.bias 36 w.passed, passed := 0
      bias := adapt w.passed (w.placed + 1) (w.placed == ascii), placed := w.placed + 1 }
  else w

/-- Places the characters with the given code points in turn; `next` is the first not passed over. -/
def Writer.place (text : List Char) (ascii : Nat) : List Nat → Nat → Writer → Writer
  | [], _, w => w
  | point :: points, next, w =>
    let w := { w with passed := w.passed + (point - next) * (w.placed + 1) }
    let w := text.foldl (Writer.step ascii point) w
    place text ascii points (point + 1) { w with passed := w.passed + 1 }

/-- The code points beyond ASCII, each once and in order. -/
def pointsOf (text : List Char) : List Nat :=
  ((text.filter (!Text.isAscii ·)).map Char.toNat).eraseDups.mergeSort

/-- Writes a text. -/
def encode (text : List Char) : List Char :=
  let ascii := text.filter Text.isAscii
  let w := Writer.place text ascii.length (pointsOf text) 0x80 { placed := ascii.length }
  (if ascii.isEmpty then [] else ascii ++ ['-']) ++ w.digits

/-- Reads a number from the place of index `k` on, with the weight and the sum so far: the number, and
what comes after it. -/
def readNumber (bias : Nat) : List Char → (k weight sum : Nat) → Option (Nat × List Char)
  | [], _, _, _ => none
  | c :: cs, k, weight, sum =>
    match digitOf? c with
    | none => none
    | some d =>
      let t := threshold k bias
      if d < t then some (sum + d * weight, cs)
      else readNumber bias cs (k + 36) (weight * (36 - t)) (sum + d * weight)

theorem length_readNumber (bias : Nat) (cs : List Char) (k weight sum : Nat) (r : Nat × List Char)
    (h : readNumber bias cs k weight sum = some r) : r.2.length < cs.length := by
  induction cs generalizing k weight sum with
  | nil => cases h
  | cons c cs ih =>
    simp only [readNumber] at h
    split at h
    · cases h
    · split at h
      · cases h
        exact Nat.lt_succ_self _
      · exact Nat.lt_succ_of_lt (ih _ _ _ h)

/-- Reads the places of the characters beyond ASCII; the last one was `point`, and `place` is where
the next would go. -/
def readPlaces (bias point place : Nat) (text : List Char) : List Char → Option (List Char)
  | [] => some text
  | c :: cs =>
    match h : readNumber bias (c :: cs) 36 1 0 with
    | none => none
    | some (delta, rest) =>
      let count := text.length + 1
      let point := point + (place + delta) / count
      let place := (place + delta) % count
      if point.isValidChar then
        readPlaces (adapt delta count (text.all Text.isAscii)) point (place + 1)
          (text.insertIdx place (Char.ofNat point)) rest
      else none
termination_by cs => cs.length
decreasing_by exact length_readNumber _ _ _ _ _ _ h

/-- Reads what was written for a text. -/
def decode? (cs : List Char) : Option (List Char) :=
  let places := (cs.reverse.takeWhile (· ≠ '-')).reverse
  readPlaces 72 0x80 0 (cs.take (cs.length - places.length - 1)) places

end PullReview.Domain.Punycode
