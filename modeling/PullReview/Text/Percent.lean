import PullReview.Bytes.Hex
import PullReview.Bytes.Utf8

/-!
# Percent encoding

A character that may not stand in a part of an address is written as the bytes of its UTF-8 form,
each a percent sign and two upper-case hexadecimal digits. Reading takes every such triple for its
byte, leaves a percent sign that begins none, and never fails.
-/

namespace PullReview.Text

/-- A byte as a percent sign and two upper-case hexadecimal digits. -/
def percentByte (b : UInt8) : List Char :=
  ['%', (Bytes.hexDigit (b.toNat / 16)).toUpper, (Bytes.hexDigit (b.toNat % 16)).toUpper]

/-- Writes every character that is not kept in percent form. -/
def percentEncode (keep : Char → Bool) (cs : List Char) : List Char :=
  cs.flatMap fun c => if keep c then [c] else (Bytes.utf8 [c]).flatMap percentByte

/-- The bytes of a text in which triples stand for bytes. -/
def percentBytes : List Char → List UInt8
  | [] => []
  | '%' :: a :: b :: cs =>
    match Bytes.hexValue? a, Bytes.hexValue? b with
    | some high, some low => UInt8.ofNat (16 * high + low) :: percentBytes cs
    | _, _ => 0x25 :: percentBytes (a :: b :: cs)
  | c :: cs => Bytes.utf8 [c] ++ percentBytes cs

/-- Reads a text in percent form. -/
def percentDecode (cs : List Char) : List Char := Bytes.decodeLossy (percentBytes cs)

/-- Cuts a text at every `separator`. -/
def splitOn (separator : Char) (cs : List Char) : List (List Char) :=
  cs.foldr (fun c parts => if c = separator then [] :: parts else (c :: parts.headD []) :: parts.tail) [[]]

theorem splitOn_cons (separator c : Char) (cs : List Char) :
    splitOn separator (c :: cs) =
      if c = separator then [] :: splitOn separator cs
      else (c :: (splitOn separator cs).headD []) :: (splitOn separator cs).tail := rfl

theorem splitOn_of_not_mem {separator : Char} {cs : List Char} (h : separator ∉ cs) :
    splitOn separator cs = [cs] := by
  induction cs with
  | nil => rfl
  | cons c cs ih =>
    rw [List.mem_cons, not_or] at h
    rw [splitOn_cons, if_neg (Ne.symm h.1), ih h.2]
    rfl

theorem splitOn_append_separator {separator : Char} {cs : List Char} (h : separator ∉ cs) (ds : List Char) :
    splitOn separator (cs ++ separator :: ds) = cs :: splitOn separator ds := by
  induction cs with
  | nil => rw [List.nil_append, splitOn_cons, if_pos rfl]
  | cons c cs ih =>
    rw [List.mem_cons, not_or] at h
    rw [List.cons_append, splitOn_cons, if_neg (Ne.symm h.1), ih h.2]
    rfl

/-- Joins texts with `separator` between them. -/
def joinWith (separator : Char) : List (List Char) → List Char
  | [] => []
  | [part] => part
  | part :: parts => part ++ separator :: joinWith separator parts

end PullReview.Text
