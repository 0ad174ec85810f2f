import PullReview.Json.Reader

/-!
# JSON in bytes

A JSON text may come in UTF-8, UTF-16 or UTF-32. A byte order mark tells which; without one, the
places of the zero bytes among the first four tell, since a JSON text starts with an ASCII
character. Bytes that are not well-formed in the encoding are refused; half of a surrogate pair is
let through.

| here | there |
| --- | --- |
| `detect` | `json.detect_encoding` |
| `decode?` | `bytes.decode(encoding, "surrogatepass")` |
| `ofBytes` | `json.loads` of bytes (main:103) |
-/

namespace PullReview.Json

/-- Encodings of text, those of more than one byte with their byte order. -/
inductive Encoding where
  | utf8
  | utf16 (bigEndian : Bool)
  | utf32 (bigEndian : Bool)
  deriving DecidableEq, Repr

/-- The encoding of a JSON text and the bytes after the byte order mark. -/
def detect (bytes : List UInt8) : Encoding × List UInt8 :=
  match bytes with
  | 0x00 :: 0x00 :: 0xFE :: 0xFF :: rest => (.utf32 true, rest)
  | 0xFF :: 0xFE :: 0x00 :: 0x00 :: rest => (.utf32 false, rest)
  | 0xFE :: 0xFF :: rest => (.utf16 true, rest)
  | 0xFF :: 0xFE :: rest => (.utf16 false, rest)
  | 0xEF :: 0xBB :: 0xBF :: rest => (.utf8, rest)
  | a :: b :: c :: d :: _ =>
    if a = 0 then (if b = 0 then .utf32 true else .utf16 true, bytes)
    else if b = 0 then (if c = 0 ∧ d = 0 then .utf32 false else .utf16 false, bytes)
    else (.utf8, bytes)
  | [a, b] => (if a = 0 then .utf16 true else if b = 0 then .utf16 false else .utf8, bytes)
  | _ => (.utf8, bytes)

/-- The payload of a continuation byte. -/
def continuation? (b : UInt8) : Option Nat :=
  if 0x80 ≤ b.toNat ∧ b.toNat < 0xC0 then some (b.toNat - 0x80) else none

/-- Decodes UTF-8; no character may be written longer than needed. -/
def ofUtf8? : List UInt8 → Option (List CodePoint)
  | [] => some []
  | a :: rest =>
    if a.toNat < 0x80 then return .char (Char.ofNat a.toNat) :: (← ofUtf8? rest)
    else
      match rest with
      | [] => none
      | b :: rest => do
        let b ← continuation? b
        if 0xC2 ≤ a.toNat ∧ a.toNat < 0xE0 then
          return (← CodePoint.ofNat? ((a.toNat - 0xC0) * 64 + b)) :: (← ofUtf8? rest)
        else
          match rest with
          | [] => none
          | c :: rest => do
            let c ← continuation? c
            if 0xE0 ≤ a.toNat ∧ a.toNat < 0xF0 then
              let n := ((a.toNat - 0xE0) * 64 + b) * 64 + c
              if n < 0x800 then none else return (← CodePoint.ofNat? n) :: (← ofUtf8? rest)
            else
              match rest with
              | [] => none
              | d :: rest => do
                let d ← continuation? d
                if 0xF0 ≤ a.toNat ∧ a.toNat < 0xF5 then
                  let n := (((a.toNat - 0xF0) * 64 + b) * 64 + c) * 64 + d
                  if n < 0x10000 then none else return (← CodePoint.ofNat? n) :: (← ofUtf8? rest)
                else none

/-- The code units of two bytes each. -/
def units16? (bigEndian : Bool) : List UInt8 → Option (List Nat)
  | [] => some []
  | [_] => none
  | a :: b :: rest => do
    let unit := if bigEndian then 256 * a.toNat + b.toNat else 256 * b.toNat + a.toNat
    return unit :: (← units16? bigEndian rest)

/-- The code points of UTF-16 code units, each of which is one: two that make a pair are a character. -/
def ofUnits16 (units : List Nat) : List CodePoint := Text.joinPairs (units.filterMap CodePoint.ofNat?)

/-- Decodes UTF-32. -/
def ofUtf32? (bigEndian : Bool) : List UInt8 → Option (List CodePoint)
  | [] => some []
  | a :: b :: c :: d :: rest => do
    let n :=
      if bigEndian then ((a.toNat * 256 + b.toNat) * 256 + c.toNat) * 256 + d.toNat
      else ((d.toNat * 256 + c.toNat) * 256 + b.toNat) * 256 + a.toNat
    return (← CodePoint.ofNat? n) :: (← ofUtf32? bigEndian rest)
  | _ => none

/-- The text that bytes hold in an encoding. -/
def decode? (encoding : Encoding) (bytes : List UInt8) : Option (List CodePoint) :=
  match encoding with
  | .utf8 => ofUtf8? bytes
  | .utf16 bigEndian => (units16? bigEndian bytes).map ofUnits16
  | .utf32 bigEndian => ofUtf32? bigEndian bytes

/-- Why bytes were not read as JSON. -/
inductive BytesError where
  | undecodable
  | unreadable (cause : ReadError)
  deriving DecidableEq, Repr

/-- Reads JSON from bytes, with room for so many arrays and objects inside one another. -/
def ofBytes (room : Nat) (bytes : List UInt8) : Except BytesError Json :=
  let (encoding, rest) := detect bytes
  match decode? encoding rest with
  | none => .error .undecodable
  | some cs => (read room cs).mapError .unreadable

end PullReview.Json
