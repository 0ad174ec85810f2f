/-!
# UTF-8 with replacement

Decoding that never fails: each longest stretch of bytes that begins a character but does not end
one is read as U+FFFD, and so is each byte that cannot begin one.
-/

namespace PullReview.Bytes

/-- The bytes of a text in UTF-8. -/
def utf8 (cs : List Char) : List UInt8 := (String.ofList cs).toUTF8.toList

def isBetween (low high : Nat) (b : UInt8) : Bool := low ≤ b.toNat && b.toNat ≤ high

/-- Whether `b` may come second after the first byte `a` of a character of three or four bytes. -/
def maySecond (a b : UInt8) : Bool :=
  if a = 0xE0 then isBetween 0xA0 0xBF b
  else if a = 0xED then isBetween 0x80 0x9F b
  else if a = 0xF0 then isBetween 0x90 0xBF b
  else if a = 0xF4 then isBetween 0x80 0x8F b
  else isBetween 0x80 0xBF b

/-- The payload of a continuation byte. -/
def payload (b : UInt8) : Nat := b.toNat % 64

/-- Stands for bytes that are not well-formed. -/
def replacement : Char := '\uFFFD'

/-- The bytes of a character after its first two: its character and how many bytes it takes, or how
many bytes are replaced. -/
def longChar (a b : UInt8) : List UInt8 → Char × Nat
  | [] => (replacement, 2)
  | c :: rest =>
    if !isBetween 0x80 0xBF c then (replacement, 2)
    else if a.toNat < 0xF0 then (Char.ofNat ((a.toNat % 16 * 64 + payload b) * 64 + payload c), 3)
    else
      match rest with
      | [] => (replacement, 3)
      | d :: _ =>
        if isBetween 0x80 0xBF d then
          (Char.ofNat (((a.toNat % 8 * 64 + payload b) * 64 + payload c) * 64 + payload d), 4)
        else (replacement, 3)

/-- The character that begins with byte `a`, and how many bytes are read for it. -/
def firstChar (a : UInt8) (rest : List UInt8) : Char × Nat :=
  if a.toNat < 0x80 then (Char.ofNat a.toNat, 1)
  else
    match rest with
    | [] => (replacement, 1)
    | b :: more =>
      if isBetween 0xC2 0xDF a && isBetween 0x80 0xBF b then
        (Char.ofNat (a.toNat % 32 * 64 + payload b), 2)
      else if isBetween 0xE0 0xF4 a && maySecond a b then longChar a b more
      else (replacement, 1)

/-- Decodes UTF-8 after `skip` bytes, replacing what is not well-formed. -/
def decodeFrom (skip : Nat) : List UInt8 → List Char
  | [] => []
  | a :: rest =>
    match skip with
    | skip + 1 => decodeFrom skip rest
    | 0 => (firstChar a rest).1 :: decodeFrom ((firstChar a rest).2 - 1) rest

/-- Decodes UTF-8, replacing what is not well-formed. -/
def decodeLossy (bytes : List UInt8) : List Char := decodeFrom 0 bytes

end PullReview.Bytes
