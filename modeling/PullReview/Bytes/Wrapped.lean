import PullReview.Bytes.Inflate

/-!
# Wrapped deflated data

Deflated data come in two wrappings, each with a header before them and a check after them. The zlib
wrapping checks a sum of the bytes, the gzip wrapping their remainder as a polynomial and their
number. What comes after the check is left alone.
-/

namespace PullReview.Bytes

/-- What wrapped data hold: none if they are corrupt, what was read so far if they break off. -/
abbrev Unwrapped := Option (List UInt8)

/-- The number of bytes, the most significant first. -/
def bigEndian (bytes : List UInt8) : Nat := bytes.foldl (fun n b => 256 * n + b.toNat) 0

/-- The number of bytes, the least significant first. -/
def littleEndian (bytes : List UInt8) : Nat := bigEndian bytes.reverse

/-- The next `n` bytes and the rest. -/
def takeExactly (n : Nat) (bytes : List UInt8) : Except Break (List UInt8 × List UInt8) :=
  if bytes.length < n then .error .short else .ok (bytes.take n, bytes.drop n)

/-- What the result of reading amounts to, given what was read before. -/
def settle (held : List UInt8) : Except Break Unit → Unwrapped
  | .error .corrupt => none
  | .error .short | .ok () => some held

/-! ## zlib -/

/-- The sum of bytes and the sum of these sums, modulo the greatest prime below 65536. -/
def adler32 (bytes : List UInt8) : Nat :=
  let (a, b) := bytes.foldl
    (fun (a, b) byte => ((a + byte.toNat) % 65521, (a + byte.toNat + b) % 65521)) (1, 0)
  65536 * b + a

/-- Reads the header of the zlib wrapping: the bytes after it. Data that need a dictionary are of no
use. -/
def zlibHeader (bytes : List UInt8) : Except Break (List UInt8) := do
  let (header, rest) ← takeExactly 2 bytes
  let method := (header.headD 0).toNat
  if bigEndian header % 31 ≠ 0 ∨ method % 16 ≠ 8 ∨ 7 < method / 16 then .error .corrupt
  else if (bigEndian header).testBit 5 then
    let _ ← takeExactly 4 rest
    .error .corrupt
  else return rest

/-- What data in the zlib wrapping hold. -/
def unzlib (bytes : List UInt8) : Unwrapped :=
  match zlibHeader bytes with
  | .error e => settle [] (.error e)
  | .ok rest =>
    let (held, after) := inflate rest
    settle held do
      let (check, _) ← takeExactly 4 (← after)
      if bigEndian check = adler32 held then .ok () else .error .corrupt

/-! ## gzip -/

/-- A step of the division by the check polynomial. -/
def crcStep (n : Nat) : Nat := if n % 2 = 1 then Nat.xor (n / 2) 0xEDB88320 else n / 2

/-- The remainder of bytes after division by the check polynomial. -/
def crc32 (bytes : List UInt8) : Nat :=
  let byteStep (n : Nat) (b : UInt8) : Nat :=
    (List.range 8).foldl (fun n _ => crcStep n) (Nat.xor n b.toNat)
  Nat.xor (bytes.foldl byteStep 0xFFFFFFFF) 0xFFFFFFFF

/-- Drops a text that ends with a zero byte, if there is one. -/
def dropZeroEnded (present : Bool) (bytes : List UInt8) : Except Break (List UInt8) :=
  if present then
    match bytes.dropWhile (· ≠ 0) with
    | [] => .error .short
    | _ :: rest => .ok rest
  else .ok bytes

/-- Drops bytes after their number, if they are there. -/
def dropCounted (present : Bool) (bytes : List UInt8) : Except Break (List UInt8) := do
  if present then
    let (count, rest) ← takeExactly 2 bytes
    return (← takeExactly (littleEndian count) rest).2
  else return bytes

/-- Reads the header of the gzip wrapping: the bytes after it. -/
def gzipHeader (bytes : List UInt8) : Except Break (List UInt8) := do
  let (magic, rest) ← takeExactly 2 bytes
  if magic ≠ [0x1F, 0x8B] then .error .corrupt
  else
    let (kind, rest) ← takeExactly 2 rest
    let flags := (kind.getD 1 0).toNat
    if kind.headD 0 ≠ 8 ∨ 32 ≤ flags then .error .corrupt
    else
      let (_, rest) ← takeExactly 6 rest
      let rest ← dropCounted (flags.testBit 2) rest
      let rest ← dropZeroEnded (flags.testBit 3) rest
      let rest ← dropZeroEnded (flags.testBit 4) rest
      if flags.testBit 1 then
        let (check, after) ← takeExactly 2 rest
        if littleEndian check = crc32 (bytes.take (bytes.length - rest.length)) % 65536 then .ok after
        else .error .corrupt
      else return rest

/-- What data in the gzip wrapping hold. -/
def gunzip (bytes : List UInt8) : Unwrapped :=
  match gzipHeader bytes with
  | .error e => settle [] (.error e)
  | .ok rest =>
    let (held, after) := inflate rest
    settle held do
      let (check, rest) ← takeExactly 4 (← after)
      if littleEndian check ≠ crc32 held then .error .corrupt
      else
        let (size, _) ← takeExactly 4 rest
        if littleEndian size = held.length % 4294967296 then .ok () else .error .corrupt

/-- What deflated data hold, in the zlib wrapping or, failing that, in none. -/
def undeflate (bytes : List UInt8) : Unwrapped :=
  (unzlib bytes).or (let (held, after) := inflate bytes; settle held (after.map fun _ => ()))

end PullReview.Bytes
