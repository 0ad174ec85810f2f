/-!
# Deflated data

Deflated data are a series of blocks of bits. A block holds bytes as they are, or symbols in prefix
codes that are fixed or stand at its front; a symbol is a byte or repeats bytes that came before. The
bits are taken from the least significant of each byte on. Data that break off give what was read so
far; data that are corrupt give nothing.

| here | there |
| --- | --- |
| `inflate` | `zlib.decompressobj`, by which the client unpacks content |
-/

namespace PullReview.Bytes

/-- Why reading stops. -/
inductive Break where
  /-- The data break off. -/
  | short
  | corrupt
  deriving DecidableEq, Repr

abbrev Bits := List Bool

/-- The bits of bytes, in the order in which they are read. -/
def bitsOf (bytes : List UInt8) : Bits :=
  bytes.flatMap fun b => (List.range 8).map fun i => b.toNat.testBit i

/-- The number that the next `n` bits make, the least significant first. -/
def takeBits : Nat → Bits → Except Break (Nat × Bits)
  | 0, bits => .ok (0, bits)
  | _ + 1, [] => .error .short
  | n + 1, b :: bits => do
    let (value, rest) ← takeBits n bits
    return (b.toNat + 2 * value, rest)

/-! ## Prefix codes -/

/-- A prefix code: how many code words there are of each length from 1 on, and the symbols in the order
of their code words. -/
structure PrefixCode where
  counts : List Nat
  symbols : List Nat
  deriving Repr

namespace PrefixCode

/-- The greatest length of a code word. -/
def lengthLimit : Nat := 15

/-- The code in which the symbols from 0 on have code words of the given lengths, 0 for none. Code
words are assigned by length and then by symbol. -/
def ofLengths (lengths : List Nat) : PrefixCode :=
  let longest := lengths.foldl max 0
  let ofLength (l : Nat) : List Nat := (lengths.zipIdx.filter (·.1 == l)).map (·.2)
  { counts := (List.range (max 1 longest)).map fun l => lengths.count (l + 1)
    symbols := (List.range longest).flatMap fun l => ofLength (l + 1) }

/-- How many code words of the greatest length are left over; none if there are too many. -/
def spare (lengths : List Nat) : Option Nat :=
  (List.range lengthLimit).foldl (fun left l => do
    let left ← left
    let used := lengths.count (l + 1)
    if 2 * left < used then none else some (2 * left - used)) (some 1)

/-- Whether lengths make a code that may be used: no code word is left over, but a code may be empty,
and, where `single`, have one word of one bit. -/
def isUsable (single : Bool) (lengths : List Nat) : Bool :=
  let longest := lengths.foldl max 0
  match spare lengths with
  | none => false
  | some left => left == 0 || longest == 0 || single && longest == 1

/-- Reads a symbol given the words of the lengths still to come: `word` is the one read so far and
`first` the first of its length, both with a bit to come. -/
def nextFrom (word first : Nat) : List Nat → List Nat → Bits → Except Break (Nat × Bits)
  | [], _, _ => .error .corrupt
  | _ :: _, _, [] => .error .short
  | count :: counts, symbols, b :: bits =>
    let word := word + b.toNat
    if word < first + count then .ok (symbols.getD (word - first) 0, bits)
    else nextFrom (2 * word) (2 * (first + count)) counts (symbols.drop count) bits

/-- Reads a symbol. -/
def next (code : PrefixCode) (bits : Bits) : Except Break (Nat × Bits) :=
  nextFrom 0 0 code.counts code.symbols bits

end PrefixCode

/-! ## Symbols -/

/-- The codes of a block: one for bytes, the end and lengths, one for distances. -/
structure BlockCodes where
  main : PrefixCode
  distance : PrefixCode
  deriving Repr

/-- The code words of a block with fixed codes. -/
def fixedCodes : BlockCodes where
  main := .ofLengths
    (List.replicate 144 8 ++ List.replicate 112 9 ++ List.replicate 24 7 ++ List.replicate 8 8)
  distance := .ofLengths (List.replicate 32 5)

/-- The least length of each length symbol, and how many bits are added to it. -/
def lengthRows : List (Nat × Nat) :=
  [(3, 0), (4, 0), (5, 0), (6, 0), (7, 0), (8, 0), (9, 0), (10, 0), (11, 1), (13, 1), (15, 1), (17, 1),
    (19, 2), (23, 2), (27, 2), (31, 2), (35, 3), (43, 3), (51, 3), (59, 3), (67, 4), (83, 4), (99, 4),
    (115, 4), (131, 5), (163, 5), (195, 5), (227, 5), (258, 0)]

/-- The least distance of each distance symbol, and how many bits are added to it. -/
def distanceRows : List (Nat × Nat) :=
  [(1, 0), (2, 0), (3, 0), (4, 0), (5, 1), (7, 1), (9, 2), (13, 2), (17, 3), (25, 3), (33, 4), (49, 4),
    (65, 5), (97, 5), (129, 6), (193, 6), (257, 7), (385, 7), (513, 8), (769, 8), (1025, 9), (1537, 9),
    (2049, 10), (3073, 10), (4097, 11), (6145, 11), (8193, 12), (12289, 12), (16385, 13), (24577, 13)]

/-- The number that a symbol with a row stands for, after the bits that are added. -/
def rowValue (rows : List (Nat × Nat)) (symbol : Nat) (bits : Bits) : Except Break (Nat × Bits) :=
  match rows[symbol]? with
  | none => .error .corrupt
  | some (least, extra) => do
    let (more, bits) ← takeBits extra bits
    return (least + more, bits)

/-- The length and the distance of a repetition whose length symbol was read. -/
def repetition (codes : BlockCodes) (symbol : Nat) (bits : Bits) :
    Except Break ((Nat × Nat) × Bits) := do
  let (length, bits) ← rowValue lengthRows (symbol - 257) bits
  let (symbol, bits) ← codes.distance.next bits
  let (distance, bits) ← rowValue distanceRows symbol bits
  return ((length, distance), bits)

/-- Repeats `length` bytes from `distance` back, one after the other. -/
def repeatBytes (distance : Nat) : Nat → Array UInt8 → Array UInt8
  | 0, out => out
  | length + 1, out => repeatBytes distance length (out.push (out.getD (out.size - distance) 0))

/-- Reads symbols up to the end of a block; no more than `fuel` are read, and each takes a bit. -/
def inflateSymbols (codes : BlockCodes) : Nat → Array UInt8 → Bits → Array UInt8 × Except Break Bits
  | 0, out, _ => (out, .error .short)
  | fuel + 1, out, bits =>
    match codes.main.next bits with
    | .error e => (out, .error e)
    | .ok (symbol, bits) =>
      if symbol < 256 then inflateSymbols codes fuel (out.push (UInt8.ofNat symbol)) bits
      else if symbol = 256 then (out, .ok bits)
      else
        match repetition codes symbol bits with
        | .error e => (out, .error e)
        | .ok ((length, distance), bits) =>
          if out.size < distance then (out, .error .corrupt)
          else inflateSymbols codes fuel (repeatBytes distance length out) bits

/-! ## Blocks -/

/-- The order in which the lengths for the code of lengths are given. -/
def lengthOrder : List Nat := [16, 17, 18, 0, 8, 7, 9, 6, 10, 5, 11, 4, 12, 3, 13, 2, 14, 1, 15]

/-- The next `n` numbers of three bits. -/
def takeTriples : Nat → Bits → Except Break (List Nat × Bits)
  | 0, bits => .ok ([], bits)
  | n + 1, bits => do
    let (value, bits) ← takeBits 3 bits
    let (values, bits) ← takeTriples n bits
    return (value :: values, bits)

/-- How often a symbol of the code of lengths repeats which length, given the lengths so far. -/
def lengthRun (symbol : Nat) (known : List Nat) (bits : Bits) : Except Break (List Nat × Bits) :=
  if symbol < 16 then .ok ([symbol], bits)
  else if symbol = 16 then do
    let (more, bits) ← takeBits 2 bits
    match known.getLast? with
    | none => .error .corrupt
    | some last => return (List.replicate (3 + more) last, bits)
  else do
    let (more, bits) ← if symbol = 17 then takeBits 3 bits else takeBits 7 bits
    return (List.replicate ((if symbol = 17 then 3 else 11) + more) 0, bits)

/-- Reads `total` lengths; `fuel` is as many at first. Where the code of lengths is empty, each bit is a
length of 0. -/
def takeLengths (code : PrefixCode) (total : Nat) :
    Nat → List Nat → Bits → Except Break (List Nat × Bits)
  | 0, known, bits => .ok (known, bits)
  | fuel + 1, known, bits =>
    if known.length = total then .ok (known, bits)
    else do
      let (symbol, bits) ←
        if code.symbols.isEmpty then (takeBits 1 bits).map fun r => (0, r.2) else code.next bits
      let (run, bits) ← lengthRun symbol known bits
      if total < known.length + run.length then .error .corrupt
      else takeLengths code total fuel (known ++ run) bits

/-- Reads the codes at the front of a block. -/
def takeCodes (bits : Bits) : Except Break (BlockCodes × Bits) := do
  let (mains, bits) ← takeBits 5 bits
  let (distances, bits) ← takeBits 5 bits
  let (triples, bits) ← takeBits 4 bits
  let mains := mains + 257
  let distances := distances + 1
  if 286 < mains ∨ 30 < distances then .error .corrupt
  else
    let (given, bits) ← takeTriples (triples + 4) bits
    let lengths := (List.range 19).map fun symbol => given.getD (lengthOrder.idxOf symbol) 0
    if !PrefixCode.isUsable false lengths then .error .corrupt
    else
      let total := mains + distances
      let (known, bits) ← takeLengths (.ofLengths lengths) total total [] bits
      let main := known.take mains
      let distance := known.drop mains
      if main.getD 256 0 = 0 ∨ !PrefixCode.isUsable true main ∨ !PrefixCode.isUsable true distance then
        .error .corrupt
      else return (⟨.ofLengths main, .ofLengths distance⟩, bits)

/-- Takes the next `n` bytes of a block that holds them as they are. -/
def takeBytes : Nat → Array UInt8 → Bits → Array UInt8 × Except Break Bits
  | 0, out, bits => (out, .ok bits)
  | n + 1, out, bits =>
    match takeBits 8 bits with
    | .error e => (out, .error e)
    | .ok (byte, bits) => takeBytes n (out.push (UInt8.ofNat byte)) bits

/-- The number of bytes in a block that holds them as they are. It is given twice, the second time with
all bits turned over. -/
def storedLength (bits : Bits) : Except Break (Nat × Bits) := do
  let (length, bits) ← takeBits 16 bits
  let (turned, bits) ← takeBits 16 bits
  if length + turned = 0xFFFF then return (length, bits) else .error .corrupt

/-- Reads the rest of a block of a kind. -/
def inflateBlock (kind : Nat) (out : Array UInt8) (bits : Bits) : Array UInt8 × Except Break Bits :=
  match kind with
  | 0 =>
    match storedLength (bits.drop (bits.length % 8)) with
    | .error e => (out, .error e)
    | .ok (length, bits) => takeBytes length out bits
  | 1 => inflateSymbols fixedCodes bits.length out bits
  | 2 =>
    match takeCodes bits with
    | .error e => (out, .error e)
    | .ok (codes, bits) => inflateSymbols codes bits.length out bits
  | _ => (out, .error .corrupt)

/-- Reads blocks up to the last; no more than `fuel` are read, and each takes bits. -/
def inflateBlocks : Nat → Array UInt8 → Bits → Array UInt8 × Except Break Bits
  | 0, out, _ => (out, .error .short)
  | fuel + 1, out, bits =>
    match takeBits 3 bits with
    | .error e => (out, .error e)
    | .ok (header, bits) =>
      match inflateBlock (header / 2) out bits with
      | (out, .error e) => (out, .error e)
      | (out, .ok bits) => if header % 2 = 1 then (out, .ok bits) else inflateBlocks fuel out bits

/-- What deflated data at the front of bytes hold, and the bytes after them or why there are none. -/
def inflate (bytes : List UInt8) : List UInt8 × Except Break (List UInt8) :=
  let bits := bitsOf bytes
  let (out, result) := inflateBlocks bits.length #[] bits
  (out.toList, result.map fun rest => bytes.drop (bytes.length - rest.length / 8))

end PullReview.Bytes
