/-!
# Base64

Three bytes are written as four characters of six bits each; an incomplete group is filled up with
equals signs.

| here | there |
| --- | --- |
| `toBase64` | `b64encode`, by which the client writes the credentials of an address |
-/

namespace PullReview.Bytes

/-- The character for six bits. -/
def sixBits (n : Nat) : Char :=
  if n < 26 then Char.ofNat (0x41 + n)
  else if n < 52 then Char.ofNat (0x61 + (n - 26))
  else if n < 62 then Char.ofNat (0x30 + (n - 52))
  else if n = 62 then '+'
  else '/'

/-- Writes bytes in Base64. -/
def toBase64 : List UInt8 → List Char
  | [] => []
  | [a] => [sixBits (a.toNat / 4), sixBits (a.toNat % 4 * 16), '=', '=']
  | [a, b] =>
    [sixBits (a.toNat / 4), sixBits (a.toNat % 4 * 16 + b.toNat / 16), sixBits (b.toNat % 16 * 4), '=']
  | a :: b :: c :: rest =>
    sixBits (a.toNat / 4) :: sixBits (a.toNat % 4 * 16 + b.toNat / 16) ::
      sixBits (b.toNat % 16 * 4 + c.toNat / 64) :: sixBits (c.toNat % 64) :: toBase64 rest

end PullReview.Bytes
