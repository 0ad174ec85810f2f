import PullReview.Bytes.Sha256

/-!
# Keyed digests

The keyed-hash message authentication code over SHA-256. A key longer than a block is replaced by
its digest, and a shorter one is filled up with zeros.

| here | there |
| --- | --- |
| `Hmac.code` | `hmac.new(secret, payload, sha256)` (security:15) |
-/

namespace PullReview.Bytes.Hmac

/-- The key as one whole block. -/
def blockKey (key : List UInt8) : List UInt8 :=
  let short := if Sha256.blockSize < key.length then Sha256.digest key else key
  short ++ List.replicate (Sha256.blockSize - short.length) 0

/-- The code of a message under a key. -/
def code (key message : List UInt8) : List UInt8 :=
  let block := blockKey key
  let inner := Sha256.digest (block.map (· ^^^ 0x36) ++ message)
  Sha256.digest (block.map (· ^^^ 0x5c) ++ inner)

end PullReview.Bytes.Hmac
