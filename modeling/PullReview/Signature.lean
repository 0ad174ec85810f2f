import PullReview.Bytes.Hmac
import PullReview.Bytes.Hex
import PullReview.Text.Ascii

/-!
# Signatures of deliveries

A delivery is signed with the keyed digest of its raw body. Without a secret every delivery is
accepted; with one, the signature must be the computed text exactly. A signature with a character
beyond ASCII cannot be compared.

| here | there |
| --- | --- |
| `signatureOf` | `compute_signature` (security:14-16) |
| `verify` | `verify_signature` (security:19-24) |
-/

namespace PullReview

/-- The signature of a payload under a secret (security:14-16). -/
def signatureOf (secret : String) (payload : List UInt8) : String :=
  "sha256=" ++ String.ofList (Bytes.toHex (Bytes.Hmac.code secret.toUTF8.toList payload))

/-- The outcome of checking a signature. -/
inductive Verification where
  | accepted
  | rejected
  /-- The signature has a character beyond ASCII. -/
  | incomparable
  deriving DecidableEq, Repr

/-- Checks the signature of a payload; no signature is the empty text (security:19-24). -/
def verify (secret : String) (payload : List UInt8) (signature : String) : Verification :=
  if secret = "" then .accepted
  else if signature = "" then .rejected
  else if !signature.toList.all Text.isAscii then .incomparable
  else if signature = signatureOf secret payload then .accepted
  else .rejected

end PullReview
