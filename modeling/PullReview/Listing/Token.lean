import PullReview.Listing.Exchange

/-!
# Tokens

The token under which files are listed. Without an app it is the configured one. An app signs a
short-lived token with its key, given as text or in a file, and exchanges it for a token of the
installation; whatever value the reply has under `token` is taken.

| here | there |
| --- | --- |
| `Surroundings` | the key file, `jwt.encode` and the room for JSON |
| `signingKey` | `_private_key` (github_service:73-83) |
| `signing` | `_build_app_jwt` (github_service:68-71) |
| `tokenFor` | `get_installation_token` (github_service:39-66) |
-/

namespace PullReview.Listing

/-- What a listing finds where it runs. -/
structure Surroundings where
  /-- What is read from a path, if there is such a file. -/
  files : String → Option (List UInt8) := fun _ => none
  /-- The signed token as it is sent, if the key can sign. -/
  sign : Signing → Option String
  /-- How many arrays and objects a reply may nest. -/
  room : Nat

/-- Line ends in a key file: CR LF and CR are read as LF. -/
def unixLines : List Char → List Char
  | '\r' :: '\n' :: cs => '\n' :: unixLines cs
  | '\r' :: cs => '\n' :: unixLines cs
  | c :: cs => c :: unixLines cs
  | [] => []

/-- A key given as text, where a backslash and an `n` stand for a line feed. -/
def inlineKey : List Char → List Char
  | '\\' :: 'n' :: cs => '\n' :: inlineKey cs
  | c :: cs => c :: inlineKey cs
  | [] => []

def misconfigured : Rejection :=
  { message := "GITHUB_APP_ID is set but neither GITHUB_PRIVATE_KEY nor GITHUB_PRIVATE_KEY_PATH is configured"
    statusCode := 500, code := "github_app_misconfigured" }

/-- The app's key: the one given as text comes before the file (github_service:73-83). -/
def signingKey (settings : Settings) (around : Surroundings) : Except Error String :=
  if settings.githubPrivateKey ≠ "" then .ok (String.ofList (inlineKey settings.githubPrivateKey.toList))
  else if settings.githubPrivateKeyPath ≠ "" then
    match around.files settings.githubPrivateKeyPath with
    | none => .error .missingKeyFile
    | some bytes =>
      match String.fromUTF8? (ByteArray.mk bytes.toArray) with
      | none => .error .undecodableKeyFile
      | some text => .ok (String.ofList (unixLines text.toList))
  else .error (.rejected misconfigured)

/-- What the app signs at a time: valid from a minute before for ten minutes (github_service:68-71). -/
def signing (settings : Settings) (now : Int) (key : String) : Signing :=
  { issuedAt := now - 60, expiresAt := now + 540, issuer := settings.githubAppId, key }

def tokenUnreachable : Rejection :=
  { message := "Unable to reach GitHub API while creating installation token"
    statusCode := 502, code := "github_api_unreachable" }

def tokenRefused (installation status : Int) : Rejection :=
  { message := s!"Could not create installation token for installation {installation}"
    statusCode := if [401, 403, 404].contains status then 403 else 502
    code := "github_installation_token_failed" }

/-- The token in the value of a reply. -/
def tokenIn : Json → Except Error Json
  | .obj members =>
    match Members.get? members "token" with
    | some token => .ok token
    | none => .error .missingToken
  | _ => .error .unusableReply

/-- The token in the reply to the exchange. -/
def tokenOf (room : Nat) (installation : Int) (request : Outgoing) (reply : Reply) : Except Error Json := do
  let r ← reply.take request tokenUnreachable
  if 400 ≤ r.status then .error (.rejected (tokenRefused installation r.status))
  else tokenIn (← bodyValue room r.body)

/-- The request for the token of an installation, under the token of the app. -/
def tokenRequest (settings : Settings) (installation : Int) (appToken : String) : Except Error Outgoing :=
  Outgoing.prepare settings .post
    s!"{baseAddress settings}/app/installations/{installation}/access_tokens" none (.str appToken)

/-- Obtains the token of an installation at a time (github_service:39-66). -/
def tokenFor (settings : Settings) (around : Surroundings) (now installation : Int) (s : Session) :
    Except Error Json × Session :=
  if settings.githubAppId = "" then (.ok (.str (Text.trimmed settings.githubToken)), s)
  else
    match signingKey settings around with
    | .error e => (.error e, s)
    | .ok key =>
      let signing := signing settings now key
      let s := { s with signed := s.signed ++ [signing] }
      match around.sign signing with
      | none => (.error .unusableKey, s)
      | some appToken =>
        match tokenRequest settings installation appToken with
        | .error e => (.error e, s)
        | .ok request =>
          let (reply, s) := s.send request
          (tokenOf around.room installation request reply, s)

end PullReview.Listing
