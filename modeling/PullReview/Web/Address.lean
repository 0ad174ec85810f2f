import PullReview.Web.NumericHost
import PullReview.Domain.Lower
import PullReview.Domain.Name
import PullReview.Bytes.Base64
import PullReview.Text.Integer

/-!
# Web addresses

An address is cut into scheme, authority, path, query and fragment, and the authority into user, host
and port. In normal form scheme and host are in lower case, a host beyond ASCII is in the form in which
it is sent, the port that the scheme implies is left out, there are no `.` and `..` segments, and what
may not stand in its part is in percent form. A text with a control character, a host or a port that is
none, or a path that does not fit is no address.

| here | there |
| --- | --- |
| `Address.ofText?` | `httpx.URL`, or its `InvalidURL` |
-/

namespace PullReview.Web

/-- An address in normal form. -/
structure Address where
  scheme : List Char := []
  /-- The name and the password before the host, a colon between them. -/
  user : List Char := []
  host : List Char := []
  port : Option Int := none
  path : List Char := []
  query : Option (List Char) := none
  fragment : Option (List Char) := none
  deriving DecidableEq, Repr

namespace Address

/-! ## Characters -/

/-- Printable ASCII characters other than the ones listed. -/
def printableBut (excluded : List Char) (c : Char) : Bool :=
  0x20 < c.toNat && c.toNat < 0x7F && !excluded.contains c

/-- What may stand in a path. -/
def inPath : Char → Bool := printableBut ['"', '#', '<', '>', '?', '\x60', '\x7b', '\x7d']

/-- What may stand in a query. -/
def inQuery : Char → Bool := printableBut ['"', '#', '<', '>']

/-- What may stand in a fragment. -/
def inFragment : Char → Bool := printableBut ['"', '<', '>', '\x60']

/-- What may stand before the host. -/
def inUser (c : Char) : Bool := inPath c && !(['/', ';', '=', '@', '[', '\\', ']', '^', '|'].contains c)

/-- What may stand in a host that is a name in ASCII. -/
def inHost (c : Char) : Bool :=
  c.isAlphanum || "-._~!$&'()*+,;=\"%\\|".toList.contains c || ['\x60', '\x7b', '\x7d'].contains c

/-- What may stand in a scheme. -/
def inScheme (c : Char) : Bool := c.isAlphanum || c == '+' || c == '.' || c == '-'

/-! ## Parts -/

/-- The parts of an address as they are written; absent ones are empty where that is the same. -/
structure Parts where
  scheme : List Char
  authority : List Char
  path : List Char
  query : Option (List Char)
  fragment : Option (List Char)
  deriving DecidableEq, Repr

/-- The text before the first character that ends a part, and the rest. -/
def cutAt (ends : List Char) (cs : List Char) : List Char × List Char :=
  (cs.takeWhile fun c => !ends.contains c, cs.dropWhile fun c => !ends.contains c)

/-- The part after a mark, if the text starts with it, and the rest. -/
def markedPart (mark : Char) (ends : List Char) : List Char → Option (List Char) × List Char
  | c :: cs => if c = mark then (some (cutAt ends cs).1, (cutAt ends cs).2) else (none, c :: cs)
  | [] => (none, [])

/-- The scheme, if there is one, and the rest. A colon in front ends an empty scheme. -/
def cutScheme (cs : List Char) : List Char × List Char :=
  match cs.takeWhile inScheme, cs.dropWhile inScheme with
  | [], ':' :: rest => ([], rest)
  | first :: more, ':' :: rest => if first.isAlpha then (first :: more, rest) else ([], cs)
  | _, _ => ([], cs)

/-- The authority, if there is one, and the rest. -/
def cutAuthority : List Char → List Char × List Char
  | '/' :: '/' :: cs => cutAt ['/', '?', '#'] cs
  | cs => ([], cs)

/-- Cuts a text into the parts of an address. -/
def Parts.ofText (cs : List Char) : Parts :=
  let (scheme, cs) := cutScheme cs
  let (authority, cs) := cutAuthority cs
  let (path, cs) := cutAt ['?', '#'] cs
  let (query, cs) := markedPart '?' ['#'] cs
  let (fragment, _) := markedPart '#' [] cs
  { scheme, authority, path, query, fragment }

/-- The user, the host and the port of an authority. The last at sign ends the user; a host in brackets
ends with the last of them, another one before a colon. -/
def cutUser (authority : List Char) : List Char × List Char × List Char :=
  let rest := (authority.reverse.takeWhile (· ≠ '@')).reverse
  let user := (authority.take (authority.length - rest.length)).dropLast
  let bracketed := (rest.reverse.dropWhile (· ≠ ']')).reverse
  let host := if rest.head? = some '[' ∧ bracketed ≠ [] then bracketed else rest.takeWhile (· ≠ ':')
  let port := rest.drop host.length
  (user, host, if port.head? = some ':' then port.tail else port)

/-! ## Normal form -/

/-- A host in normal form, which for the long form is without its brackets. -/
def normalHost? (host : List Char) : Option (List Char) :=
  if host = [] then some []
  else if looksShort host then (if isShortHost host then some host else none)
  else if host.head? = some '[' ∧ host.getLast? = some ']' then
    (if isLongHost (host.drop 1).dropLast then some (host.drop 1).dropLast else none)
  else if host.all Text.isAscii then
    some (Text.percentEncode inHost (host.map Char.toLower))
  else (Domain.write (Domain.lower host)).toOption

/-- The port that a scheme implies. -/
def impliedPort? (scheme : List Char) : Option Int :=
  [("ftp", (21 : Int)), ("http", 80), ("https", 443), ("ws", 80), ("wss", 443)].lookup (String.ofList scheme)

/-- A port in normal form; the scheme is taken as it is written. -/
def normalPort? (scheme port : List Char) : Option (Option Int) :=
  if port = [] then some none
  else
    match Text.readInteger port with
    | .ok n => some (if impliedPort? scheme = some n then none else some n)
    | .error _ => none

/-- Whether a path may follow a scheme and an authority, which may be absent. -/
def fits (hasScheme hasAuthority : Bool) (path : List Char) : Bool :=
  if hasAuthority then path.isEmpty || path.head? == some '/'
  else hasScheme || !(['/', '/'].isPrefixOf path || path.head? == some ':')

/-- The segments that are kept, latest first, once another one follows. -/
def keepSegment (kept : List (List Char)) (segment : List Char) : List (List Char) :=
  if segment = ['.'] then kept
  else if segment = ['.', '.'] then (if kept = [[]] then kept else kept.tail)
  else segment :: kept

/-- Drops the `.` segments, and each `..` segment with the one before it. -/
def dropDots (path : List Char) : List Char :=
  let segments := Text.splitOn '/' path
  if segments.any fun s => s == ['.'] || s == ['.', '.'] then
    Text.joinWith '/' (segments.foldl keepSegment []).reverse
  else path

/-- The greatest length of an address and of each of its parts. -/
def lengthLimit : Nat := 65536

/-- The address of parts, with another host where one is given. -/
def ofParts? (p : Parts) (otherHost : Option (List Char)) : Option Address := do
  let (user, host, port) := cutUser p.authority
  let host ← normalHost? (otherHost.getD host)
  let port ← normalPort? p.scheme port
  let hasScheme := !p.scheme.isEmpty
  let hasAuthority := !user.isEmpty || !host.isEmpty || port.isSome
  let written := [p.scheme, p.authority, p.path, p.query.getD [], p.fragment.getD []]
  if !fits hasScheme hasAuthority p.path || written.any (lengthLimit < ·.length) then none
  else
    let path := if hasScheme || hasAuthority then dropDots p.path else p.path
    return { scheme := p.scheme.map Char.toLower, user := Text.percentEncode inUser user, host, port
             path := Text.percentEncode inPath path, query := p.query.map (Text.percentEncode inQuery)
             fragment := p.fragment.map (Text.percentEncode inFragment) }

/-- Reads an address. -/
def ofText? (cs : List Char) : Option Address :=
  if lengthLimit < cs.length ∨ cs.any Text.isControl then none else ofParts? (.ofText cs) none

/-! ## Text -/

/-- Host and port as they are written. -/
def netloc (a : Address) : List Char :=
  (if a.host.contains ':' then '[' :: a.host ++ [']'] else a.host) ++
    a.port.elim [] fun port => ':' :: (toString port).toList

def authority (a : Address) : List Char := (if a.user.isEmpty then [] else a.user ++ ['@']) ++ a.netloc

/-- The address as text. -/
def text (a : Address) : List Char :=
  (if a.scheme.isEmpty then [] else a.scheme ++ [':']) ++
    (if a.authority.isEmpty then [] else '/' :: '/' :: a.authority) ++ a.path ++
    a.query.elim [] ('?' :: ·) ++ a.fragment.elim [] ('#' :: ·)

/-- The parts as they are written. -/
def parts (a : Address) : Parts :=
  { scheme := a.scheme, authority := a.authority, path := a.path, query := a.query, fragment := a.fragment }

/-- Path and query as they are asked for. -/
def target (a : Address) : List Char :=
  (if a.path.isEmpty then ['/'] else a.path) ++ a.query.elim [] ('?' :: ·)

/-! ## Other addresses -/

/-- The address with another query. It is read again from its parts, so a port that the scheme implies
is left out even if the scheme was in capitals. -/
def withQuery? (a : Address) (query : List Char) : Option Address :=
  ofParts? { a.parts with query := some query } none

/-- Whether an address stands by itself, having a scheme and a host. -/
def isAbsolute (a : Address) : Bool := !a.scheme.isEmpty && !a.host.isEmpty

/-- The address that is asked for under a base: the address itself if it stands by itself, else its path
and query behind those of the base. -/
def under? (base a : Address) : Option Address :=
  if a.isAbsolute then some a
  else
    let target := base.target ++ a.target.dropWhile (· == '/')
    let (path, query) := cutAt ['?'] target
    ofParts? { base.parts with path, query := (markedPart '?' [] query).1 } none

/-- The host as it is shown: a name in Punycode is read. -/
def shownHost (a : Address) : Except Domain.Fault (List Char) :=
  if Domain.punycodePrefix.isPrefixOf a.host then Domain.read a.host else .ok a.host

/-- The name and the password before the host, if there are any, as they are sent: with a colon between
them, in Base64. -/
def credentials? (a : Address) : Option (List Char) :=
  let name := Text.percentDecode (a.user.takeWhile (· ≠ ':'))
  let password := Text.percentDecode ((a.user.dropWhile (· ≠ ':')).drop 1)
  if name = [] ∧ password = [] then none else some (Bytes.toBase64 (Bytes.utf8 (name ++ ':' :: password)))

/-- Why an address that another one refers to is of no use. -/
inductive Misreferral where
  | unreadable
  /-- It needs a host, and does not fit behind one. -/
  | unusable
  /-- Its host, or the zone of it, cannot be named in ASCII. -/
  | unsendable
  | badHost (fault : Domain.Fault)
  deriving DecidableEq, Repr

/-- Checks that the address to which a reply refers can be asked for in turn. -/
def checkReferral (a : Address) (location : List Char) : Except Misreferral Unit :=
  match ofText? location with
  | none => .error .unreadable
  | some b => do
    let there ← b.shownHost.mapError .badHost
    let here ← a.shownHost.mapError .badHost
    if !b.scheme.isEmpty ∧ there = [] ∧ (ofParts? b.parts (some (bracketed here))).isNone then
      .error .unusable
    else if b.netloc.all Text.isAscii then .ok ()
    else .error .unsendable
where
  /-- A host in the long form in its brackets. -/
  bracketed (host : List Char) : List Char := if host.contains ':' then '[' :: host ++ [']'] else host

end Address

end PullReview.Web
