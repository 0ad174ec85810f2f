import PullReview.Web.NumericHost

/-!
# Named hosts

A request names the host that it asks for: a name, or an address in brackets, and possibly a port. What
is neither is not taken for a host.
-/

namespace PullReview.Web

/-- What may stand in the name of a host. -/
def inHostName (c : Char) : Bool := c.isAlphanum || "-._~!$&'()*+,;=".toList.contains c

/-- Whether a text may be the name of a host; a percent sign begins a byte in percent form. -/
def isHostName : List Char → Bool
  | [] => true
  | '%' :: a :: b :: cs => (Bytes.hexValue? a).isSome && (Bytes.hexValue? b).isSome && isHostName cs
  | c :: cs => inHostName c && isHostName cs

/-- Whether a text is a port behind its colon, or nothing. -/
def isPortSuffix : List Char → Bool
  | [] => true
  | c :: digits =>
    c == ':' && digits.all Text.isAsciiDigit && Text.ofDigits (digits.filterMap Text.asciiDigit?) < 65536

/-- Whether a text names a host, possibly with a port. -/
def isNamedHost (cs : List Char) : Bool :=
  match cs with
  | [] => false
  | '[' :: rest =>
    let inner := rest.takeWhile (· ≠ ']')
    isLongHost inner && !inner.contains '%' && rest.contains ']' &&
      isPortSuffix (rest.drop (inner.length + 1))
  | cs =>
    let name := cs.takeWhile (· ≠ ':')
    !name.isEmpty && isHostName name && isPortSuffix (cs.drop name.length)

end PullReview.Web
