/-!
# Decimal digits and numerals

A decimal digit is any character of the Unicode category Nd, in any script; a numeral is read by
the values of its digits, so scripts may be mixed. A numeral of more than `numeralLimit` digits,
leading zeros included, is not read: the cause says how many digits it had.

| here | there |
| --- | --- |
| `isDigit` | `\d` of a pattern |
| `readNumeral` | `int` of a text of digits, with its limit of 4300 |
-/

namespace PullReview.Text

/-- The code points of the digits zero; each script's other nine digits follow its zero. -/
def digitZeros : List Nat :=
  [0x30, 0x660, 0x6F0, 0x7C0, 0x966, 0x9E6, 0xA66, 0xAE6, 0xB66, 0xBE6, 0xC66, 0xCE6, 0xD66, 0xDE6,
    0xE50, 0xED0, 0xF20, 0x1040, 0x1090, 0x17E0, 0x1810, 0x1946, 0x19D0, 0x1A80, 0x1A90, 0x1B50, 0x1BB0,
    0x1C40, 0x1C50, 0xA620, 0xA8D0, 0xA900, 0xA9D0, 0xA9F0, 0xAA50, 0xABF0, 0xFF10, 0x104A0, 0x10D30,
    0x11066, 0x110F0, 0x11136, 0x111D0, 0x112F0, 0x11450, 0x114D0, 0x11650, 0x116C0, 0x11730, 0x118E0,
    0x11950, 0x11C50, 0x11D50, 0x11DA0, 0x16A60, 0x16AC0, 0x16B50, 0x1D7CE, 0x1D7D8, 0x1D7E2, 0x1D7EC,
    0x1D7F6, 0x1E140, 0x1E2F0, 0x1E950, 0x1FBF0]

/-- The value of a decimal digit of any script. -/
def digitValue? (c : Char) : Option Nat :=
  (digitZeros.find? fun first => first ≤ c.toNat && c.toNat < first + 10).map (c.toNat - ·)

/-- The value of one of the ten ASCII digits. -/
def asciiDigit? (c : Char) : Option Nat :=
  if '0' ≤ c && c ≤ '9' then some (c.toNat - 0x30) else none

def isDigit (c : Char) : Bool := (digitValue? c).isSome

/-- The greatest number of digits a numeral may have. -/
def numeralLimit : Nat := 4300

/-- A numeral with too many digits to be read. -/
structure LongNumeral where
  digits : Nat
  deriving DecidableEq, Repr

/-- The number that digit values, most significant first, denote. -/
def ofDigits (values : List Nat) : Nat := values.foldl (fun n d => 10 * n + d) 0

/-- Reads a numeral from the values of its digits. -/
def readNumeral (values : List Nat) : Except LongNumeral Nat :=
  if numeralLimit < values.length then .error ⟨values.length⟩ else .ok (ofDigits values)

/-- The message about a numeral that is too long. -/
def LongNumeral.message (e : LongNumeral) : String :=
  s!"Exceeds the limit ({numeralLimit} digits) for integer string conversion: " ++
    s!"value has {e.digits} digits; " ++
    "use sys.set_int_max_str_digits() to increase the limit"

end PullReview.Text
