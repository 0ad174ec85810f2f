import PullReview.Number.Binary64

/-!
# Shortest decimals

The fewest digits that read back as the same double, and of those the nearest: for one digit, two
digits and so on, the two neighbours of the value on the decimal grid are tested in exact arithmetic
against the interval of numbers that round to the double.
-/

namespace PullReview.Binary64

/-- A fraction with a positive denominator. -/
abbrev Fraction := Nat × Nat

def Fraction.le (x y : Fraction) : Bool := x.1 * y.2 ≤ y.1 * x.2

def Fraction.lt (x y : Fraction) : Bool := x.1 * y.2 < y.1 * x.2

/-- The distance between two fractions. -/
def Fraction.distance (x y : Fraction) : Fraction :=
  let (a, b) := (x.1 * y.2, y.1 * x.2)
  (max a b - min a b, x.2 * y.2)

/-- `digits * 10 ^ exponent` as a fraction. -/
def decimalFraction (digits : Nat) (exponent : Int) : Fraction :=
  if 0 ≤ exponent then (digits * Nat.pow 10 exponent.toNat, 1) else (digits, Nat.pow 10 (-exponent).toNat)

/-- The ends of the interval of numbers that round to the double. -/
def roundingInterval (mantissa : Nat) (exponent : Int) : Fraction × Fraction :=
  let below :=
    if mantissa = leastNormal ∧ leastExponent < exponent then fraction (4 * mantissa - 1) (exponent - 2)
    else fraction (2 * mantissa - 1) (exponent - 1)
  (below, fraction (2 * mantissa + 1) (exponent - 1))

/-- Whether a fraction rounds to the double; the ends count where the mantissa is even. -/
def roundsTo (mantissa : Nat) (exponent : Int) (x : Fraction) : Bool :=
  let (low, high) := roundingInterval mantissa exponent
  if mantissa % 2 = 0 then low.le x && x.le high else low.lt x && x.lt high

/-- The number of digits before the point of a positive fraction; zero or less below one. -/
def magnitude (x : Fraction) : Int :=
  let estimate : Int := (Nat.toDigits 10 x.1).length - (Nat.toDigits 10 x.2).length
  if (decimalFraction 1 estimate).le x then estimate + 1 else estimate

/-- The decimal on the grid of `10 ^ exponent` that is nearest among those that round to the
double, a tie going to the even digits. -/
def onGrid (mantissa : Nat) (e : Int) (exponent : Int) : Option Nat :=
  let x := fraction mantissa e
  let (num, den) : Fraction :=
    if 0 ≤ exponent then (x.1, x.2 * Nat.pow 10 exponent.toNat)
    else (x.1 * Nat.pow 10 (-exponent).toNat, x.2)
  let low := num / den
  let good digits := roundsTo mantissa e (decimalFraction digits exponent)
  let near digits := Fraction.distance x (decimalFraction digits exponent)
  match good low, good (low + 1) with
  | true, true =>
    if (near low).lt (near (low + 1)) then some low
    else if (near (low + 1)).lt (near low) then some (low + 1)
    else some (low + low % 2)
  | true, false => some low
  | false, true => some (low + 1)
  | false, false => none

/-- The fewest digits and their exponent. Seventeen digits always suffice. -/
def shortest (mantissa : Nat) (exponent : Int) : Nat × Int :=
  let top := magnitude (fraction mantissa exponent)
  let grids := (List.range 17).map fun k => top - (k + 1 : Nat)
  (grids.findSome? fun g => (onGrid mantissa exponent g).map (·, g)).getD (0, 0)

/-- The text of a double: positional from 0.0001 up to 10^16 with at least one place after the
point, else one digit before the point and an exponent of at least two digits. -/
def text : Binary64 → String
  | .nan => "NaN"
  | .infinite negative => if negative then "-Infinity" else "Infinity"
  | .finite negative mantissa exponent =>
    let sign := if negative then "-" else ""
    if mantissa = 0 then sign ++ "0.0"
    else
      let (digits, g) := shortest mantissa exponent
      let kept := withoutZeros (Nat.toDigits 10 digits)
      let point : Int := (Nat.toDigits 10 digits).length + g
      sign ++ String.ofList (placed kept point)
where
  /-- Digits without the zeros at their end. -/
  withoutZeros (digits : List Char) : List Char := (digits.reverse.dropWhile (· == '0')).reverse
  /-- Digits with the decimal point after the first `point` of them. -/
  placed (digits : List Char) (point : Int) : List Char :=
    if 16 < point ∨ point ≤ -4 then
      let power := point - 1
      let size := Nat.toDigits 10 power.natAbs
      digits.take 1 ++ (if digits.length = 1 then [] else '.' :: digits.drop 1) ++
        ['e', if power < 0 then '-' else '+'] ++ (if size.length < 2 then '0' :: size else size)
    else if point ≤ 0 then
      ['0', '.'] ++ List.replicate (-point).toNat '0' ++ digits
    else
      let whole := point.toNat
      digits.take whole ++ List.replicate (whole - digits.length) '0' ++ '.' ::
        (if digits.length ≤ whole then ['0'] else digits.drop whole)

end PullReview.Binary64
