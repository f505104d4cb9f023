/-!
The shortest decimal that reads back as a given binary floating-point number.

A positive number `m * 2 ^ q` is what every real between two bounds rounds to.  Among the decimals
with one digit, then with two, and so on, the first that lies between the bounds is taken, and of
two with equally many digits the nearer one.  Of all decimals of one length only the two neighbours
of the number itself have to be looked at.
-/

namespace SingleFlight
namespace Decimal

/-- The number `digits * 10 ^ exponent`. -/
structure Numeral where
  digits : Nat
  exponent : Int
deriving DecidableEq, Repr

/-- A positive fraction. -/
structure Fraction where
  num : Nat
  den : Nat

namespace Fraction

/-- `n * 2 ^ q`. -/
def scaled (n : Nat) (q : Int) : Fraction :=
  if 0 ≤ q then { num := n * Nat.pow 2 q.toNat, den := 1 }
  else { num := n, den := Nat.pow 2 (-q).toNat }

/-- `n * 10 ^ e`. -/
def ofDecimal (n : Nat) (e : Int) : Fraction :=
  if 0 ≤ e then { num := n * Nat.pow 10 e.toNat, den := 1 }
  else { num := n, den := Nat.pow 10 (-e).toNat }

def lt (a b : Fraction) : Bool := a.num * b.den < b.num * a.den

def le (a b : Fraction) : Bool := a.num * b.den ≤ b.num * a.den

/-- The distance between the two. -/
def distance (a b : Fraction) : Fraction :=
  { num := (a.num * b.den - b.num * a.den) + (b.num * a.den - a.num * b.den), den := a.den * b.den }

/-- The least `e` with the fraction below `10 ^ e`, looked for from `e` on. -/
def magnitudeFrom (a : Fraction) (e : Int) : Nat → Int
  | 0 => e
  | fuel + 1 => if a.lt (ofDecimal 1 e) then e else magnitudeFrom a (e + 1) fuel

/-- How often `10 ^ e` goes into the fraction. -/
def quotient (a : Fraction) (e : Int) : Nat :=
  if 0 ≤ e then a.num / (a.den * Nat.pow 10 e.toNat)
  else a.num * Nat.pow 10 (-e).toNat / a.den

end Fraction

/-- The reals that round to a number: the bounds themselves count for an even significand. -/
structure Interval where
  low : Fraction
  value : Fraction
  high : Fraction
  closed : Bool

namespace Interval

/-- The interval of `m * 2 ^ q`.  Below a power of two the neighbours lie closer together. -/
def ofBinary (m : Nat) (q : Int) (closer : Bool) : Interval :=
  { low := .scaled (if closer then 4 * m - 1 else 4 * m - 2) (q - 2)
    value := .scaled (4 * m) (q - 2)
    high := .scaled (4 * m + 2) (q - 2)
    closed := m % 2 == 0 }

def contains (i : Interval) (x : Fraction) : Bool :=
  if i.closed then i.low.le x && x.le i.high else i.low.lt x && x.lt i.high

/-- The decimal of so many digits that lies in the interval, if one does.  Of two equally near ones
it is the greater. -/
def decimalOf? (i : Interval) (magnitude : Int) (digits : Nat) : Option Numeral :=
  let e := magnitude - digits
  let below := i.value.quotient e
  let lower := Fraction.ofDecimal below e
  let upper := Fraction.ofDecimal (below + 1) e
  match i.contains lower, i.contains upper with
  | true, true =>
    if (i.value.distance lower).lt (i.value.distance upper) then some ⟨below, e⟩
    else some ⟨below + 1, e⟩
  | true, false => some ⟨below, e⟩
  | false, true => some ⟨below + 1, e⟩
  | false, false => none

/-- Seventeen digits always suffice. -/
def shortest (i : Interval) : Numeral :=
  let magnitude := i.value.magnitudeFrom (-330) 700
  ((List.range 17).findSome? fun n => i.decimalOf? magnitude (n + 1)).getD
    ⟨i.value.quotient (magnitude - 17), magnitude - 17⟩

end Interval

/-- Digits without an exponent. -/
def Numeral.positional (d : Numeral) : String :=
  let digits := Nat.toDigits 10 d.digits
  if 0 ≤ d.exponent then String.ofList (digits ++ List.replicate d.exponent.toNat '0')
  else
    let places := (-d.exponent).toNat
    let padded := List.replicate (places + 1 - digits.length) '0' ++ digits
    let whole := padded.take (padded.length - places)
    let fraction := ((padded.drop (padded.length - places)).reverse.dropWhile (· == '0')).reverse
    String.ofList (if fraction.isEmpty then whole else whole ++ '.' :: fraction)

/-- A floating-point number in the fewest digits that read back, without an exponent, and without a
point where it is whole. -/
def text (x : Float) : String :=
  let bits := x.toBits.toNat
  let sign := if bits / Nat.pow 2 63 = 1 then "-" else ""
  let exponent : Nat := bits / Nat.pow 2 52 % Nat.pow 2 11
  let fraction : Nat := bits % Nat.pow 2 52
  if exponent = 2047 then (if fraction = 0 then sign ++ "inf" else "NaN")
  else if exponent = 0 && fraction = 0 then sign ++ "0"
  else
    let interval :=
      if exponent = 0 then Interval.ofBinary fraction (-1074) false
      else Interval.ofBinary (Nat.pow 2 52 + fraction) ((exponent : Int) - 1075)
        (fraction == 0 && exponent != 1)
    sign ++ interval.shortest.positional

end Decimal
end SingleFlight
