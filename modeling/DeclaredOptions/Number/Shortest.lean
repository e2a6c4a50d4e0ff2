import DeclaredOptions.Number.Binary64
import DeclaredOptions.Number.Digits

/-!
Contract: the fewest decimal digits that read back as a given binary64 number, and their layout.

Owns: the interval of fractions that round to a number, the search over digit counts, and the decision
between positional and exponent form.

Does not own: the spelling that a data format gives to infinities.
-/

namespace DeclaredOptions.Number

/-- Decimal digits `0.d₁d₂… * 10 ^ point`. -/
structure DecimalDigits where
  digits : List Nat
  point : Int
  deriving DecidableEq, Repr

namespace Binary64

/-- The fractions that round to a positive number, over one denominator: the two ends, the number
itself, and whether the ends belong. -/
structure Interval where
  low : Nat
  value : Nat
  high : Nat
  denominator : Nat
  closed : Bool

/-- The interval of a positive finite number. Below a power of two the spacing halves. -/
def interval (significand : Nat) (exponent : Int) : Interval :=
  let lower := if significand == Nat.pow 2 52 && -1074 < exponent then 1 else 2
  let place := exponent - 2
  let scale (n : Nat) := n * Nat.pow 2 place.toNat
  { low := scale (4 * significand - lower)
    value := scale (4 * significand)
    high := scale (4 * significand + 2)
    denominator := Nat.pow 2 (-place).toNat
    closed := significand % 2 == 0 }

/-- The number of places that a fraction below one has to be shifted to reach one tenth. -/
def leadingZeros (numerator denominator : Nat) : Nat → Nat
  | 0 => 0
  | fuel + 1 =>
    if numerator * 10 < denominator then leadingZeros (numerator * 10) denominator fuel + 1 else 0

/-- The decimal point of a positive fraction: it lies from `10 ^ (point - 1)` on and below
`10 ^ point`. -/
def decimalPoint (numerator denominator : Nat) : Int :=
  if denominator ≤ numerator then (digitsOf (numerator / denominator)).length
  else -(leadingZeros numerator denominator 400 : Int)

/-- The multiple of `10 ^ place` in the interval that is nearest to its value, if there is one; of two
equally near ones the even multiple. -/
def Interval.nearest? (i : Interval) (place : Int) : Option Nat :=
  let unit := i.denominator * Nat.pow 10 place.toNat
  let scale := Nat.pow 10 (-place).toNat
  let below := i.value * scale / unit
  let inside (n : Nat) :=
    let x := n * unit
    if i.closed then i.low * scale ≤ x && x ≤ i.high * scale
    else i.low * scale < x && x < i.high * scale
  let toBelow := i.value * scale - below * unit
  let toAbove := (below + 1) * unit - i.value * scale
  match inside below, inside (below + 1) with
  | false, false => none
  | true, false => some below
  | false, true => some (below + 1)
  | true, true =>
    if toBelow < toAbove then some below
    else if toAbove < toBelow then some (below + 1)
    else some (below + below % 2)

/-- The shortest grid with a hit, from `count` digits on. -/
def Interval.search (i : Interval) (point : Int) (count : Nat) : Nat → Nat × Int
  | 0 => (0, 0)
  | fuel + 1 =>
    match i.nearest? (point - count) with
    | some n => (n, point - count)
    | none => i.search point (count + 1) fuel

/-- Digits without trailing zeros; at least one stays. -/
def withoutTrailingZeros (digits : List Nat) : List Nat :=
  match (digits.reverse.dropWhile (· == 0)).reverse with
  | [] => [0]
  | kept => kept

/-- The fewest digits that read back as a positive finite number. -/
def shortest (significand : Nat) (exponent : Int) : DecimalDigits :=
  let i := interval significand exponent
  let point := decimalPoint i.value i.denominator
  let (n, place) := i.search point 1 17
  let digits := digitsOf n
  { digits := withoutTrailingZeros digits, point := place + digits.length }

end Binary64

/-- How digits are laid out: from which point on the exponent form begins at either end, and how many
digits an exponent has at least. -/
structure DigitLayout where
  leastPoint : Int
  greatestPoint : Int
  exponentDigits : Nat

/-- Numbers are written positionally from `0.0001` up to sixteen digits before the point; the exponent
has a sign and at least two digits. -/
def plainLayout : DigitLayout := ⟨-3, 16, 2⟩

/-- Digits in a layout. Positional form always has a digit on both sides of the point. -/
def DigitLayout.render (layout : DigitLayout) (d : DecimalDigits) : List Char :=
  let chars := d.digits.map digitChar
  if d.point < layout.leastPoint || layout.greatestPoint < d.point then
    let exponent := d.point - 1
    let size := naturalChars exponent.natAbs
    let padded := List.replicate (layout.exponentDigits - size.length) '0' ++ size
    let fraction := if chars.length ≤ 1 then [] else '.' :: chars.drop 1
    chars.take 1 ++ fraction ++ 'e' :: (if exponent < 0 then '-' else '+') :: padded
  else if d.point ≤ 0 then
    '0' :: '.' :: List.replicate (-d.point).toNat '0' ++ chars
  else
    let whole := d.point.toNat
    let fraction := chars.drop whole
    chars.take whole ++ List.replicate (whole - chars.length) '0' ++ '.' ::
      (if fraction.isEmpty then ['0'] else fraction)

/-- The text of a binary64 number: its shortest digits in the plain layout. -/
def Binary64.chars : Binary64 → List Char
  | .nan => "nan".toList
  | .infinite negative => (if negative then ['-'] else []) ++ "inf".toList
  | .finite negative significand exponent =>
    (if negative then ['-'] else []) ++
      (if significand == 0 then "0.0".toList
       else plainLayout.render (shortest significand exponent))

end DeclaredOptions.Number
