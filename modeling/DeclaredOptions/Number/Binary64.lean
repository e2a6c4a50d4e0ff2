/-!
Contract: binary64 numbers as exact values, and rounding of decimal fractions to them.

Owns: the canonical significand and exponent, rounding to nearest with ties to even, exact comparison
with whole numbers, and truncation.

Does not own: texts.
-/

namespace DeclaredOptions.Number

/-- A binary64 number; all NaNs are one. A finite number is `significand * 2 ^ exponent` with its sign; in
canonical form the significand is below `2 ^ 53`, the exponent is at least `-1074`, and the significand
reaches `2 ^ 52` unless the exponent is `-1074`. -/
inductive Binary64 where
  | finite (negative : Bool) (significand : Nat) (exponent : Int)
  | infinite (negative : Bool)
  | nan
  deriving DecidableEq, Repr

namespace Binary64

/-- The quotient of two natural numbers rounded to nearest, a tie to the even neighbour. -/
def roundedQuotient (numerator denominator : Nat) : Nat :=
  let quotient := numerator / denominator
  let twice := 2 * (numerator % denominator)
  if twice < denominator then quotient
  else if denominator < twice then quotient + 1
  else quotient + quotient % 2

/-- The binary exponent of the last place that a fraction is rounded to. -/
def lastPlace (numerator denominator : Nat) : Int :=
  let estimate : Int := (Nat.log2 numerator : Int) - (Nat.log2 denominator : Int) - 52
  -- The estimate is exact or one too high.
  let scaled :=
    if 0 ≤ estimate then numerator / (denominator * Nat.pow 2 estimate.toNat)
    else numerator * Nat.pow 2 (-estimate).toNat / denominator
  let exact := if scaled < Nat.pow 2 52 then estimate - 1 else estimate
  if exact < -1074 then -1074 else exact

/-- The binary64 number nearest to a fraction. -/
def ofFraction (negative : Bool) (numerator denominator : Nat) : Binary64 :=
  if numerator == 0 then .finite negative 0 (-1074)
  else
    let place := lastPlace numerator denominator
    let significand :=
      if 0 ≤ place then roundedQuotient numerator (denominator * Nat.pow 2 place.toNat)
      else roundedQuotient (numerator * Nat.pow 2 (-place).toNat) denominator
    let (significand, place) :=
      if significand == Nat.pow 2 53 then (Nat.pow 2 52, place + 1) else (significand, place)
    if 971 < place then .infinite negative else .finite negative significand place

/-- The binary64 number nearest to `digits * 10 ^ exponent`, where `digits` has `count` decimal digits.
Far outside the range of finite numbers the power is not computed. -/
def ofDecimal (negative : Bool) (digits count : Nat) (exponent : Int) : Binary64 :=
  if digits == 0 then .finite negative 0 (-1074)
  else if 400 < exponent + count then
    -- Leading zeros among the digits may make the number smaller than it looks.
    if 400 < exponent + Nat.log2 digits / 4 then .infinite negative
    else ofFraction negative (digits * Nat.pow 10 exponent.toNat) (Nat.pow 10 (-exponent).toNat)
  else if exponent + count < -400 then .finite negative 0 (-1074)
  else ofFraction negative (digits * Nat.pow 10 exponent.toNat) (Nat.pow 10 (-exponent).toNat)

def ofWhole (n : Int) : Binary64 := ofFraction (n < 0) n.natAbs 1

/-- The binary64 number nearest to one more than a number. -/
def plusOne : Binary64 → Binary64
  | .finite negative significand exponent =>
    let signed : Int := if negative then -(significand : Int) else significand
    let unit := Nat.pow 2 (-exponent).toNat
    let sum := signed * Nat.pow 2 exponent.toNat + unit
    ofFraction (sum < 0) sum.natAbs unit
  | other => other

/-- The whole part of a finite number, toward zero. -/
def truncate? : Binary64 → Option Int
  | .infinite _ | .nan => none
  | .finite negative significand exponent =>
    let size :=
      if 0 ≤ exponent then significand * Nat.pow 2 exponent.toNat
      else significand / Nat.pow 2 (-exponent).toNat
    some (if negative then -(size : Int) else (size : Int))

/-- Whether two numbers have the same value; the two zeros do, and a NaN has none. -/
def same : Binary64 → Binary64 → Bool
  | .nan, _ | _, .nan => false
  | .finite _ 0 _, .finite _ 0 _ => true
  | left, right => left == right

/-- Whether a number is exactly the given whole number. -/
def sameWhole (x : Binary64) (n : Int) : Bool :=
  match x with
  | .infinite _ | .nan => false
  | .finite negative significand exponent =>
    let signed : Int := if negative then -(significand : Int) else significand
    if 0 ≤ exponent then signed * Nat.pow 2 exponent.toNat == n
    else signed == n * Nat.pow 2 (-exponent).toNat

end Binary64

end DeclaredOptions.Number
