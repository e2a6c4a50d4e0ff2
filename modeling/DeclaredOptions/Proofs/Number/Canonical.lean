import DeclaredOptions.Number.Value
import Mathlib.Algebra.Order.Field.Power
import Mathlib.Data.Rat.Cast.Order
import Mathlib.Tactic.FieldSimp
import Mathlib.Tactic.Linarith
import Mathlib.Tactic.Positivity
import Mathlib.Tactic.Ring

/-!
Contract: rounding gives canonical binary64 numbers.

Owns:
- fractions that are scaled by powers of two, and their quotients;
- the last place of a fraction, at which its quotient has fifty-three binary digits;
- the canonical form of all numbers that fractions and decimals are rounded to.

Does not own: which of its neighbours a fraction is rounded to, and the values of numbers.
-/

set_option autoImplicit false

namespace DeclaredOptions.Number.Binary64

/-- A number in canonical form: a finite one has at most fifty-three binary digits, and fewer only at the lowest
exponent. -/
inductive Canonical : Binary64 → Prop where
  | finite {negative : Bool} {significand : Nat} {exponent : Int} (small : significand < 2 ^ 53)
      (lowest : -1074 ≤ exponent) (full : 2 ^ 52 ≤ significand ∨ exponent = -1074) :
      Canonical (.finite negative significand exponent)
  | infinite (negative : Bool) : Canonical (.infinite negative)

theorem canonical_zero (negative : Bool) : Canonical (.finite negative 0 (-1074)) :=
  .finite (by decide) le_rfl (.inr rfl)

/-! ## Scaled fractions -/

/-- The numerator and the denominator of a fraction in units of a place. -/
def scaled (numerator denominator : Nat) (place : Int) : Nat × Nat :=
  if 0 ≤ place then (numerator, denominator * 2 ^ place.toNat)
  else (numerator * 2 ^ (-place).toNat, denominator)

variable {numerator denominator : Nat} {place : Int}

theorem scaled_pos (positive : 0 < denominator) : 0 < (scaled numerator denominator place).2 := by
  unfold scaled
  split
  · positivity
  · exact positive

/-- Comparisons of a scaled fraction are those of the fraction with multiples of the place. -/
theorem mul_scaled_le_iff (multiple : Nat) :
    multiple * (scaled numerator denominator place).2 ≤ (scaled numerator denominator place).1 ↔
      (multiple : ℚ) * 2 ^ place * denominator ≤ numerator := by
  unfold scaled
  split
  · rename_i above
    obtain ⟨count, rfl⟩ := Int.eq_ofNat_of_zero_le above
    rw [← Nat.cast_le (α := ℚ)]
    push_cast
    rw [Int.toNat_natCast, zpow_natCast, mul_assoc, mul_comm (denominator : ℚ)]
  · rename_i below
    obtain ⟨count, isCount⟩ := Int.eq_ofNat_of_zero_le (show 0 ≤ -place by omega)
    obtain rfl : place = -(count : Int) := by omega
    rw [← Nat.cast_le (α := ℚ)]
    push_cast
    rw [neg_neg, Int.toNat_natCast, zpow_neg, zpow_natCast]
    have positive : (0 : ℚ) < 2 ^ count := by positivity
    rw [mul_right_comm, ← div_eq_mul_inv, div_le_iff₀ positive]

/-! ## The last place -/

theorem le_roundedQuotient (numerator denominator : Nat) :
    numerator / denominator ≤ roundedQuotient numerator denominator := by
  unfold roundedQuotient
  dsimp only
  split
  · rfl
  · split <;> omega

theorem roundedQuotient_le (numerator denominator : Nat) :
    roundedQuotient numerator denominator ≤ numerator / denominator + 1 := by
  unfold roundedQuotient
  dsimp only
  split
  · omega
  · split <;> omega

/-- A place where the quotient of a fraction has fifty-three binary digits, or fewer at the lowest one. -/
structure IsLastPlace (numerator denominator : Nat) (place : Int) : Prop where
  lowest : -1074 ≤ place
  below : (numerator : ℚ) < 2 ^ 53 * 2 ^ place * denominator
  full : 2 ^ 52 * (2 : ℚ) ^ place * denominator ≤ numerator ∨ place = -1074

def estimate (numerator denominator : Nat) : Int :=
  (Nat.log2 numerator : Int) - (Nat.log2 denominator : Int) - 52

def quotientAt (numerator denominator : Nat) (place : Int) : Nat :=
  (scaled numerator denominator place).1 / (scaled numerator denominator place).2

theorem le_quotientAt_iff (positive : 0 < denominator) (multiple : Nat) :
    multiple ≤ quotientAt numerator denominator place ↔
      (multiple : ℚ) * 2 ^ place * denominator ≤ numerator := by
  rw [quotientAt, Nat.le_div_iff_mul_le (scaled_pos positive), mul_scaled_le_iff]

theorem lastPlace_eq (numerator denominator : Nat) :
    lastPlace numerator denominator =
      max (-1074) (if quotientAt numerator denominator (estimate numerator denominator) < 2 ^ 52
        then estimate numerator denominator - 1 else estimate numerator denominator) := by
  have quotient (place : Int) : (if 0 ≤ place then numerator / (denominator * Nat.pow 2 place.toNat)
      else numerator * Nat.pow 2 (-place).toNat / denominator) =
        quotientAt numerator denominator place := by
    unfold quotientAt scaled
    split <;> rfl
  have clamp (exact : Int) : (if exact < -1074 then -1074 else exact) = max (-1074) exact := by
    omega
  exact (clamp _).trans (by rw [quotient]; rfl)

theorem estimate_bounds (there : numerator ≠ 0) (positive : 0 < denominator) :
    (numerator : ℚ) < 2 ^ 53 * 2 ^ estimate numerator denominator * denominator ∧
      2 ^ 52 * (2 : ℚ) ^ (estimate numerator denominator - 1) * denominator ≤ numerator := by
  have numeratorLow : (2 : ℚ) ^ numerator.log2 ≤ numerator := by
    exact_mod_cast Nat.log2_self_le there
  have numeratorHigh : (numerator : ℚ) < 2 ^ (numerator.log2 + 1) := by
    exact_mod_cast Nat.lt_log2_self
  have denominatorLow : (2 : ℚ) ^ denominator.log2 ≤ denominator := by
    exact_mod_cast Nat.log2_self_le positive.ne'
  have denominatorHigh : (denominator : ℚ) ≤ 2 ^ (denominator.log2 + 1) := by
    exact_mod_cast Nat.lt_log2_self.le
  have upper : (2 : ℚ) ^ 53 * 2 ^ estimate numerator denominator * 2 ^ denominator.log2 =
      2 ^ (numerator.log2 + 1) := by
    simp only [← zpow_natCast, ← zpow_add₀ (two_ne_zero (α := ℚ))]
    congr 1
    unfold estimate
    omega
  have lower : (2 : ℚ) ^ 52 * 2 ^ (estimate numerator denominator - 1) *
      2 ^ (denominator.log2 + 1) = 2 ^ numerator.log2 := by
    simp only [← zpow_natCast, ← zpow_add₀ (two_ne_zero (α := ℚ))]
    congr 1
    unfold estimate
    omega
  constructor
  · calc (numerator : ℚ) < 2 ^ (numerator.log2 + 1) := numeratorHigh
      _ = 2 ^ 53 * 2 ^ estimate numerator denominator * 2 ^ denominator.log2 := upper.symm
      _ ≤ 2 ^ 53 * 2 ^ estimate numerator denominator * denominator := by gcongr
  · calc (2 : ℚ) ^ 52 * 2 ^ (estimate numerator denominator - 1) * denominator
        ≤ 2 ^ 52 * 2 ^ (estimate numerator denominator - 1) * 2 ^ (denominator.log2 + 1) := by gcongr
      _ = 2 ^ numerator.log2 := lower
      _ ≤ numerator := numeratorLow

theorem isLastPlace_lastPlace (there : numerator ≠ 0) (positive : 0 < denominator) :
    IsLastPlace numerator denominator (lastPlace numerator denominator) := by
  obtain ⟨upper, lower⟩ := estimate_bounds there positive
  have exact : ∃ place, lastPlace numerator denominator = max (-1074) place ∧
      (numerator : ℚ) < 2 ^ 53 * 2 ^ place * denominator ∧
      2 ^ 52 * (2 : ℚ) ^ place * denominator ≤ numerator := by
    rw [lastPlace_eq]
    split
    · rename_i few
      refine ⟨_, rfl, ?_, lower⟩
      rw [← not_le, le_quotientAt_iff positive, not_le] at few
      have double : (2 : ℚ) ^ 53 * 2 ^ (estimate numerator denominator - 1) =
          2 ^ 52 * 2 ^ estimate numerator denominator := by
        rw [zpow_sub_one₀ two_ne_zero]
        ring
      rw [double]
      exact_mod_cast few
    · rename_i many
      rw [not_lt, le_quotientAt_iff positive] at many
      exact ⟨_, rfl, upper, by exact_mod_cast many⟩
  obtain ⟨place, isPlace, below, full⟩ := exact
  rw [isPlace]
  by_cases low : place < -1074
  · rw [max_eq_left low.le]
    refine ⟨le_rfl, below.trans_le ?_, .inr rfl⟩
    have step : (2 : ℚ) ^ place ≤ 2 ^ (-1074 : Int) := zpow_le_zpow_right₀ one_le_two low.le
    gcongr
  · rw [max_eq_right (not_lt.mp low)]
    exact ⟨not_lt.mp low, below, .inl full⟩

/-! ## Rounding -/

def roundedAt (numerator denominator : Nat) (place : Int) : Nat :=
  roundedQuotient (scaled numerator denominator place).1 (scaled numerator denominator place).2

/-- At the last place of a fraction the significand has at most fifty-three binary digits, but for a carry. -/
theorem IsLastPlace.roundedAt_bounds (isLast : IsLastPlace numerator denominator place)
    (positive : 0 < denominator) : roundedAt numerator denominator place ≤ 2 ^ 53 ∧
      (2 ^ 52 ≤ roundedAt numerator denominator place ∨ place = -1074) := by
  have low : quotientAt numerator denominator place ≤ roundedAt numerator denominator place :=
    le_roundedQuotient _ _
  have high : roundedAt numerator denominator place ≤ quotientAt numerator denominator place + 1 :=
    roundedQuotient_le _ _
  have few : quotientAt numerator denominator place < 2 ^ 53 := by
    rw [← not_le, le_quotientAt_iff positive, not_le]
    exact_mod_cast isLast.below
  refine ⟨by omega, isLast.full.imp_left fun full => ?_⟩
  have many : 2 ^ 52 ≤ quotientAt numerator denominator place := by
    rw [le_quotientAt_iff positive]
    exact_mod_cast full
  omega

/-- A number that a significand and a place give, where a carry moves on to the next place. -/
def carried (negative : Bool) (significand : Nat) (place : Int) : Binary64 :=
  if significand = 2 ^ 53 then
    if 971 < place + 1 then .infinite negative else .finite negative (2 ^ 52) (place + 1)
  else if 971 < place then .infinite negative else .finite negative significand place

theorem ofFraction_eq (negative : Bool) (there : numerator ≠ 0) :
    ofFraction negative numerator denominator =
      carried negative (roundedAt numerator denominator (lastPlace numerator denominator))
        (lastPlace numerator denominator) := by
  have rounded (place : Int) : (if 0 ≤ place then
      roundedQuotient numerator (denominator * Nat.pow 2 place.toNat)
      else roundedQuotient (numerator * Nat.pow 2 (-place).toNat) denominator) =
        roundedAt numerator denominator place := by
    unfold roundedAt scaled
    split <;> rfl
  unfold ofFraction carried
  rw [if_neg (by simpa using there)]
  dsimp only
  rw [rounded]
  simp only [beq_iff_eq, Nat.pow_eq]
  split <;> rfl

theorem canonical_carried (negative : Bool) {significand : Nat} (small : significand ≤ 2 ^ 53)
    (lowest : -1074 ≤ place) (full : 2 ^ 52 ≤ significand ∨ place = -1074) :
    Canonical (carried negative significand place) := by
  unfold carried
  split
  · split
    · exact .infinite negative
    · exact .finite (by decide) (by omega) (.inl le_rfl)
  · split
    · exact .infinite negative
    · exact .finite (by omega) lowest full

theorem canonical_ofFraction (negative : Bool) (positive : 0 < denominator) :
    Canonical (ofFraction negative numerator denominator) := by
  by_cases there : numerator = 0
  · rw [there]
    exact canonical_zero negative
  · have isLast := isLastPlace_lastPlace there positive
    obtain ⟨small, full⟩ := isLast.roundedAt_bounds positive
    rw [ofFraction_eq negative there]
    exact canonical_carried negative small isLast.lowest full

theorem canonical_ofDecimal (negative : Bool) (digits count : Nat) (exponent : Int) :
    Canonical (ofDecimal negative digits count exponent) := by
  have positive : 0 < Nat.pow 10 (-exponent).toNat := Nat.pow_pos (by decide)
  unfold ofDecimal
  split
  · exact canonical_zero negative
  · split
    · split
      · exact .infinite negative
      · exact canonical_ofFraction negative positive
    · split
      · exact canonical_zero negative
      · exact canonical_ofFraction negative positive

end DeclaredOptions.Number.Binary64
