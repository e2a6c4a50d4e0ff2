import DeclaredOptions.Literal.Numeral
import DeclaredOptions.Proofs.Number.Canonical

/-!
Contract: the exact values of numbers, and their comparison.

Owns:
- the worth of a number: a rational, or an infinity with its sign;
- canonical numbers, which are equal exactly if they are worth the same;
- numerals, which have a worth in every spelling.

Does not own: the texts of numbers.
-/

set_option autoImplicit false

namespace DeclaredOptions

/-- What a number is worth. -/
inductive Worth where
  | rational (q : ℚ)
  | infinity (negative : Bool)

namespace Number.Binary64

def signedSignificand (negative : Bool) (significand : Nat) : ℤ :=
  if negative then -(significand : ℤ) else significand

/-- The exact value of a number; a NaN has none. -/
def worth? : Binary64 → Option Worth
  | .finite negative significand exponent =>
    some (.rational (signedSignificand negative significand * 2 ^ exponent))
  | .infinite negative => some (.infinity negative)
  | .nan => none

theorem abs_signedSignificand (negative : Bool) (significand : Nat) :
    |(signedSignificand negative significand : ℚ)| = significand := by
  cases negative <;> simp [signedSignificand]

theorem eq_of_mul_zpow_eq {first second : Nat} {low high : ℤ} (small : first < 2 ^ 53)
    (full : 2 ^ 52 ≤ second ∨ high = -1074) (lowest : -1074 ≤ low) (ordered : low ≤ high)
    (same : (first : ℚ) * 2 ^ low = second * 2 ^ high) : first = second ∧ low = high := by
  obtain ⟨count, isCount⟩ := Int.eq_ofNat_of_zero_le (show 0 ≤ high - low by omega)
  obtain rfl : high = low + count := by omega
  have shifted : first = second * 2 ^ count := by
    rw [zpow_add₀ two_ne_zero, zpow_natCast, mul_comm ((2 : ℚ) ^ low), ← mul_assoc] at same
    exact_mod_cast mul_right_cancel₀ (zpow_ne_zero low two_ne_zero) same
  have noCount : count = 0 := by
    by_contra isThere
    have many : 2 ^ 52 ≤ second := full.resolve_right (by omega)
    have twice : 2 ^ 1 ≤ 2 ^ count := Nat.pow_le_pow_right (by decide) (by omega)
    have tooMany : 2 ^ 52 * 2 ^ 1 ≤ second * 2 ^ count := Nat.mul_le_mul many twice
    omega
  subst noCount
  simpa using shifted

theorem finite_inj_of_worth {negative other : Bool} {first second : Nat} {low high : ℤ}
    (canonicalFirst : Canonical (.finite negative first low))
    (canonicalSecond : Canonical (.finite other second high))
    (same : (signedSignificand negative first : ℚ) * 2 ^ low =
      signedSignificand other second * 2 ^ high) :
    first = second ∧ low = high ∧ (first = 0 ∨ negative = other) := by
  have sizes : (first : ℚ) * 2 ^ low = second * 2 ^ high := by
    rw [← abs_signedSignificand negative, ← abs_signedSignificand other,
      ← abs_of_pos (zpow_pos two_pos low : (0 : ℚ) < 2 ^ low),
      ← abs_of_pos (zpow_pos two_pos high : (0 : ℚ) < 2 ^ high), ← abs_mul, ← abs_mul, same]
  cases canonicalFirst with
  | finite smallFirst lowestFirst fullFirst =>
      cases canonicalSecond with
      | finite smallSecond lowestSecond fullSecond =>
          have parts : first = second ∧ low = high := by
            rcases le_total low high with ordered | ordered
            · exact eq_of_mul_zpow_eq smallFirst fullSecond lowestFirst ordered sizes
            · obtain ⟨isFirst, isLow⟩ :=
                eq_of_mul_zpow_eq smallSecond fullFirst lowestSecond ordered sizes.symm
              exact ⟨isFirst.symm, isLow.symm⟩
          obtain ⟨rfl, rfl⟩ := parts
          refine ⟨rfl, rfl, ?_⟩
          have signs : signedSignificand negative first = signedSignificand other first := by
            exact_mod_cast mul_right_cancel₀ (zpow_ne_zero low two_ne_zero) same
          unfold signedSignificand at signs
          cases negative <;> cases other <;> simp at signs ⊢ <;> omega

theorem same_finite_iff {negative other : Bool} {first second : Nat} {low high : ℤ} :
    same (.finite negative first low) (.finite other second high) = true ↔
      first = 0 ∧ second = 0 ∨ negative = other ∧ first = second ∧ low = high := by
  cases first <;> cases second <;> simp [same]

/-- Canonical numbers are the same exactly if they are worth the same. -/
theorem same_iff {x y : Binary64} (canonicalX : x.Canonical) (canonicalY : y.Canonical) :
    x.same y = true ↔ x.worth? = y.worth? := by
  cases id canonicalX with
  | infinite negative =>
      cases id canonicalY with
      | infinite other => simp [same, worth?]
      | finite => simp [same, worth?]
  | @finite negative first low =>
      cases id canonicalY with
      | infinite other => simp [same, worth?]
      | @finite other second high =>
          rw [same_finite_iff, worth?, worth?, Option.some.injEq, Worth.rational.injEq]
          constructor
          · rintro (⟨rfl, rfl⟩ | ⟨rfl, rfl, rfl⟩)
            · simp [signedSignificand]
            · rfl
          · intro worths
            obtain ⟨rfl, rfl, isZero | rfl⟩ := finite_inj_of_worth canonicalX canonicalY worths
            · exact .inl ⟨isZero, isZero⟩
            · exact .inr ⟨rfl, rfl, rfl⟩

theorem sameWhole_iff {x : Binary64} {n : ℤ} :
    x.sameWhole n = true ↔ x.worth? = some (.rational n) := by
  cases x with
  | nan => simp [sameWhole, worth?]
  | infinite negative => simp [sameWhole, worth?]
  | finite negative significand exponent =>
      rw [worth?, Option.some.injEq, Worth.rational.injEq]
      have signed : (if negative then -(significand : ℤ) else significand) =
          signedSignificand negative significand := rfl
      unfold sameWhole
      dsimp only
      rw [signed]
      split
      · rename_i above
        obtain ⟨count, rfl⟩ := Int.eq_ofNat_of_zero_le above
        rw [beq_iff_eq, Int.toNat_natCast, Nat.pow_eq, zpow_natCast]
        norm_cast
      · rename_i below
        obtain ⟨count, isCount⟩ := Int.eq_ofNat_of_zero_le (show 0 ≤ -exponent by omega)
        obtain rfl : exponent = -(count : ℤ) := by omega
        rw [beq_iff_eq, neg_neg, Int.toNat_natCast, Nat.pow_eq, zpow_neg, zpow_natCast,
          mul_inv_eq_iff_eq_mul₀ (pow_ne_zero count two_ne_zero)]
        norm_cast

end Number.Binary64

/-! ## Numbers in either form -/

namespace NumberValue

def worth? : NumberValue → Option Worth
  | .whole n => some (.rational n)
  | .real x => x.worth?

/-- A number that is whole, or a canonical binary64 number. -/
inductive Canonical : NumberValue → Prop where
  | whole (n : ℤ) : Canonical (.whole n)
  | real {x : Number.Binary64} (canonical : x.Canonical) : Canonical (.real x)

theorem same_iff {x y : NumberValue} (canonicalX : x.Canonical) (canonicalY : y.Canonical) :
    x.same y = true ↔ x.worth? = y.worth? := by
  cases canonicalX with
  | whole m =>
      cases canonicalY with
      | whole n => simp [same, worth?]
      | real _ => exact Number.Binary64.sameWhole_iff.trans eq_comm
  | real canonicalX =>
      cases canonicalY with
      | whole n => exact Number.Binary64.sameWhole_iff
      | real canonicalY => exact Number.Binary64.same_iff canonicalX canonicalY

theorem Canonical.exists_worth {x : NumberValue} (canonical : x.Canonical) :
    ∃ worth, x.worth? = some worth := by
  cases canonical with
  | whole n => exact ⟨_, rfl⟩
  | real canonical => cases canonical <;> exact ⟨_, rfl⟩

end NumberValue

/-! ## Numerals -/

namespace Numeral

theorem Body.canonical_value (negative : Bool) (body : Body) : (body.value negative).Canonical := by
  unfold Body.value
  split
  · exact .whole _
  · exact .whole _
  · exact .real (Number.Binary64.canonical_ofDecimal _ _ _ _)

theorem canonical_of_value {text : List Char} {number : NumberValue} (known : value text = .ok number) :
    number.Canonical := by
  unfold value at known
  split at known
  · contradiction
  · split at known
    · contradiction
    · cases known
      exact Body.canonical_value _ _

end Numeral

end DeclaredOptions
