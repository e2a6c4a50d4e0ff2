import DeclaredOptions.Literal.Escape
import Mathlib.Data.List.Basic

/-!
Contract: texts as the sixteen-bit units that escapes spell.

Owns:
- the units of a character, and of a text;
- the text of units, in which a surrogate without its partner is replaced;
- the return of every text from its units.

Does not own: escapes.
-/

set_option autoImplicit false

namespace DeclaredOptions.Text

open Escape (isHigh isLow pairChar unitChar)

/-- A number as units: one, or the surrogate pair of a number beyond sixteen bits. -/
def codeUnits (code : Nat) : List Nat :=
  if code < 0x10000 then [code]
  else [0xD800 + (code - 0x10000) / 0x400, 0xDC00 + (code - 0x10000) % 0x400]

def units (text : List Char) : List Nat := text.flatMap fun c => codeUnits c.toNat

/-- The text of units: a high surrogate and the low one after it are one character. -/
def ofUnits : List Nat → List Char
  | [] => []
  | [unit] => [unitChar unit]
  | first :: second :: rest =>
    if isHigh first && isLow second then pairChar first second :: ofUnits rest
    else unitChar first :: ofUnits (second :: rest)

theorem units_cons (c : Char) (text : List Char) :
    units (c :: text) = codeUnits c.toNat ++ units text := rfl

theorem codeUnits_length_pos (code : Nat) : 0 < (codeUnits code).length := by
  unfold codeUnits
  split <;> simp

theorem codeUnits_length_le (code : Nat) : (codeUnits code).length ≤ 2 := by
  unfold codeUnits
  split <;> simp

/-- A unit that opens no pair stands for a character of its own. -/
theorem ofUnits_cons_of_alone {unit : Nat} {rest : List Nat}
    (alone : ∀ next ∈ rest.head?, (isHigh unit && isLow next) = false) :
    ofUnits (unit :: rest) = unitChar unit :: ofUnits rest := by
  cases rest with
  | nil => rfl
  | cons next more =>
      have noPair := alone next rfl
      rw [ofUnits, noPair]
      rfl

theorem ofUnits_pair {high low : Nat} (isPair : (isHigh high && isLow low) = true)
    (rest : List Nat) : ofUnits (high :: low :: rest) = pairChar high low :: ofUnits rest := by
  rw [ofUnits, isPair]
  rfl

theorem isHigh_toNat (c : Char) : isHigh c.toNat = false := by
  have valid := c.valid
  have sameCode : c.val.toNat = c.toNat := rfl
  simp only [UInt32.isValidChar, Nat.isValidChar, sameCode] at valid
  simp only [isHigh, Bool.and_eq_false_iff, decide_eq_false_iff_not]
  omega

theorem isLow_toNat (c : Char) : isLow c.toNat = false := by
  have valid := c.valid
  have sameCode : c.val.toNat = c.toNat := rfl
  simp only [UInt32.isValidChar, Nat.isValidChar, sameCode] at valid
  simp only [isLow, Bool.and_eq_false_iff, decide_eq_false_iff_not]
  omega

/-- The first unit of a character is no low surrogate. -/
theorem isLow_head_codeUnits_append (c : Char) (rest : List Nat) :
    ∀ unit ∈ (codeUnits c.toNat ++ rest).head?, isLow unit = false := by
  intro unit first
  unfold codeUnits at first
  split at first
  · rw [← Option.some.inj first]
    exact isLow_toNat c
  · have valid := c.valid
    have sameCode : c.val.toNat = c.toNat := rfl
    have same : 0xD800 + (c.toNat - 0x10000) / 0x400 = unit := Option.some.inj first
    simp only [UInt32.isValidChar, Nat.isValidChar, sameCode] at valid
    simp only [isLow, Bool.and_eq_false_iff, decide_eq_false_iff_not]
    omega

theorem unitChar_toNat (c : Char) : unitChar c.toNat = c := by
  unfold unitChar
  rw [isHigh_toNat, isLow_toNat]
  exact Char.ofNat_toNat c

/-- The units of a character in front of others are read as that character. -/
theorem ofUnits_codeUnits_append (c : Char) (rest : List Nat) :
    ofUnits (codeUnits c.toNat ++ rest) = c :: ofUnits rest := by
  unfold codeUnits
  split
  · rw [List.singleton_append, ofUnits_cons_of_alone, unitChar_toNat]
    intro next _
    rw [isHigh_toNat, Bool.false_and]
  · rename_i wide
    have bound : c.toNat < 0x110000 := by
      have valid := c.valid
      have sameCode : c.val.toNat = c.toNat := rfl
      simp only [UInt32.isValidChar, Nat.isValidChar, sameCode] at valid
      omega
    have isPair : (isHigh (0xD800 + (c.toNat - 0x10000) / 0x400) &&
        isLow (0xDC00 + (c.toNat - 0x10000) % 0x400)) = true := by
      simp only [isHigh, isLow, Bool.and_eq_true, decide_eq_true_eq]
      omega
    have sameCode : 0x10000 + (0xD800 + (c.toNat - 0x10000) / 0x400 - 0xD800) * 0x400 +
        (0xDC00 + (c.toNat - 0x10000) % 0x400 - 0xDC00) = c.toNat := by
      omega
    rw [List.cons_append, List.singleton_append, ofUnits_pair isPair, pairChar, sameCode,
      Char.ofNat_toNat]

/-- A text comes back from its units. -/
theorem ofUnits_units (text : List Char) : ofUnits (units text) = text := by
  induction text with
  | nil => rfl
  | cons c rest inductionHypothesis =>
      rw [units_cons, ofUnits_codeUnits_append, inductionHypothesis]

end DeclaredOptions.Text
