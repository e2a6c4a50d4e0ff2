import DeclaredOptions.Source.Lexeme
import Mathlib.Data.List.Basic

/-!
Contract: the characters that words of a source hold.

Owns:
- words as values: their characters, and their start;
- the fact that the length rule for words cuts only words;
- the characters that no word holds: blanks, dots, and every other mark but the backslash and the braces of
  escapes.

Does not own: which words are names.
-/

set_option autoImplicit false

namespace DeclaredOptions.Source

/-- A character of a word: a part of it by itself, or a part of an escape. -/
def isWordChar (c : Char) : Bool :=
  Lexeme.isWordPart c || c == '\\' || c == '\x7b' || c == '\x7d'

/-- A word: not empty, of word characters, and without an ASCII digit at its start. -/
structure IsWord (text : List Char) : Prop where
  nonempty : text ≠ []
  chars : ∀ c ∈ text, isWordChar c = true
  start : ∀ c ∈ text.head?, c.isDigit = false

namespace Lexeme

private theorem hexDigit_wordPart {c : Char} (hex : Text.isHex c = true) : isWordPart c = true := by
  have noMark : marks.contains c = false := by
    have noHexMark : marks.any Text.isHex = false := by decide
    by_contra contained
    have member : c ∈ marks := by simpa using contained
    exact List.any_eq_false.mp noHexMark c member hex
  unfold Text.isHex Text.hexValue? at hex
  unfold isWordPart
  have bounds : 0x30 ≤ c.toNat ∧ c.toNat ≤ 0x66 := by
    dsimp only at hex
    split_ifs at hex <;> simp_all <;> omega
  rw [if_pos (by omega), noMark]
  simp
  omega

private theorem hexDigits_wordChars {digits : List Char} (allHex : digits.all Text.isHex = true) :
    ∀ c ∈ digits, isWordChar c = true := by
  intro c member
  have hex : Text.isHex c = true := List.all_eq_true.mp allHex c member
  simp [isWordChar, hexDigit_wordPart hex]

private theorem take_takeWhile_closed {p : Char → Bool} {text : List Char} {close : Char}
    (closed : (text.drop (text.takeWhile p).length).head? = some close) :
    text.take ((text.takeWhile p).length + 1) = text.takeWhile p ++ [close] := by
  have before : text.take (text.takeWhile p).length = text.takeWhile p :=
    (List.prefix_iff_eq_take.mp (List.takeWhile_prefix p)).symm
  rw [List.take_add_one, before, ← List.head?_drop, closed]
  rfl

theorem wordEscape?_chars {text : List Char} {length : Nat}
    (escape : wordEscape? text = some length) : ∀ c ∈ text.take length, isWordChar c = true := by
  unfold wordEscape? at escape
  split at escape
  · rename_i rest
    simp only [Option.ite_none_right_eq_some, Option.some.injEq, Bool.and_eq_true] at escape
    obtain ⟨⟨-, closed⟩, rfl⟩ := escape
    have shape := take_takeWhile_closed (by simpa using closed)
    have digits : ∀ c ∈ rest.takeWhile Text.isHex, isWordChar c = true :=
      hexDigits_wordChars List.all_takeWhile
    intro c member
    simp only [List.take_succ_cons, shape, List.mem_cons, List.mem_append, List.not_mem_nil,
      or_false] at member
    rcases member with rfl | rfl | rfl | member | rfl
    case inr.inr.inr.inl => exact digits c member
    all_goals decide
  · rename_i a b c d rest
    simp only [Option.ite_none_right_eq_some, Option.some.injEq] at escape
    obtain ⟨allHex, rfl⟩ := escape
    intro x member
    simp only [List.take_succ_cons, List.take_zero, List.mem_cons] at member
    rcases member with rfl | rfl | member
    case inr.inr => exact hexDigits_wordChars allHex x (by simpa using member)
    all_goals decide
  · contradiction

theorem wordTail_chars (fuel : Nat) (text : List Char) :
    ∀ c ∈ text.take (wordTail text fuel), isWordChar c = true := by
  induction fuel generalizing text with
  | zero => simp [wordTail]
  | succ fuel inductionHypothesis =>
      intro c member
      unfold wordTail at member
      split at member
      · rename_i length escape
        rw [List.take_add, List.mem_append] at member
        rcases member with inEscape | after
        · exact wordEscape?_chars escape c inEscape
        · exact inductionHypothesis _ c after
      · split at member
        · rename_i first rest notEscape
          split at member
          · rename_i part
            rw [Nat.add_comm, List.take_succ_cons, List.mem_cons] at member
            rcases member with rfl | after
            · simp [isWordChar, part]
            · exact inductionHypothesis rest c after
          · simp at member
        · simp at member

theorem word?_isWord {text : List Char} {length : Nat} (cut : word? text = some length) :
    IsWord (text.take length) := by
  unfold word? at cut
  split at cut
  · contradiction
  · rename_i first rest
    simp only [Option.ite_none_left_eq_some, Option.some.injEq, Bool.or_eq_true, not_or,
      Bool.not_eq_true, beq_eq_false_iff_ne] at cut
    obtain ⟨⟨notDigit, positive⟩, rfl⟩ := cut
    obtain ⟨more, moreEq⟩ := Nat.exists_eq_succ_of_ne_zero positive
    refine ⟨?_, wordTail_chars _ _, ?_⟩
    · rw [moreEq]
      simp
    · rw [moreEq]
      intro c start
      have firstEq : first = c := by simpa using start
      rw [← firstEq, notDigit]

end Lexeme

/-! ## Characters outside of words -/

theorem isBlank_of_isWordChar {c : Char} (wordChar : isWordChar c = true) :
    Text.isBlank c = false := by
  unfold isWordChar at wordChar
  simp only [Bool.or_eq_true, beq_iff_eq] at wordChar
  rcases wordChar with ((part | rfl) | rfl) | rfl
  case inl.inl.inl =>
      unfold Lexeme.isWordPart at part
      dsimp only at part
      split at part
      · rename_i ascii
        simp only [Bool.and_eq_true, decide_eq_true_eq] at part
        simp [Text.isBlank]
        omega
      · simp only [Bool.not_eq_true', Bool.or_eq_false_iff] at part
        exact part.1.1.1
  all_goals decide

namespace IsWord

theorem dot_not_mem {text : List Char} (word : IsWord text) : '.' ∉ text := by
  intro member
  have dot := word.chars _ member
  revert dot
  decide

theorem head_bare {text : List Char} (word : IsWord text) :
    ∀ c ∈ text.head?, Text.isBlank c = false :=
  fun c first => isBlank_of_isWordChar (word.chars c (List.mem_of_mem_head? first))

end IsWord

end DeclaredOptions.Source
