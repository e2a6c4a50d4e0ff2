import DeclaredOptions.Proofs.Literal.Grammar
import DeclaredOptions.Proofs.Text.IdentifierTable
import DeclaredOptions.Proofs.Text.ScriptString

/-!
Contract: the names of properties as a script writes them.

Owns:
- the characters of identifiers, and the names that identifiers spell;
- the property names of a script, which are identifiers or strings, with the units that each denotes;
- the length of a property name with an escape, which is more than that of the name it denotes.

Does not own: numbers and computed names.
-/

set_option autoImplicit false

namespace DeclaredOptions.Script

open Text (codeUnits inRanges units)

/-! ## Identifiers -/

/-- A dollar sign, a joiner, or a letter, a mark, a digit or a connector of some script. -/
def isIdentifierPart (c : Char) : Bool :=
  (Text.isWord c && !inRanges numberRanges c.toNat) || ['$', '\u200c', '\u200d'].contains c ||
    inRanges markRanges c.toNat

/-- A dollar sign, an underscore, or a letter of some script. -/
def isIdentifierStart (c : Char) : Bool :=
  c == '$' || inRanges startingMarkRanges c.toNat ||
    (Text.isWord c && !Text.isDecimal c && !inRanges innerDigitRanges c.toNat &&
      !inRanges numberRanges c.toNat)

structure IsIdentifier (name : List Char) : Prop where
  start : ∃ c ∈ name.head?, isIdentifierStart c = true
  parts : ∀ c ∈ name, isIdentifierPart c = true

/-- The text of an identifier and the name that it spells. An escape stands for one character of the name. -/
inductive Spells : List Char → List Char → Prop where
  | nil : Spells [] []
  | plain {c : Char} {text name : List Char} (noEscape : c ≠ '\\') (others : Spells text name) :
      Spells (c :: text) (c :: name)
  | unit {a b d e c : Char} {text name : List Char} (hex : hexNumber? [a, b, d, e] = some c.toNat)
      (others : Spells text name) : Spells ('\\' :: 'u' :: a :: b :: d :: e :: text) (c :: name)
  | point {digits text name : List Char} {c : Char} (nonempty : digits ≠ [])
      (hex : hexNumber? digits = some c.toNat) (others : Spells text name) :
      Spells ('\\' :: 'u' :: '\x7b' :: (digits ++ '\x7d' :: text)) (c :: name)

/-- A property name of a script with the units that it denotes. -/
inductive PropertyName : List Char → List Nat → Prop where
  | identifier {text name : List Char} (spells : Spells text name) (isIdentifier : IsIdentifier name) :
      PropertyName text (units name)
  | string {quote : QuoteMark} {body : List Char} {value : List Nat}
      (denotes : Denotes quote.char body value) :
      PropertyName (quote.char :: (body ++ [quote.char])) value

/-! ## Characters of identifiers -/

theorem inRanges_of_ascii {ranges : Array (Nat × Nat)} (high : ∀ range ∈ ranges.toList, 128 ≤ range.1)
    {code : Nat} (ascii : code < 128) : inRanges ranges code = false := by
  rw [inRanges, ← Bool.not_eq_true, Array.any_eq_true']
  rintro ⟨range, listed, within⟩
  have past := high range (Array.mem_toList_iff.mpr listed)
  rw [Bool.and_eq_true, decide_eq_true_eq] at within
  exact absurd (Nat.le_trans past within.1) (Nat.not_le.mpr ascii)

section Ascii

variable {c : Char} (ascii : c.toNat < 128)

include ascii

theorem isIdentifierPart_of_ascii : isIdentifierPart c = (c == '$' || Text.isWord c) := by
  have noJoiner : (c == '\u200c') = false ∧ (c == '\u200d') = false := by
    simp only [beq_eq_false_iff_ne]
    constructor <;> rintro rfl <;> contradiction
  have noMark : inRanges markRanges c.toNat = false := inRanges_of_ascii (by decide +kernel) ascii
  have noNumber : inRanges numberRanges c.toNat = false := inRanges_of_ascii (by decide +kernel) ascii
  rw [isIdentifierPart, List.contains_cons, List.contains_cons, List.contains_cons, List.contains_nil,
    noJoiner.1, noJoiner.2, noMark, noNumber]
  simp [Bool.or_comm]

theorem isIdentifierStart_of_ascii :
    isIdentifierStart c = (c == '$' || (Text.isWord c && !Text.isDecimal c)) := by
  have noMark : inRanges startingMarkRanges c.toNat = false :=
    inRanges_of_ascii (by decide +kernel) ascii
  have noDigit : inRanges innerDigitRanges c.toNat = false :=
    inRanges_of_ascii (by decide +kernel) ascii
  have noNumber : inRanges numberRanges c.toNat = false := inRanges_of_ascii (by decide +kernel) ascii
  simp [isIdentifierStart, noMark, noDigit, noNumber]

end Ascii

/-- Marks of strings, backslashes and line ends are in no identifier. -/
theorem isIdentifierPart_of_mem {c : Char} (mark : c ∈ ['\'', '"', '\x60', '\\', '\n', '\r']) :
    isIdentifierPart c = false := by
  have none : ['\'', '"', '\x60', '\\', '\n', '\r'].all
      (fun c => decide (c.toNat < 128) && !(c == '$' || Text.isWord c)) = true := by decide
  have asWord := List.all_eq_true.mp none c mark
  rw [Bool.and_eq_true, decide_eq_true_eq, Bool.not_eq_true'] at asWord
  rw [isIdentifierPart_of_ascii asWord.1]
  exact asWord.2

theorem isIdentifierStart_of_isNameStart {c : Char} (start : Text.isNameStart c = true) :
    isIdentifierStart c = true := by
  have all : ∀ code < 128, Text.isNameStart (Char.ofNat code) = true →
      (Char.ofNat code == '$' || (Text.isWord (Char.ofNat code) && !Text.isDecimal (Char.ofNat code))) =
        true := by decide
  have ranges := Literal.isNameStart_ranges start
  have ascii : c.toNat < 128 := by omega
  have sameChar := all c.toNat ascii
  rw [Char.ofNat_toNat] at sameChar
  rw [isIdentifierStart_of_ascii ascii]
  exact sameChar start

/-! ## Escapes in identifiers -/

section Spells

variable {text name : List Char}

/-- An identifier is the name that it spells, or longer. -/
theorem Spells.eq_or_length_lt (spells : Spells text name) :
    text = name ∨ (units name).length < (units text).length := by
  -- an escape has at least five units, and gives no more than two
  have escaped {c : Char} {escape text name : List Char} (long : 3 ≤ escape.length)
      (others : text = name ∨ (units name).length < (units text).length) :
      (units (c :: name)).length < (units (escape ++ text)).length := by
    have two := Text.codeUnits_length_le c.toNat
    have atLeast := length_le_length_units escape
    rw [Text.units_cons, units_append, List.length_append, List.length_append]
    rcases others with rfl | shorter <;> omega
  induction spells with
  | nil => exact .inl rfl
  | plain _ _ inductionHypothesis =>
      rw [Text.units_cons, Text.units_cons, List.length_append, List.length_append]
      exact inductionHypothesis.imp (congrArg _) (Nat.add_lt_add_left · _)
  | @unit a b d e c _ _ _ _ inductionHypothesis =>
      have long : 3 ≤ ['\\', 'u', a, b, d, e].length := by simp
      exact .inr (escaped long inductionHypothesis)
  | @point digits text _ c _ _ _ inductionHypothesis =>
      have long : 3 ≤ ('\\' :: 'u' :: '\x7b' :: (digits ++ ['\x7d'])).length := by simp
      have shorter := escaped (c := c) long inductionHypothesis
      rw [List.cons_append, List.cons_append, List.cons_append, List.append_assoc] at shorter
      exact .inr shorter

theorem Spells.eq_of_noEscape (spells : Spells text name) (noEscape : '\\' ∉ text) : text = name := by
  induction spells with
  | nil => rfl
  | plain _ _ inductionHypothesis =>
      rw [inductionHypothesis fun inRest => noEscape (List.mem_cons_of_mem _ inRest)]
  | unit => exact absurd List.mem_cons_self noEscape
  | point => exact absurd List.mem_cons_self noEscape

theorem spells_self (noEscape : '\\' ∉ text) : Spells text text := by
  induction text with
  | nil => exact .nil
  | cons c rest inductionHypothesis =>
      rw [List.mem_cons, not_or] at noEscape
      exact .plain (Ne.symm noEscape.1) (inductionHypothesis noEscape.2)

theorem IsIdentifier.not_mem (isIdentifier : IsIdentifier name) {mark : Char}
    (isMark : mark ∈ ['\'', '"', '\x60', '\\', '\n', '\r']) : mark ∉ name := by
  intro member
  have noPart := isIdentifierPart_of_mem isMark
  rw [isIdentifier.parts mark member] at noPart
  contradiction

/-- The text of an identifier does not begin with a mark of a string. -/
theorem Spells.head_ne (spells : Spells text name) (isIdentifier : IsIdentifier name) {mark : Char}
    (isMark : mark ∈ ['\'', '"', '\x60']) : text.head? ≠ some mark := by
  have noBackslash : '\\' ∉ ['\'', '"', '\x60'] := by decide
  intro isHead
  cases spells with
  | nil => contradiction
  | plain =>
      rw [Option.some.inj isHead] at isIdentifier
      have notThere := isIdentifier.not_mem (List.mem_append_left ['\\', '\n', '\r'] isMark)
      exact notThere List.mem_cons_self
  | unit => exact noBackslash (Option.some.inj isHead ▸ isMark)
  | point => exact noBackslash (Option.some.inj isHead ▸ isMark)

/-- An identifier with an escape is longer than the name that it spells. -/
theorem Spells.length_lt (spells : Spells text name) (isIdentifier : IsIdentifier name)
    (escaped : '\\' ∈ text) : (units name).length < (units text).length := by
  refine spells.eq_or_length_lt.resolve_left ?_
  rintro rfl
  exact isIdentifier.not_mem (by simp) escaped

end Spells

/-- Between two marks of a string there is a body, and no identifier. -/
theorem propertyName_quoted_iff {quote : QuoteMark} {body : List Char} {value : List Nat} :
    PropertyName (quote.char :: (body ++ [quote.char])) value ↔ Denotes quote.char body value := by
  constructor
  · intro named
    generalize whole : quote.char :: (body ++ [quote.char]) = text at named
    cases named with
    | identifier spells isIdentifier =>
        have isMark : quote.char ∈ ['\'', '"', '\x60'] := by cases quote <;> decide
        exact absurd (whole ▸ rfl) (spells.head_ne isIdentifier isMark)
    | string denotes =>
        obtain ⟨sameMark, rest⟩ := List.cons.inj whole
        rw [← sameMark] at denotes rest
        exact List.append_cancel_right rest ▸ denotes
  · exact .string

end DeclaredOptions.Script
