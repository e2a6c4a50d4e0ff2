import DeclaredOptions.Literal.Reading
import DeclaredOptions.Proofs.Literal.Numeral
import DeclaredOptions.Proofs.Literal.Quoted
import DeclaredOptions.Proofs.Text.Cutting

/-!
Contract: the closed grammar of literals.

Owns:
- the fragments that are literals, with the one literal of each;
- reading, which gives these literals and refuses every other fragment.

Does not own: the bodies of quoted fragments, and the parts of numerals.
-/

set_option autoImplicit false

namespace DeclaredOptions.Literal

def truthWord (value : Bool) : List Char := if value then "true".toList else "false".toList

/-- A fragment is a literal in one of four forms: in quotation marks, as a numeral, as a truth word, or as
names with dots between them. -/
inductive Reads : List Char → Literal → Prop where
  | text {fragment value : List Char} (quoted : Quotes fragment value) :
      Reads fragment (.text (String.ofList value))
  | number {fragment : List Char} (spelled : Numeral.Spelled fragment) :
      Reads fragment (.number (String.ofList fragment))
  | truth (value : Bool) : Reads (truthWord value) (.truth value)
  | path {parts : List (List Char)} (nonempty : parts ≠ [])
      (names : ∀ part ∈ parts, isName part = true) (noTruth : ∀ value, parts ≠ [truthWord value]) :
      Reads (Text.join ['.'] parts) (.path (parts.map String.ofList))

/-! ## First characters -/

theorem exists_head_of_isName {part : List Char} (name : isName part = true) :
    ∃ first rest, part = first :: rest ∧ Text.isNameStart first = true ∧
      ∀ c ∈ rest, Text.isNamePart c = true := by
  cases part with
  | nil => contradiction
  | cons first rest =>
      rw [isName, Bool.and_eq_true, List.all_eq_true] at name
      exact ⟨first, rest, rfl, name⟩

theorem head_join_of_isName {parts : List (List Char)} (nonempty : parts ≠ [])
    (names : ∀ part ∈ parts, isName part = true) :
    ∃ c, (Text.join ['.'] parts).head? = some c ∧ Text.isNameStart c = true := by
  cases parts with
  | nil => exact absurd rfl nonempty
  | cons part more =>
      obtain ⟨first, rest, rfl, starts, -⟩ := exists_head_of_isName (names part List.mem_cons_self)
      refine ⟨first, ?_, starts⟩
      cases more with
      | nil => rfl
      | cons next last =>
          rw [Text.join_cons_of_ne_nil _ _ (List.cons_ne_nil next last)]
          rfl

theorem isNameStart_ranges {c : Char} (starts : Text.isNameStart c = true) :
    65 ≤ c.toNat ∧ c.toNat ≤ 90 ∨ 97 ≤ c.toNat ∧ c.toNat ≤ 122 ∨ c.toNat = 95 ∨ c.toNat = 36 := by
  have shape : Text.isNameStart c =
      (decide (65 ≤ c.val ∧ c.val ≤ 90) || decide (97 ≤ c.val) && decide (c.val ≤ 122) ||
        c == '_' || c == '$') := rfl
  rw [shape] at starts
  simp only [Bool.or_eq_true, Bool.and_eq_true, decide_eq_true_eq, beq_iff_eq,
    UInt32.le_iff_toNat_le] at starts
  have sameCode : c.val.toNat = c.toNat := rfl
  rw [sameCode] at starts
  rcases starts with ((⟨low, high⟩ | ⟨low, high⟩) | rfl) | rfl
  · exact .inl ⟨low, high⟩
  · exact .inr (.inl ⟨low, high⟩)
  · exact .inr (.inr (.inl rfl))
  · exact .inr (.inr (.inr rfl))

/-- No numeral and no quoted fragment begins as a name does. -/
theorem head_of_isNameStart {c : Char} (starts : Text.isNameStart c = true) :
    (c ≠ '"' ∧ c ≠ '\'') ∧ ¬(c = '+' ∨ c = '-' ∨ Numeral.isOpening c = true) := by
  have ranges := isNameStart_ranges starts
  have noDigit : Text.isDecimal c = false := by
    unfold Text.isDecimal Text.decimalValue?
    simp only
    rw [if_pos (by omega), if_neg (by simp; omega)]
    rfl
  have apart : ∀ mark : Char, mark.toNat < 65 → mark.toNat ≠ 36 → c ≠ mark := by
    rintro mark low notDollar rfl
    omega
  have notPoint := apart '.' (by decide) (by decide)
  refine ⟨⟨apart '"' (by decide) (by decide), apart '\'' (by decide) (by decide)⟩, ?_⟩
  rintro (plus | minus | opens)
  · exact apart '+' (by decide) (by decide) plus
  · exact apart '-' (by decide) (by decide) minus
  · simp [Numeral.isOpening, noDigit, notPoint] at opens

theorem quotedForm?_of_head {fragment : List Char} {c : Char} (first : fragment.head? = some c)
    (noMark : c ≠ '"' ∧ c ≠ '\'') : quotedForm? fragment = none := by
  cases cut : quotedForm? fragment with
  | none => rfl
  | some doubled =>
      obtain ⟨mark, body, isMark, rfl, -, -⟩ := exists_of_quotedForm? cut
      have sameMark : mark = c := Option.some.inj first
      rcases isMark with rfl | rfl
      · exact absurd sameMark.symm noMark.1
      · exact absurd sameMark.symm noMark.2

theorem quotedForm?_of_spelled {fragment : List Char} (spelled : Numeral.Spelled fragment) :
    quotedForm? fragment = none := by
  obtain ⟨c, first, opens⟩ := Numeral.head_of_spelled spelled
  apply quotedForm?_of_head first
  constructor
  · rintro rfl
    revert opens
    decide
  · rintro rfl
    revert opens
    decide

theorem isNumeral_of_head {fragment : List Char} {c : Char} (first : fragment.head? = some c)
    (starts : Text.isNameStart c = true) : Numeral.isNumeral fragment = false := by
  rw [Bool.eq_false_iff, ne_eq, Numeral.isNumeral_iff]
  intro spelled
  obtain ⟨opening, isHead, opens⟩ := Numeral.head_of_spelled spelled
  rw [isHead] at first
  rw [Option.some.inj first] at opens
  exact (head_of_isNameStart starts).2 opens

/-! ## Names with dots between them -/

theorem dot_not_mem_of_isName {part : List Char} (name : isName part = true) : '.' ∉ part := by
  obtain ⟨first, rest, rfl, starts, others⟩ := exists_head_of_isName name
  intro member
  rcases List.mem_cons.mp member with isFirst | inRest
  · rw [← isFirst] at starts
    revert starts
    decide
  · have namePart := others '.' inRest
    revert namePart
    decide

theorem pathParts?_eq_some_iff {text : List Char} {names : List String} :
    pathParts? text = some names ↔
      ∃ parts, parts ≠ [] ∧ (∀ part ∈ parts, isName part = true) ∧ text = Text.join ['.'] parts ∧
        names = parts.map String.ofList := by
  unfold pathParts?
  simp only [Option.ite_none_right_eq_some, Option.some.injEq, List.all_eq_true]
  constructor
  · rintro ⟨all, rfl⟩
    exact ⟨_, Text.pieces_ne_nil _ _, all, (Text.join_pieces '.' text).symm, rfl⟩
  · rintro ⟨parts, nonempty, all, rfl, rfl⟩
    rw [Text.pieces_join nonempty fun part member => dot_not_mem_of_isName (all part member)]
    exact ⟨all, rfl⟩

/-- The two truth words are no paths, and all other names are. -/
theorem ofPath_cases (parts : List (List Char)) :
    (∃ value, parts = [truthWord value] ∧
      ofPath (parts.map String.ofList) = .truth value) ∨
    (∀ value, parts ≠ [truthWord value]) ∧
      ofPath (parts.map String.ofList) = .path (parts.map String.ofList) := by
  by_cases isTruth : ∃ value, parts = [truthWord value]
  · obtain ⟨value, rfl⟩ := isTruth
    refine .inl ⟨value, rfl, ?_⟩
    cases value <;> rfl
  · have noTruth : ∀ value, parts ≠ [truthWord value] := not_exists.mp isTruth
    have noWord : ∀ value, parts.map String.ofList ≠ [truthWord value].map String.ofList := by
      intro value equal
      apply noTruth value
      exact List.map_injective_iff.mpr (fun _ _ same => String.ofList_injective same) equal
    refine .inr ⟨noTruth, ?_⟩
    unfold ofPath
    split
    · exact absurd ‹_› (noWord true)
    · exact absurd ‹_› (noWord false)
    · rfl

/-! ## Reading -/

/-- The literal that a fragment is, whatever refuses the others. -/
def ofFragment? (fragment : List Char) : Option Literal :=
  match quotedForm? fragment with
  | some doubled => (Escape.decode doubled).toOption.map fun value => .text (String.ofList value)
  | none =>
    if Numeral.isNumeral fragment then some (.number (String.ofList fragment))
    else (pathParts? fragment).map ofPath

theorem ofFragment?_of_names {parts : List (List Char)} (someParts : parts ≠ [])
    (names : ∀ part ∈ parts, isName part = true) :
    ofFragment? (Text.join ['.'] parts) = some (ofPath (parts.map String.ofList)) := by
  obtain ⟨c, first, starts⟩ := head_join_of_isName someParts names
  have isPath := pathParts?_eq_some_iff.mpr ⟨parts, someParts, names, rfl, rfl⟩
  unfold ofFragment?
  rw [quotedForm?_of_head first (head_of_isNameStart starts).1, isNumeral_of_head first starts,
    isPath]
  rfl

theorem ofFragment?_of_reads {fragment : List Char} {literal : Literal}
    (reads : Reads fragment literal) : ofFragment? fragment = some literal := by
  cases reads with
  | text quoted =>
      obtain ⟨doubled, cut, decoded⟩ := quotes_iff.mp quoted
      simp [ofFragment?, cut, decoded, Except.toOption]
  | number spelled =>
      simp [ofFragment?, quotedForm?_of_spelled spelled, Numeral.isNumeral_iff.mpr spelled]
  | truth value =>
      have name : ∀ part ∈ [truthWord value], isName part = true := by
        cases value <;> decide
      have joined : truthWord value = Text.join ['.'] [truthWord value] := rfl
      rw [joined, ofFragment?_of_names (List.cons_ne_nil _ _) name]
      cases value <;> rfl
  | path someParts names noTruth =>
      rw [ofFragment?_of_names someParts names]
      rcases ofPath_cases _ with ⟨value, isTruth, -⟩ | ⟨-, same⟩
      · exact absurd isTruth (noTruth value)
      · rw [same]

theorem reads_of_ofFragment? {fragment : List Char} {literal : Literal}
    (read : ofFragment? fragment = some literal) : Reads fragment literal := by
  unfold ofFragment? at read
  split at read
  · rename_i doubled cut
    cases decoded : Escape.decode doubled with
    | error fault =>
        rw [decoded] at read
        contradiction
    | ok value =>
        rw [decoded] at read
        rw [← Option.some.inj read]
        exact .text (quotes_iff.mpr ⟨doubled, cut, decoded⟩)
  · split at read
    · rename_i numeral
      rw [← Option.some.inj read]
      exact .number (Numeral.isNumeral_iff.mp numeral)
    · obtain ⟨names, isPath, rfl⟩ := Option.map_eq_some_iff.mp read
      obtain ⟨parts, someParts, areNames, rfl, rfl⟩ := pathParts?_eq_some_iff.mp isPath
      rcases ofPath_cases parts with ⟨value, rfl, same⟩ | ⟨noTruth, same⟩
      · rw [same]
        exact .truth value
      · rw [same]
        exact .path someParts areNames noTruth

theorem reads_iff {fragment : List Char} {literal : Literal} :
    Reads fragment literal ↔ ofFragment? fragment = some literal :=
  ⟨ofFragment?_of_reads, reads_of_ofFragment?⟩

/-- No fragment is two literals. -/
theorem Reads.unique {fragment : List Char} {first second : Literal}
    (readsFirst : Reads fragment first) (readsSecond : Reads fragment second) : first = second :=
  Option.some.inj ((reads_iff.mp readsFirst).symm.trans (reads_iff.mp readsSecond))

theorem not_reads_nil (literal : Literal) : ¬Reads [] literal := by
  rw [reads_iff]
  have none : ofFragment? [] = none := by decide
  rw [none]
  exact Option.some_ne_none literal ∘ Eq.symm

theorem parse_eq_ok_iff {text tag : Option String} {literal : Literal} :
    parse text tag = .ok literal ↔ Reads (Text.trim (text.getD "").toList) literal := by
  rw [reads_iff]
  unfold parse
  dsimp only
  generalize Text.trim (text.getD "").toList = fragment
  split
  · rename_i blank
    rw [List.isEmpty_iff.mp blank]
    constructor
    · exact nofun
    · intro read
      exact absurd (reads_of_ofFragment? read) (not_reads_nil literal)
  · unfold ofFragment?
    cases quotedForm? fragment with
    | some doubled =>
        simp only [ofQuotedBody]
        cases Escape.decode doubled <;> simp [Except.toOption]
    | none =>
        dsimp only
        split
        · simp
        · cases pathParts? fragment <;> simp

/-- Reading accepts exactly the closed grammar: it gives the literal of a fragment without the blanks at its
ends, and refuses what is no literal. No fragment is two literals. -/
theorem parse_closed_grammar (text tag : Option String) :
    (∀ literal, parse text tag = .ok literal ↔ Reads (Text.trim (text.getD "").toList) literal) ∧
    ((∃ refusal, parse text tag = .error refusal) ↔
      ∀ literal, ¬Reads (Text.trim (text.getD "").toList) literal) ∧
    ∀ first second, Reads (Text.trim (text.getD "").toList) first →
      Reads (Text.trim (text.getD "").toList) second → first = second := by
  refine ⟨fun literal => parse_eq_ok_iff, ?_, fun first second => Reads.unique⟩
  constructor
  · rintro ⟨refusal, refused⟩ literal reads
    rw [parse_eq_ok_iff.mpr reads] at refused
    contradiction
  · intro noLiteral
    cases read : parse text tag with
    | error refusal => exact ⟨refusal, rfl⟩
    | ok literal => exact absurd (parse_eq_ok_iff.mp read) (noLiteral literal)

end DeclaredOptions.Literal
