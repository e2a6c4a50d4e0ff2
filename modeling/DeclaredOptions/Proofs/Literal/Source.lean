import DeclaredOptions.Proofs.Literal.Grammar
import DeclaredOptions.Proofs.Literal.RoundTrip
import DeclaredOptions.Proofs.Text.Delimited

/-!
Contract: literals that are told by their source texts.

Owns:
- the literals that schemas hold: texts of any kind, and whatever is read from fragments;
- the end of a source text, which a quotation mark or a mark behind the literal shows;
- the one literal of a source text.

Does not own: lists of literals.
-/

set_option autoImplicit false

namespace DeclaredOptions.Literal

/-- The marks that open literals and lists, or stand behind them. -/
def marks : List Char := ['"', '\'', '[', ']', ',', ' ']

def isMark (c : Char) : Bool := marks.contains c

theorem isMark_eq_false {p : Char → Bool} {c : Char} (holds : p c = true)
    (fails : marks.any p = false) : isMark c = false := by
  rw [Bool.eq_false_iff]
  intro listed
  have member : c ∈ marks := List.contains_iff_mem.mp listed
  exact List.any_eq_false.mp fails c member holds

/-! ## Literals without quotation marks -/

/-- The source text of a literal that needs no quotation marks is the fragment it is read from. -/
theorem toSource_of_reads {fragment : List Char} {literal : Literal} (reads : Reads fragment literal)
    (notText : ∀ value, literal ≠ .text value) (mark : QuoteMark) :
    (literal.toSource mark).toList = fragment := by
  cases reads with
  | text quoted => exact absurd rfl (notText _)
  | number spelled => simp [toSource]
  | truth value => cases value <;> rfl
  | path nonempty names noTruth =>
      simp [toSource, Text.joined, List.map_map, Function.comp_def]

theorem bare_of_reads {fragment : List Char} {literal : Literal} (reads : Reads fragment literal)
    (notText : ∀ value, literal ≠ .text value) : ∀ c ∈ fragment, isMark c = false := by
  intro c member
  cases reads with
  | text quoted => exact absurd rfl (notText _)
  | number spelled => exact isMark_eq_false (Numeral.inner_of_spelled spelled c member) (by decide)
  | truth value =>
      have bare : (truthWord value).any isMark = false := by cases value <;> decide
      simpa using List.any_eq_false.mp bare c member
  | path nonempty names noTruth =>
      rcases Text.mem_join member with rfl | ⟨part, isPart, inPart⟩
      · decide
      · obtain ⟨first, rest, rfl, starts, others⟩ := exists_head_of_isName (names part isPart)
        rcases List.mem_cons.mp inPart with rfl | inRest
        · exact isMark_eq_false starts (by decide)
        · exact isMark_eq_false (others c inRest) (by decide)

/-! ## Texts -/

/-- The character that an escape of a generated text stands for. -/
def unescaped (letter : Char) : Char :=
  if letter = 'n' then '\n' else if letter = 'r' then '\r' else if letter = 't' then '\t' else letter

theorem escapeChar_shape (mark : QuoteMark) (c : Char) :
    (c ≠ '\\' ∧ c ≠ mark.char ∧ escapeChar mark.char c = [c]) ∨
      ∃ letter, escapeChar mark.char c = ['\\', letter] ∧ unescaped letter = c := by
  rcases escapeChar_cases mark.char c with
    ⟨rfl, shape⟩ | ⟨isMark, shape⟩ | ⟨rfl, shape⟩ | ⟨rfl, shape⟩ | ⟨rfl, shape⟩ |
      ⟨notBackslash, notMark, -, -, -, shape⟩
  · exact .inr ⟨_, shape, by decide⟩
  · exact .inr ⟨_, shape, by rw [isMark]; cases mark <;> decide⟩
  · exact .inr ⟨_, shape, by decide⟩
  · exact .inr ⟨_, shape, by decide⟩
  · exact .inr ⟨_, shape, by decide⟩
  · exact .inl ⟨notBackslash, notMark, shape⟩

/-- The first character of an escaped text is no quotation mark, and its source tells it apart. -/
theorem escapeChar_inj {mark : QuoteMark} {c d : Char} {rest other : List Char}
    (same : escapeChar mark.char c ++ rest = escapeChar mark.char d ++ other) :
    c = d ∧ rest = other := by
  rcases escapeChar_shape mark c with ⟨cNotBackslash, -, cShape⟩ | ⟨cLetter, cShape, rfl⟩ <;>
    rcases escapeChar_shape mark d with ⟨dNotBackslash, -, dShape⟩ | ⟨dLetter, dShape, rfl⟩ <;>
    rw [cShape, dShape] at same <;>
    obtain ⟨sameHead, sameTail⟩ := List.cons.inj same
  · exact ⟨sameHead, sameTail⟩
  · exact absurd sameHead cNotBackslash
  · exact absurd sameHead.symm dNotBackslash
  · obtain ⟨sameLetter, sameRest⟩ := List.cons.inj sameTail
    exact ⟨by rw [sameLetter], sameRest⟩

theorem escapeChar_ne_mark {mark : QuoteMark} {c : Char} {rest other : List Char} :
    escapeChar mark.char c ++ rest ≠ mark.char :: other := by
  intro same
  rcases escapeChar_shape mark c with ⟨-, notMark, shape⟩ | ⟨letter, shape, -⟩ <;>
    rw [shape] at same <;>
    have sameHead := (List.cons.inj same).1
  · exact notMark sameHead
  · revert sameHead
    cases mark <;> decide

/-- An escaped text ends at the first quotation mark that stands alone. -/
theorem escaped_inj {mark : QuoteMark} {first second rest other : List Char}
    (same : escaped mark.char first ++ mark.char :: rest =
      escaped mark.char second ++ mark.char :: other) : first = second ∧ rest = other := by
  induction first generalizing second with
  | nil =>
      cases second with
      | nil => exact ⟨rfl, (List.cons.inj same).2⟩
      | cons d more =>
          rw [escaped_cons, List.append_assoc] at same
          exact absurd same.symm escapeChar_ne_mark
  | cons c first inductionHypothesis =>
      cases second with
      | nil =>
          rw [escaped_cons, List.append_assoc] at same
          exact absurd same escapeChar_ne_mark
      | cons d more =>
          rw [escaped_cons, escaped_cons, List.append_assoc, List.append_assoc] at same
          obtain ⟨rfl, sameTails⟩ := escapeChar_inj same
          obtain ⟨rfl, sameRest⟩ := inductionHypothesis sameTails
          exact ⟨rfl, sameRest⟩

theorem toSource_text (mark : QuoteMark) (value : String) (rest : List Char) :
    ((Literal.text value).toSource mark).toList ++ rest =
      mark.char :: (escaped mark.char value.toList ++ mark.char :: rest) := by
  simp [toSource, quote, escaped]

/-! ## Source texts -/

/-- The literals that schemas hold: texts, and what is read from fragments. -/
inductive Legible : Literal → Prop where
  | text (value : String) : Legible (.text value)
  | read {fragment : List Char} {literal : Literal} (reads : Reads fragment literal) :
      Legible literal

theorem Legible.cases (mark : QuoteMark) {literal : Literal} (legible : literal.Legible) :
    (∃ value, literal = .text value) ∨
      Reads (literal.toSource mark).toList literal ∧
        ∀ c ∈ (literal.toSource mark).toList, isMark c = false := by
  cases legible with
  | text value => exact .inl ⟨value, rfl⟩
  | @read fragment _ reads =>
      by_cases isText : ∃ value, literal = .text value
      · exact .inl isText
      · have notText := not_exists.mp isText
        rw [toSource_of_reads reads notText mark]
        exact .inr ⟨reads, bare_of_reads reads notText⟩

theorem head_bare_ne {source rest : List Char} {literal : Literal} {mark : Char}
    (reads : Reads source literal) (bare : ∀ c ∈ source, isMark c = false)
    (listed : isMark mark = true) : (source ++ rest).head? ≠ some mark := by
  cases source with
  | nil => exact absurd reads (not_reads_nil literal)
  | cons c more =>
      intro first
      rw [← Option.some.inj first, bare c List.mem_cons_self] at listed
      contradiction

theorem isMark_char (mark : QuoteMark) : isMark mark.char = true := by
  cases mark <;> decide

/-- A literal is told by its source text, whatever follows behind a mark. -/
theorem selfDelimiting_toSource (mark : QuoteMark) :
    Text.SelfDelimiting isMark Legible fun literal => (literal.toSource mark).toList := by
  intro a b rest other legibleA legibleB restStopped otherStopped same
  rcases legibleA.cases mark with ⟨value, rfl⟩ | ⟨readsA, bareA⟩ <;>
    rcases legibleB.cases mark with ⟨second, rfl⟩ | ⟨readsB, bareB⟩
  · rw [toSource_text, toSource_text] at same
    obtain ⟨sameValue, sameRest⟩ := escaped_inj (List.cons.inj same).2
    exact ⟨by rw [String.toList_inj.mp sameValue], sameRest⟩
  · rw [toSource_text] at same
    exact absurd (congrArg List.head? same).symm (head_bare_ne readsB bareB (isMark_char mark))
  · rw [toSource_text] at same
    exact absurd (congrArg List.head? same) (head_bare_ne readsA bareA (isMark_char mark))
  · obtain ⟨sameSource, sameRest⟩ :=
      Text.append_inj_of_stopped bareA bareB restStopped otherStopped same
    rw [sameSource] at readsA
    exact ⟨readsA.unique readsB, sameRest⟩

theorem head_toSource_ne {mark : QuoteMark} {literal : Literal} (legible : literal.Legible)
    {opening : Char} (listed : isMark opening = true) (noQuote : opening ≠ mark.char)
    (rest : List Char) : ((literal.toSource mark).toList ++ rest).head? ≠ some opening := by
  rcases legible.cases mark with ⟨value, rfl⟩ | ⟨reads, bare⟩
  · rw [toSource_text]
    intro first
    exact noQuote (Option.some.inj first).symm
  · exact head_bare_ne reads bare listed

end DeclaredOptions.Literal
