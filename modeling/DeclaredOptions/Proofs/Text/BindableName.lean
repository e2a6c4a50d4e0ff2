import DeclaredOptions.Proofs.Text.NameRuns
import DeclaredOptions.Proofs.Text.ScriptName

/-!
Contract: the names that a module of a script can bind, and the identifiers of texts among them.

Owns:
- the reserved words of a module, and the names that it can bind as far as word characters go;
- the texts whose identifier is such a name;
- the texts whose identifier is one of a script, which has no numbers other than digits.

Does not own: the names of declarations, which are identifiers of file stems where none is given.
-/

set_option autoImplicit false

namespace DeclaredOptions.Script

open Text (allWithin capitalized identifierChars inRanges isDigit isNamePart markedCapitals nameRuns upperExpansions
  upperRuns)

/-- Words that a module, whose code is strict, can bind to nothing. -/
def reservedWords : List String :=
  ["await", "break", "case", "catch", "class", "const", "continue", "debugger", "default", "delete", "do",
    "else", "enum", "export", "extends", "false", "finally", "for", "function", "if", "implements", "import",
    "in", "instanceof", "interface", "let", "new", "null", "package", "private", "protected", "public",
    "return", "static", "super", "switch", "this", "throw", "true", "try", "typeof", "var", "void", "while",
    "with", "yield"]

/-- Names that a module can bind start with a letter, an underscore or a dollar sign, go on with word
characters and dollar signs, and are not reserved. Numbers that are no digits count as word characters. -/
structure IsBindable (name : List Char) : Prop where
  start : ∃ c ∈ name.head?, isIdentifierStart c = true
  parts : ∀ c ∈ name, isNamePart c = true
  free : String.ofList name ∉ reservedWords

theorem isBindable_iff {name : List Char} :
    IsBindable name ↔ (∃ c ∈ name.head?, isIdentifierStart c = true) ∧
      (∀ c ∈ name, isNamePart c = true) ∧ String.ofList name ∉ reservedWords :=
  ⟨fun isBindable => ⟨isBindable.start, isBindable.parts, isBindable.free⟩,
    fun ⟨start, parts, free⟩ => ⟨start, parts, free⟩⟩

/-! ## Reserved words -/

theorem lowerCase_of_mem_reservedWords {word : String} (reserved : word ∈ reservedWords) {c : Char}
    (inWord : c ∈ word.toList) : 0x61 ≤ c.toNat ∧ c.toNat ≤ 0x7a := by
  have all : reservedWords.all (fun word => word.toList.all fun c => 0x61 ≤ c.toNat && c.toNat ≤ 0x7a) =
      true := by decide
  have lower := List.all_eq_true.mp (List.all_eq_true.mp all word reserved) c inWord
  simpa using lower

theorem not_mem_reservedWords {name : List Char} {c : Char} (member : c ∈ name)
    (apart : c.toNat < 0x61 ∨ 0x7a < c.toNat) : String.ofList name ∉ reservedWords := by
  intro reserved
  have inWord : c ∈ (String.ofList name).toList := String.toList_ofList.symm ▸ member
  have lower := lowerCase_of_mem_reservedWords reserved inWord
  omega

theorem not_lowerCase_of_isDigit {c : Char} (digit : isDigit c = true) : c.toNat < 0x61 ∨ 0x7a < c.toNat := by
  have all : ∀ c : Char, c.toNat < 128 → isDigit c = true → c.toNat < 0x61 := by decide
  by_cases ascii : c.toNat < 128
  · exact .inl (all c ascii digit)
  · omega

/-! ## Identifiers of texts -/

section

variable {text : List Char}

theorem start_identifierChars_iff :
    (∃ c ∈ (identifierChars text).head?, isIdentifierStart c = true) ↔
      ∀ first ∈ (nameRuns text).head?, ∀ c ∈ first.head?, isDigit c = true ∨ isIdentifierStart c = true := by
  have underscore : isIdentifierStart '_' = true := isIdentifierStart_of_isNameStart (by decide)
  cases runs : nameRuns text with
  | nil =>
      rw [Text.identifierChars_of_nil runs]
      simp [underscore]
  | cons first more =>
      have isFirst := Text.isNamePart_of_mem_nameRuns text first (runs ▸ List.mem_cons_self)
      obtain ⟨c, rest, rfl⟩ := List.exists_cons_of_ne_nil isFirst.1
      rw [Text.identifierChars_of_nameRuns runs]
      by_cases digit : isDigit c = true
      · simp [digit, underscore]
      · simp [digit]

theorem free_ofList_iff (name : List Char) :
    String.ofList name ∉ reservedWords ↔ ∀ word ∈ reservedWords, [name] ≠ [word.toList] := by
  constructor
  · rintro free word reserved same
    rw [(List.cons.inj same).1, String.ofList_toList] at free
    exact free reserved
  · intro apart reserved
    exact apart _ reserved (by rw [String.toList_ofList])

/-- A name is free behind an underscore, and with a capital, which the second run gives. -/
theorem free_identifierChars_iff :
    String.ofList (identifierChars text) ∉ reservedWords ↔
      ∀ word ∈ reservedWords, nameRuns text ≠ [word.toList] := by
  have isPart := Text.isNamePart_of_mem_nameRuns text
  cases runs : nameRuns text with
  | nil =>
      rw [Text.identifierChars_of_nil runs]
      exact iff_of_true (by decide) (by simp)
  | cons first more =>
      rw [runs, List.forall_mem_cons] at isPart
      obtain ⟨c, rest, rfl⟩ := List.exists_cons_of_ne_nil isPart.1.1
      rw [Text.identifierChars_of_nameRuns runs]
      cases more with
      | nil =>
          rw [List.flatMap_nil, List.append_nil, ← free_ofList_iff]
          split
          · rename_i digit
            have free : '_' ∈ ['_'] ++ c :: rest := List.mem_cons_self
            refine iff_of_true (not_mem_reservedWords free (by decide)) ?_
            exact not_mem_reservedWords List.mem_cons_self (not_lowerCase_of_isDigit digit)
          · rfl
      | cons other others =>
          obtain ⟨d, tail, rfl⟩ := List.exists_cons_of_ne_nil (isPart.2 other List.mem_cons_self).1
          have capital := Text.hasCapital_upperChar d
          obtain ⟨upper, member⟩ := List.exists_mem_of_ne_nil _ capital.ne_nil
          refine iff_of_true (not_mem_reservedWords ?_ (capital.not_lowerCase member)) (by simp)
          rw [List.flatMap_cons, capitalized]
          simp [member]

theorem parts_identifierChars_iff :
    (∀ c ∈ identifierChars text, isNamePart c = true) ↔
      ∀ run ∈ (nameRuns text).tail, ∀ c ∈ run.head?, c.toNat ∉ markedCapitals := by
  have isPart := Text.isNamePart_of_mem_nameRuns text
  have ofFirst : ∀ first ∈ (nameRuns text).head?, ∀ c ∈ first, isNamePart c = true :=
    fun first isFirst => (isPart first (List.mem_of_mem_head? isFirst)).2
  rw [Text.forall_mem_identifierChars_iff (by rfl), and_iff_right ofFirst]
  refine forall₂_congr fun run listed => ?_
  obtain ⟨filled, parts⟩ := isPart run (List.mem_of_mem_tail listed)
  obtain ⟨c, rest, rfl⟩ := List.exists_cons_of_ne_nil filled
  obtain ⟨first, others⟩ := List.forall_mem_cons.mp parts
  rw [capitalized, List.forall_mem_append, and_iff_left others,
    (Text.hasCapital_upperChar c).isNamePart_iff first]
  simp

end

/-- The identifier of a text can be bound exactly if the first run of the text starts with a digit or as
identifiers do, no later run starts with a character whose capital holds a combining mark, and the text is
no reserved word with other characters around it. A text without runs meets all three. -/
theorem isBindable_identifier_iff (text : String) :
    IsBindable (Text.identifier text).toList ↔
      (∀ first ∈ (nameRuns text.toList).head?, ∀ c ∈ first.head?,
        isDigit c = true ∨ isIdentifierStart c = true) ∧
      (∀ run ∈ (nameRuns text.toList).tail, ∀ c ∈ run.head?, c.toNat ∉ markedCapitals) ∧
      ∀ word ∈ reservedWords, nameRuns text.toList ≠ [word.toList] := by
  rw [Text.identifier, String.toList_ofList, isBindable_iff, start_identifierChars_iff,
    parts_identifierChars_iff, free_identifierChars_iff]

/-- A reserved word is its own identifier. -/
theorem not_isBindable_identifier_class : ¬IsBindable (Text.identifier "class").toList := by
  have same : Text.identifier "class" = "class" := by decide
  rintro ⟨-, -, free⟩
  rw [same, String.ofList_toList] at free
  exact free (by decide)

/-! ## Numbers that are no digits -/

/-- Ranges between the numbers that are no digits, as far as characters with capitals and these capitals
themselves lie in them. -/
def numberlessRanges : List (Nat × Nat) :=
  [(0x0, 0xb1), (0xb4, 0xb8), (0xbf, 0x9f3), (0xf34, 0x1371), (0x137d, 0x17ef), (0x17fa, 0x206f),
    (0x208a, 0x214f), (0x2160, 0x2188), (0x249c, 0x24e9), (0x2794, 0x2cfc), (0x2cfe, 0x2e2e),
    (0x32c0, 0xa82f), (0xa836, 0x10106), (0x10324, 0x10857), (0x10bb0, 0x10cf9), (0x1173c, 0x118e9),
    (0x16b62, 0x16e7f), (0x1e8d0, 0x1ec70)]

theorem upperRuns_numberless : ∀ run ∈ upperRuns.toList,
    (∃ range ∈ numberlessRanges, range.1 ≤ run.first ∧ run.last ≤ range.2) ∧
      allWithin numberlessRanges run.capitals = true := by decide +kernel

theorem upperExpansions_numberless : ∀ expansion ∈ upperExpansions.toList,
    allWithin numberlessRanges (expansion.1 :: expansion.2) = true := by decide +kernel

theorem inRanges_numberRanges_of_mem {range : Nat × Nat} (numberless : range ∈ numberlessRanges) {code : Nat}
    (above : range.1 ≤ code) (below : code ≤ range.2) : inRanges numberRanges code = false := by
  have apart : ∀ range ∈ numberlessRanges, ∀ numbers ∈ numberRanges.toList,
      numbers.2 < range.1 ∨ range.2 < numbers.1 := by decide +kernel
  rw [inRanges, ← Array.any_toList, List.any_eq_false]
  intro numbers listed within
  have beside := apart range numberless numbers listed
  rw [Bool.and_eq_true, decide_eq_true_eq, decide_eq_true_eq] at within
  omega

theorem isIdentifierPart_of_isNamePart {c : Char} (isPart : isNamePart c = true)
    (numberless : inRanges numberRanges c.toNat = false) : isIdentifierPart c = true := by
  rw [isNamePart, Bool.or_eq_true, beq_iff_eq] at isPart
  rcases isPart with word | rfl
  · simp [isIdentifierPart, word, numberless]
  · rfl

theorem isIdentifierPart_of_mark {c : Char} (above : 0x300 ≤ c.toNat) (below : c.toNat ≤ 0x345) :
    isIdentifierPart c = true := by
  have listed : (0x300, 0x36f) ∈ markRanges.toList := by decide
  have isMark : inRanges markRanges c.toNat = true := by
    rw [inRanges, ← Array.any_toList, List.any_eq_true]
    refine ⟨_, listed, ?_⟩
    rw [Bool.and_eq_true, decide_eq_true_eq, decide_eq_true_eq]
    exact ⟨above, Nat.le_trans below (by decide)⟩
  simp [isIdentifierPart, isMark]

theorem isIdentifierPart_of_upperExpansions {expansion : Nat × List Nat}
    (listed : expansion ∈ upperExpansions.toList) {code : Nat} (isCode : code ∈ expansion.2) :
    isIdentifierPart (Char.ofNat code) = true := by
  have isCapital := Text.isCapital_of_upperExpansions listed isCode
  have sameCode := isCapital.toNat_ofNat
  have ⟨_, inCapitals, within⟩ := Text.allWithin_iff.mp (Text.upperExpansions_capitals _ listed).1 code isCode
  rcases List.mem_cons.mp inCapitals with rfl | inLetters
  · exact isIdentifierPart_of_mark (sameCode.symm ▸ within.1) (sameCode.symm ▸ within.2)
  · have ⟨_, numberless, above, below⟩ := Text.allWithin_iff.mp (upperExpansions_numberless _ listed) code
      (List.mem_cons_of_mem _ isCode)
    refine isIdentifierPart_of_isNamePart (isCapital.isNamePart_iff.mpr ⟨_, inLetters, within⟩) ?_
    rw [sameCode]
    exact inRanges_numberRanges_of_mem numberless above below

/-- The capital of a name part consists of parts of identifiers exactly if the name part is one: combining marks are
such parts, and numbers have no capitals. -/
theorem isIdentifierPart_upperChar_iff {c : Char} (isPart : isNamePart c = true) :
    (∀ d ∈ Text.upperChar c, isIdentifierPart d = true) ↔ isIdentifierPart c = true := by
  have numbersAreHigh : ∀ range ∈ numberRanges.toList, 128 ≤ range.1 := by decide +kernel
  have capital := Text.hasCapital_upperChar c
  generalize Text.upperChar c = upper at capital
  cases capital with
  | ascii ascii =>
      have all : ∀ c : Char, c.toNat < 128 → isNamePart c = true →
          c.toUpper.toNat < 128 ∧ isNamePart c.toUpper = true := by decide
      have ⟨asciiUpper, isUpper⟩ := all c ascii isPart
      refine iff_of_true (List.forall_mem_singleton.mpr ?_) ?_
      · exact isIdentifierPart_of_isNamePart isUpper (inRanges_of_ascii numbersAreHigh asciiUpper)
      · exact isIdentifierPart_of_isNamePart isPart (inRanges_of_ascii numbersAreHigh ascii)
  | expanded listed =>
      have ⟨_, numberless, above, below⟩ := Text.allWithin_iff.mp (upperExpansions_numberless _ listed) _
        List.mem_cons_self
      refine iff_of_true (List.forall_mem_map.mpr fun _ => isIdentifierPart_of_upperExpansions listed) ?_
      exact isIdentifierPart_of_isNamePart isPart (inRanges_numberRanges_of_mem numberless above below)
  | run listed form =>
      obtain ⟨isCode, first, last⟩ := Text.CaseRun.mem_capitals form
      obtain ⟨⟨range, numberless, above, below⟩, capitals⟩ := upperRuns_numberless _ listed
      have ⟨_, numberlessCapital, within⟩ := Text.allWithin_iff.mp capitals _ isCode
      refine iff_of_true (List.forall_mem_singleton.mpr ?_) ?_
      · refine isIdentifierPart_of_isNamePart (Text.isNamePart_of_upperRuns listed form isPart) ?_
        rw [(Text.isCapital_of_upperRuns listed isCode).toNat_ofNat]
        exact inRanges_numberRanges_of_mem numberlessCapital within.1 within.2
      · refine isIdentifierPart_of_isNamePart isPart ?_
        exact inRanges_numberRanges_of_mem numberless (by omega) (by omega)
  | self => exact List.forall_mem_singleton

/-- The identifier of a text is one of a script exactly if the first run starts with a digit or as identifiers do, and
the runs hold no other word characters than parts of identifiers. -/
theorem isIdentifier_identifier_iff (text : String) :
    IsIdentifier (Text.identifier text).toList ↔
      (∀ first ∈ (nameRuns text.toList).head?, ∀ c ∈ first.head?,
        isDigit c = true ∨ isIdentifierStart c = true) ∧
      ∀ run ∈ nameRuns text.toList, ∀ c ∈ run, isIdentifierPart c = true := by
  have isIdentifier_iff (name : List Char) : IsIdentifier name ↔
      (∃ c ∈ name.head?, isIdentifierStart c = true) ∧ ∀ c ∈ name, isIdentifierPart c = true :=
    ⟨fun isIdentifier => ⟨isIdentifier.start, isIdentifier.parts⟩, fun ⟨start, parts⟩ => ⟨start, parts⟩⟩
  have underscore : isIdentifierPart '_' = true := by
    rw [isIdentifierPart_of_ascii (by decide)]
    rfl
  have isPart := Text.isNamePart_of_mem_nameRuns text.toList
  have capitals : ∀ run ∈ (nameRuns text.toList).tail,
      ((∀ c ∈ capitalized run, isIdentifierPart c = true) ↔ ∀ c ∈ run, isIdentifierPart c = true) := by
    intro run listed
    obtain ⟨filled, parts⟩ := isPart run (List.mem_of_mem_tail listed)
    obtain ⟨c, rest, rfl⟩ := List.exists_cons_of_ne_nil filled
    have first := isIdentifierPart_upperChar_iff (parts c List.mem_cons_self)
    rw [capitalized, List.forall_mem_append, List.forall_mem_cons, first]
  rw [Text.identifier, String.toList_ofList, isIdentifier_iff, start_identifierChars_iff,
    Text.forall_mem_identifierChars_iff underscore, forall₂_congr capitals]
  cases nameRuns text.toList <;> simp

end DeclaredOptions.Script
