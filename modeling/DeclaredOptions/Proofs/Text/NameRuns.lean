import DeclaredOptions.Text.Identifier

/-!
Contract: the runs of name characters of a text, and the capitals that they are joined by.

Owns:
- the characters of runs, which are name parts, and of which each run has one or more;
- the identifier that runs are joined to;
- the code points of capitals, each of which is a capital letter of ASCII or lies above ASCII;
- the name parts whose capital holds a combining mark, which is no name part.

Does not own: reserved words, and the classes of characters that a script sets apart.
-/

set_option autoImplicit false

namespace DeclaredOptions.Text

/-- What holds of the characters of ASCII can be read off their codes. -/
instance decidableForallAscii {P : Char → Prop} [DecidablePred P] :
    Decidable (∀ c : Char, c.toNat < 128 → P c) :=
  decidable_of_iff (∀ code < 128, P (Char.ofNat code)) ⟨
    fun all c ascii => Char.ofNat_toNat c ▸ all c.toNat ascii,
    fun all code ascii => all (Char.ofNat code) (by
      rwa [Char.ofNat, dif_pos (.inl (Nat.lt_trans ascii (by decide)))])⟩

/-! ## Code points of capitals -/

/-- The capitals that a run gives. -/
def CaseRun.capitals (run : CaseRun) : List Nat :=
  (List.range ((run.last - run.first) / run.step + 1)).map (run.image + run.step * ·)

theorem CaseRun.mem_capitals {run : CaseRun} {code capital : Nat} (form : run.form? code = some capital) :
    capital ∈ run.capitals ∧ run.first ≤ code ∧ code ≤ run.last := by
  unfold CaseRun.form? at form
  split at form
  · rename_i within
    rw [Bool.and_eq_true, Bool.and_eq_true, decide_eq_true_eq, decide_eq_true_eq, beq_iff_eq] at within
    obtain ⟨⟨above, below⟩, onStep⟩ := within
    have steps : run.step * ((code - run.first) / run.step) = code - run.first :=
      Nat.mul_div_cancel' (Nat.dvd_of_mod_eq_zero onStep)
    have fits : (code - run.first) / run.step ≤ (run.last - run.first) / run.step :=
      Nat.div_le_div_right (Nat.sub_le_sub_right below _)
    refine ⟨List.mem_map.mpr ⟨(code - run.first) / run.step, ?_, ?_⟩, above, below⟩
    · exact List.mem_range.mpr (Nat.lt_succ_of_le fits)
    · rw [steps]
      exact Option.some.inj form
  · contradiction

/-- Whether each of the codes lies in some of the closed ranges. -/
def allWithin (ranges : List (Nat × Nat)) (codes : List Nat) : Bool :=
  codes.all fun code => ranges.any fun range => range.1.ble code && code.ble range.2

theorem allWithin_iff {ranges : List (Nat × Nat)} {codes : List Nat} :
    allWithin ranges codes = true ↔
      ∀ code ∈ codes, ∃ range ∈ ranges, range.1 ≤ code ∧ code ≤ range.2 := by
  simp [allWithin]

/-- The word characters above ASCII, and the capital letters of ASCII. -/
def letterRanges : List (Nat × Nat) := (0x41, 0x5a) :: wordRanges.toList

/-- Letters, the combining marks of capitals, and the encircled capitals, which are no word characters. -/
def capitalRanges : List (Nat × Nat) := (0x300, 0x345) :: (0x24b6, 0x24cf) :: letterRanges

/-- The characters whose capital is written with a combining mark. -/
def markedCapitals : List Nat :=
  [0x1f0, 0x390, 0x3b0, 0x1e96, 0x1e97, 0x1e98, 0x1e99, 0x1f50, 0x1f52, 0x1f54, 0x1f56, 0x1fb6, 0x1fb7,
    0x1fc6, 0x1fc7, 0x1fd2, 0x1fd3, 0x1fd6, 0x1fd7, 0x1fe2, 0x1fe3, 0x1fe4, 0x1fe6, 0x1fe7, 0x1ff6, 0x1ff7]

/-- Runs of letters give letters, and the run of encircled letters gives encircled capitals. -/
theorem upperRuns_capitals : ∀ run ∈ upperRuns.toList,
    allWithin (letterRanges.dropWhile (·.2.blt run.image)) run.capitals = true ∨
      (allWithin [(0x24b6, 0x24cf)] run.capitals = true ∧ 0x24d0 ≤ run.first ∧ run.last ≤ 0x24e9) := by
  decide +kernel

/-- Expansions hold letters, and those of marked capitals hold marks too. -/
theorem upperExpansions_capitals : ∀ expansion ∈ upperExpansions.toList,
    allWithin ((0x300, 0x345) :: letterRanges) expansion.2 = true ∧
      (expansion.1 ∈ markedCapitals ↔ ∃ code ∈ expansion.2, 0x300 ≤ code ∧ code ≤ 0x345) := by
  decide +kernel

/-- A code point of capitals, which belongs to a character and to no lower-case letter of ASCII. -/
structure IsCapital (code : Nat) : Prop where
  valid : code.isValidChar
  letter : (0x41 ≤ code ∧ code ≤ 0x5a) ∨ 128 ≤ code

theorem IsCapital.toNat_ofNat {code : Nat} (isCapital : IsCapital code) : (Char.ofNat code).toNat = code := by
  rw [Char.ofNat, dif_pos isCapital.valid]
  rfl

theorem isCapital_of_mem {range : Nat × Nat} (listed : range ∈ capitalRanges) {code : Nat}
    (above : range.1 ≤ code) (below : code ≤ range.2) : IsCapital code := by
  have proper : ∀ range ∈ capitalRanges, ((0x41 ≤ range.1 ∧ range.2 ≤ 0x5a) ∨ 128 ≤ range.1) ∧
      (range.2 < 0xd800 ∨ (0xdfff < range.1 ∧ range.2 < 0x110000)) := by decide +kernel
  obtain ⟨letter, valid⟩ := proper range listed
  constructor
  · exact valid.imp (by omega) (by omega)
  · omega

theorem isCapital_of_upperRuns {run : CaseRun} (listed : run ∈ upperRuns.toList) {capital : Nat}
    (isCapital : capital ∈ run.capitals) : IsCapital capital := by
  rcases upperRuns_capitals run listed with letters | ⟨encircled, -⟩
  · obtain ⟨range, isRange, above, below⟩ := allWithin_iff.mp letters capital isCapital
    have inLetters := (List.dropWhile_sublist _).subset isRange
    exact isCapital_of_mem (List.mem_cons_of_mem _ (List.mem_cons_of_mem _ inLetters)) above below
  · obtain ⟨range, isRange, above, below⟩ := allWithin_iff.mp encircled capital isCapital
    rw [List.mem_singleton] at isRange
    exact isCapital_of_mem (isRange ▸ List.mem_cons_of_mem _ List.mem_cons_self) above below

theorem isCapital_of_upperExpansions {expansion : Nat × List Nat}
    (listed : expansion ∈ upperExpansions.toList) {capital : Nat} (isCapital : capital ∈ expansion.2) :
    IsCapital capital := by
  have within := (upperExpansions_capitals expansion listed).1
  obtain ⟨range, isRange, above, below⟩ := allWithin_iff.mp within capital isCapital
  have inCapitals : range ∈ capitalRanges := by
    rcases List.mem_cons.mp isRange with rfl | inLetters
    · exact List.mem_cons_self
    · exact List.mem_cons_of_mem _ (List.mem_cons_of_mem _ inLetters)
  exact isCapital_of_mem inCapitals above below

theorem letterRanges_gaps : ∀ range ∈ letterRanges,
    (range.2 < 0x300 ∨ 0x345 < range.1) ∧ (range.2 < 0x24d0 ∨ 0x24e9 < range.1) := by decide +kernel

theorem isNamePart_iff_letterRanges {c : Char}
    (letter : (0x41 ≤ c.toNat ∧ c.toNat ≤ 0x5a) ∨ 128 ≤ c.toNat) :
    isNamePart c = true ↔ ∃ range ∈ letterRanges, range.1 ≤ c.toNat ∧ c.toNat ≤ range.2 := by
  rcases letter with ⟨above, below⟩ | high
  · have all : ∀ c : Char, c.toNat < 128 → 0x41 ≤ c.toNat → c.toNat ≤ 0x5a → isNamePart c = true := by
      decide
    exact iff_of_true (all c (by omega) above below) ⟨_, List.mem_cons_self, above, below⟩
  · have notDollar : (c == '$') = false := beq_eq_false_iff_ne.mpr (by rintro rfl; contradiction)
    have notLetter : ¬(0x41 ≤ c.toNat ∧ c.toNat ≤ 0x5a) := by omega
    rw [isNamePart, notDollar, Bool.or_false, isWord, if_neg (Nat.not_lt.mpr high), inRanges,
      ← Array.any_toList, List.any_eq_true, letterRanges]
    simp [notLetter]

theorem IsCapital.isNamePart_iff {code : Nat} (isCapital : IsCapital code) :
    isNamePart (Char.ofNat code) = true ↔ ∃ range ∈ letterRanges, range.1 ≤ code ∧ code ≤ range.2 := by
  have sameCode := isCapital.toNat_ofNat
  rw [isNamePart_iff_letterRanges (sameCode.symm ▸ isCapital.letter), sameCode]

/-- The capital that a run gives to a name part is one too. -/
theorem isNamePart_of_upperRuns {run : CaseRun} (listed : run ∈ upperRuns.toList) {c : Char} {capital : Nat}
    (form : run.form? c.toNat = some capital) (isPart : isNamePart c = true) :
    isNamePart (Char.ofNat capital) = true := by
  obtain ⟨isCode, above, below⟩ := CaseRun.mem_capitals form
  rcases upperRuns_capitals run listed with letters | ⟨-, low, high⟩
  · obtain ⟨range, isRange, within⟩ := allWithin_iff.mp letters capital isCode
    have inLetters := (List.dropWhile_sublist _).subset isRange
    exact (isCapital_of_upperRuns listed isCode).isNamePart_iff.mpr ⟨range, inLetters, within⟩
  · -- encircled letters are no name parts themselves
    obtain ⟨range, inLetters, within⟩ := (isNamePart_iff_letterRanges (.inr (by omega))).mp isPart
    have gap := (letterRanges_gaps range inLetters).2
    omega

theorem isNamePart_of_upperExpansions_iff {expansion : Nat × List Nat}
    (listed : expansion ∈ upperExpansions.toList) :
    (∀ code ∈ expansion.2, isNamePart (Char.ofNat code) = true) ↔ expansion.1 ∉ markedCapitals := by
  obtain ⟨within, marks⟩ := upperExpansions_capitals expansion listed
  have apart (code : Nat) (isCode : code ∈ expansion.2) :
      isNamePart (Char.ofNat code) = true ↔ ¬(0x300 ≤ code ∧ code ≤ 0x345) := by
    rw [(isCapital_of_upperExpansions listed isCode).isNamePart_iff]
    constructor
    · rintro ⟨range, inLetters, above, below⟩ mark
      have gap := (letterRanges_gaps range inLetters).1
      omega
    · intro notMark
      obtain ⟨range, isRange, inRange⟩ := allWithin_iff.mp within code isCode
      rcases List.mem_cons.mp isRange with rfl | inLetters
      · exact absurd inRange notMark
      · exact ⟨range, inLetters, inRange⟩
  rw [marks, forall₂_congr apart]
  simp

/-! ## Capitals of characters -/

/-- The ways in which a character has its capital. -/
inductive HasCapital (c : Char) : List Char → Prop where
  | ascii (ascii : c.toNat < 128) : HasCapital c [c.toUpper]
  | expanded {capitals : List Nat} (listed : (c.toNat, capitals) ∈ upperExpansions.toList) :
      HasCapital c (capitals.map Char.ofNat)
  | run {run : CaseRun} {capital : Nat} (listed : run ∈ upperRuns.toList)
      (form : run.form? c.toNat = some capital)
      (single : ∀ expansion ∈ upperExpansions.toList, expansion.1 ≠ c.toNat) :
      HasCapital c [Char.ofNat capital]
  | self (high : 128 ≤ c.toNat)
      (single : ∀ expansion ∈ upperExpansions.toList, expansion.1 ≠ c.toNat) : HasCapital c [c]

theorem hasCapital_upperChar (c : Char) : HasCapital c (upperChar c) := by
  unfold upperChar
  split
  · rename_i ascii
    exact .ascii ascii
  · rename_i high
    split
    · rename_i code capitals found
      have sameCode : code = c.toNat := by simpa using Array.find?_some found
      exact .expanded (sameCode ▸ Array.mem_toList_iff.mpr (Array.mem_of_find?_eq_some found))
    · rename_i notFound
      have single : ∀ expansion ∈ upperExpansions.toList, expansion.1 ≠ c.toNat := by
        intro expansion listed sameCode
        have differs := Array.find?_eq_none.mp notFound expansion (Array.mem_toList_iff.mp listed)
        exact differs (beq_iff_eq.mpr sameCode)
      split
      · rename_i capital found
        obtain ⟨run, listed, form⟩ := Array.exists_of_findSome?_eq_some found
        exact .run (Array.mem_toList_iff.mpr listed) form single
      · exact .self (Nat.not_lt.mp high) single

namespace HasCapital

variable {c : Char} {capital : List Char} (hasCapital : HasCapital c capital)

include hasCapital

theorem ne_nil : capital ≠ [] := by
  have filled : ∀ expansion ∈ upperExpansions.toList, expansion.2 ≠ [] := by decide
  cases hasCapital with
  | expanded listed => exact fun none => filled _ listed (List.map_eq_nil_iff.mp none)
  | _ => exact List.cons_ne_nil _ _

/-- A character of a capital is the original one, which is then no lower-case letter of ASCII, or it has a
code point of capitals. -/
theorem eq_or_isCapital {d : Char} (member : d ∈ capital) :
    (d = c ∧ (c.toNat < 0x61 ∨ 0x7a < c.toNat)) ∨ IsCapital d.toNat := by
  cases hasCapital with
  | ascii ascii =>
      have all : ∀ c : Char, c.toNat < 128 → (c.toUpper = c ∧ (c.toNat < 0x61 ∨ 0x7a < c.toNat)) ∨
          (0x41 ≤ c.toUpper.toNat ∧ c.toUpper.toNat ≤ 0x5a) := by decide
      rw [List.mem_singleton.mp member]
      exact (all c ascii).imp_right fun letter => ⟨.inl (by omega), .inl letter⟩
  | expanded listed =>
      obtain ⟨code, isCode, rfl⟩ := List.mem_map.mp member
      have isCapital := isCapital_of_upperExpansions listed isCode
      exact .inr (isCapital.toNat_ofNat.symm ▸ isCapital)
  | run listed form =>
      have isCapital := isCapital_of_upperRuns listed (CaseRun.mem_capitals form).1
      rw [List.mem_singleton.mp member]
      exact .inr (isCapital.toNat_ofNat.symm ▸ isCapital)
  | self high => exact .inl ⟨List.mem_singleton.mp member, .inr (by omega)⟩

theorem not_lowerCase {d : Char} (member : d ∈ capital) : d.toNat < 0x61 ∨ 0x7a < d.toNat := by
  rcases hasCapital.eq_or_isCapital member with ⟨rfl, apart⟩ | isCapital
  · exact apart
  · have letter := isCapital.letter
    omega

/-- A name part has a capital of name parts, unless this holds a combining mark. -/
theorem isNamePart_iff (isPart : isNamePart c = true) :
    (∀ d ∈ capital, isNamePart d = true) ↔ c.toNat ∉ markedCapitals := by
  have expanded : ∀ code ∈ markedCapitals, ∃ expansion ∈ upperExpansions.toList, expansion.1 = code := by
    decide
  have notMarked (single : ∀ expansion ∈ upperExpansions.toList, expansion.1 ≠ c.toNat) :
      c.toNat ∉ markedCapitals := fun marked =>
    have ⟨expansion, listed, sameCode⟩ := expanded _ marked
    single expansion listed sameCode
  cases hasCapital with
  | ascii ascii =>
      have all : ∀ c : Char, c.toNat < 128 → isNamePart c = true →
          isNamePart c.toUpper = true ∧ c.toNat ∉ markedCapitals := by decide
      have ⟨upper, notMarked⟩ := all c ascii isPart
      exact iff_of_true (List.forall_mem_singleton.mpr upper) notMarked
  | expanded listed =>
      rw [List.forall_mem_map]
      exact isNamePart_of_upperExpansions_iff listed
  | run listed form single =>
      have upper := isNamePart_of_upperRuns listed form isPart
      exact iff_of_true (List.forall_mem_singleton.mpr upper) (notMarked single)
  | self _ single => exact iff_of_true (List.forall_mem_singleton.mpr isPart) (notMarked single)

end HasCapital

/-! ## Runs of name characters -/

theorem isNamePart_of_mem_nameRunsFrom {current : List Char}
    (parts : ∀ c ∈ current, isNamePart c = true) (text : List Char) :
    ∀ run ∈ nameRunsFrom current text, run ≠ [] ∧ ∀ c ∈ run, isNamePart c = true := by
  have completed {run : List Char} (filled : ¬run.isEmpty = true)
      (parts : ∀ c ∈ run, isNamePart c = true) :
      run.reverse ≠ [] ∧ ∀ c ∈ run.reverse, isNamePart c = true := by
    refine ⟨fun none => filled ?_, fun c member => parts c (List.mem_reverse.mp member)⟩
    rw [List.reverse_eq_nil_iff.mp none]
    rfl
  induction text generalizing current with
  | nil =>
      unfold nameRunsFrom
      split
      · simp
      · rename_i filled
        exact List.forall_mem_singleton.mpr (completed filled parts)
  | cons c rest inductionHypothesis =>
      have none : ∀ c ∈ ([] : List Char), isNamePart c = true := fun _ member => absurd member List.not_mem_nil
      unfold nameRunsFrom
      split
      · rename_i isPart
        exact inductionHypothesis (List.forall_mem_cons.mpr ⟨isPart, parts⟩)
      · split
        · exact inductionHypothesis none
        · rename_i filled
          exact List.forall_mem_cons.mpr ⟨completed filled parts, inductionHypothesis none⟩

/-- Each run of a text has characters, all of which are name parts. -/
theorem isNamePart_of_mem_nameRuns (text : List Char) :
    ∀ run ∈ nameRuns text, run ≠ [] ∧ ∀ c ∈ run, isNamePart c = true :=
  isNamePart_of_mem_nameRunsFrom (fun _ member => absurd member List.not_mem_nil) text

/-! ## Identifiers of texts -/

section

variable {text : List Char}

theorem identifierChars_of_nil (none : nameRuns text = []) : identifierChars text = ['_'] := by
  rw [identifierChars, none]

/-- The runs of a text are joined to its identifier, behind an underscore if they start with a digit. -/
theorem identifierChars_of_nameRuns {c : Char} {rest : List Char} {more : List (List Char)}
    (runs : nameRuns text = (c :: rest) :: more) :
    identifierChars text =
      (if isDigit c then ['_'] else []) ++ ((c :: rest) ++ more.flatMap capitalized) := by
  unfold identifierChars
  rw [runs]
  dsimp only [List.cons_append]
  split <;> rfl

/-- The characters of an identifier are those of the first run, and those of the others with their capitals. -/
theorem forall_mem_identifierChars_iff {P : Char → Prop} (underscore : P '_') :
    (∀ c ∈ identifierChars text, P c) ↔
      (∀ first ∈ (nameRuns text).head?, ∀ c ∈ first, P c) ∧
        ∀ run ∈ (nameRuns text).tail, ∀ c ∈ capitalized run, P c := by
  cases runs : nameRuns text with
  | nil =>
      rw [identifierChars_of_nil runs]
      simp [underscore]
  | cons first more =>
      have isFirst := isNamePart_of_mem_nameRuns text first (runs ▸ List.mem_cons_self)
      obtain ⟨c, rest, rfl⟩ := List.exists_cons_of_ne_nil isFirst.1
      have front : ∀ d ∈ if isDigit c then ['_'] else [], P d := by
        split <;> simp [underscore]
      rw [identifierChars_of_nameRuns runs, List.forall_mem_append, and_iff_right front,
        List.forall_mem_append, List.forall_mem_flatMap]
      simp

end

end DeclaredOptions.Text
