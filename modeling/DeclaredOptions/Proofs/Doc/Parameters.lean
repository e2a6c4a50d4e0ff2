import DeclaredOptions.Doc.Selection
import DeclaredOptions.Proofs.Text.Cutting

/-!
Contract: the comments of parameter tags, and the parameters that a block documents.

Owns:
- the forms in which a comment gives a parameter a text: with or without a type in braces, the name bare or in
  brackets, with or without a default, a dash or a text;
- the name and the text that are read from each of them;
- the first tag for a parameter, among any other tags.

Does not own: comments in other forms, and names that hold blanks, brackets or an equals sign.
-/

set_option autoImplicit false

namespace DeclaredOptions

open Text

/-! ## Forms of comments -/

namespace ParamTag

/-- A name that may stand bare and in brackets: no character of an identifier is a blank or one of these marks. -/
structure IsName (name : List Char) : Prop where
  nonempty : name ≠ []
  chars : ∀ c ∈ name, isBlank c = false ∧ c ∉ ['\x7b', '[', ']', '=']

/-- What may stand before the name: nothing, or a type in braces. -/
inductive Typed : List Char → Prop where
  | without : Typed []
  | braced {type gap : List Char} (closed : '\x7d' ∉ type) (blanks : IsGap gap) :
      Typed ('\x7b' :: (type ++ '\x7d' :: gap))

/-- How a name is written before the rest of a comment. A bare one is kept apart from the rest by a blank. -/
inductive Opens (name rest : List Char) : List Char → Prop where
  | bare (apart : ∀ c ∈ rest.head?, isBlank c = true) : Opens name rest name
  | bracketed {before after : List Char} (blanksBefore : IsGap before) (blanksAfter : IsGap after) :
      Opens name rest ('[' :: (before ++ name ++ after ++ [']']))
  | defaulted {before after value : List Char} (blanksBefore : IsGap before)
      (blanksAfter : IsGap after) (closed : ']' ∉ value) :
      Opens name rest ('[' :: (before ++ name ++ after ++ '=' :: (value ++ [']'])))

/-- What may stand behind the name: a text that does not open with a dash, or any text behind a dash. -/
inductive Remarks (text : List Char) : List Char → Prop where
  | plain (noDash : (trim text).head? ≠ some '-') : Remarks text text
  | dashed {gap : List Char} (blanks : IsGap gap) : Remarks text (gap ++ '-' :: text)

/-- A comment gives the parameter of a name a text. The text counts with the blanks before it, so that the forms
`n`, `n t` and `n - t`, and those with brackets, may have blanks between any two pieces. -/
inductive Documents (name text : List Char) : List Char → Prop where
  | mk {lead type start rest : List Char} (blanks : IsGap lead) (typed : Typed type)
      (isName : IsName name) (opens : Opens name rest start) (remarks : Remarks text rest) :
      Documents name text (lead ++ (type ++ (start ++ rest)))

/-! ## Names -/

variable {name text type start rest : List Char}

theorem IsName.hasBareEnds (isName : IsName name) : HasBareEnds name :=
  ⟨fun c first => (isName.chars c (List.mem_of_mem_head? first)).1,
    fun c last => (isName.chars c (List.mem_of_getLast? last)).1⟩

theorem IsName.bare (isName : IsName name) : ∀ c ∈ name, isBareNamePart c = true := by
  intro c member
  obtain ⟨bare, noMark⟩ := isName.chars c member
  simp only [List.mem_cons, List.not_mem_nil, or_false, not_or] at noMark
  simp [isBareNamePart, bare, noMark]

theorem Opens.ends (opens : Opens name rest start) (isName : IsName name) :
    (∃ c more, start = c :: more ∧ isBlank c = false ∧ c ≠ '\x7b') ∧
      ∃ init c, start = init ++ [c] ∧ isBlank c = false := by
  cases opens with
  | bare apart =>
      constructor
      · obtain ⟨c, more, isCons⟩ := List.exists_cons_of_ne_nil isName.nonempty
        obtain ⟨bare, noMark⟩ := isName.chars c (by simp [isCons])
        exact ⟨c, more, isCons, bare, fun isBrace => noMark (by simp [isBrace])⟩
      · obtain ⟨init, c, isConcat⟩ := (List.eq_nil_or_concat name).resolve_left isName.nonempty
        rw [List.concat_eq_append] at isConcat
        exact ⟨init, c, isConcat, (isName.chars c (by simp [isConcat])).1⟩
  | bracketed blanksBefore blanksAfter =>
      exact ⟨⟨'[', _, rfl, by decide, by decide⟩, '[' :: _, ']', rfl, by decide⟩
  | @defaulted before after value blanksBefore blanksAfter closed =>
      refine ⟨⟨'[', _, rfl, by decide, by decide⟩,
        '[' :: (before ++ name ++ after ++ '=' :: value), ']', ?_, by decide⟩
      simp

theorem inside_of_gap {gap : List Char} (blanks : IsGap gap) :
    ∀ c ∈ gap, (c != ']' && c != '=') = true := by
  intro c member
  have blank := blanks c member
  have apart : c ≠ ']' ∧ c ≠ '=' := by
    constructor
    · rintro rfl
      revert blank
      decide
    · rintro rfl
      revert blank
      decide
  simp [apart]

theorem bracketedName?_append {before after setting : List Char} (isName : IsName name)
    (blanksBefore : IsGap before) (blanksAfter : IsGap after)
    (sets : ∀ c ∈ setting.head?, c = '=') (closed : ']' ∉ setting) :
    bracketedName? (before ++ name ++ after ++ (setting ++ ']' :: rest)) =
      some (before ++ name ++ after, rest) := by
  have inside : ∀ c ∈ before ++ name ++ after, (c != ']' && c != '=') = true := by
    simp only [List.forall_mem_append]
    refine ⟨⟨inside_of_gap blanksBefore, fun c member => ?_⟩, inside_of_gap blanksAfter⟩
    have noMark := (isName.chars c member).2
    simp only [List.mem_cons, List.not_mem_nil, or_false, not_or] at noMark
    simp [noMark]
  have stops : ∀ c ∈ (setting ++ ']' :: rest).head?, (c != ']' && c != '=') = false := by
    cases setting with
    | nil => simp
    | cons c more =>
        have isSign : c = '=' := sets c rfl
        simp [isSign]
  obtain ⟨given, left⟩ := cut_append inside stops
  have behind : (setting ++ ']' :: rest).dropWhile (· != ']') = ']' :: rest := by
    have before : ∀ c ∈ setting, (c != ']') = true := by
      intro c member
      simpa using fun isClose : c = ']' => closed (isClose ▸ member)
    rw [List.dropWhile_append_of_pos before, List.dropWhile_cons_of_neg (by simp)]
  have nonempty : (before ++ name ++ after).isEmpty = false := by
    simp [isName.nonempty]
  unfold bracketedName?
  dsimp only
  rw [given, left, behind, nonempty]
  rfl

theorem paramName?_append (opens : Opens name rest start) (isName : IsName name) :
    ∃ given, paramName? (start ++ rest) = some (given, rest) ∧ trim given = name := by
  have trimmed : ∀ {before after : List Char}, IsGap before → IsGap after →
      trim (before ++ name ++ after) = name := fun blanksBefore blanksAfter =>
    trim_between blanksBefore blanksAfter isName.hasBareEnds isName.nonempty
  cases opens with
  | bare apart =>
      refine ⟨name, ?_, trim_of_hasBareEnds isName.hasBareEnds⟩
      have stops : ∀ c ∈ rest.head?, isBareNamePart c = false := by
        intro c first
        simp [isBareNamePart, apart c first]
      obtain ⟨given, left⟩ := cut_append isName.bare stops
      unfold paramName?
      split
      · -- a bare name does not open with a bracket
        rename_i more opened
        obtain ⟨c, others, isCons⟩ := List.exists_cons_of_ne_nil isName.nonempty
        have isBracket : c = '[' := by
          rw [isCons, List.cons_append] at opened
          exact (List.cons.inj opened).1
        exact absurd (by simp [isBracket]) (isName.chars c (by simp [isCons])).2
      · simp only [given, left]
        simp [isName.nonempty]
  | @bracketed before after blanksBefore blanksAfter =>
      refine ⟨before ++ name ++ after, ?_, trimmed blanksBefore blanksAfter⟩
      have cut := @bracketedName?_append name rest before after [] isName blanksBefore blanksAfter
        (by simp) (by simp)
      simpa [paramName?] using cut
  | @defaulted before after value blanksBefore blanksAfter closed =>
      refine ⟨before ++ name ++ after, ?_, trimmed blanksBefore blanksAfter⟩
      have cut := @bracketedName?_append name rest before after ('=' :: value) isName blanksBefore
        blanksAfter (by simp) (by simpa using closed)
      simpa [paramName?] using cut

/-! ## What is read -/

theorem skipBracedType_append (typed : Typed type)
    (opened : ∃ c more, rest = c :: more ∧ isBlank c = false ∧ c ≠ '\x7b') :
    skipBracedType (type ++ rest) = rest := by
  obtain ⟨c, more, rfl, bare, noBrace⟩ := opened
  cases typed with
  | without =>
      unfold skipBracedType
      split
      · rename_i opened
        exact absurd (List.cons.inj opened).1 noBrace
      · rfl
  | @braced type gap closed blanks =>
      have inside : ∀ c ∈ type, (c != '\x7d') = true := by
        intro c member
        simpa using fun isClose : c = '\x7d' => closed (isClose ▸ member)
      have behind : (type ++ '\x7d' :: (gap ++ c :: more)).dropWhile (· != '\x7d') =
          '\x7d' :: (gap ++ c :: more) := by
        rw [List.dropWhile_append_of_pos inside, List.dropWhile_cons_of_neg (by simp)]
      rw [List.cons_append, List.append_assoc, List.cons_append]
      simp only [skipBracedType, behind]
      exact trimStart_append blanks (by simpa using bare)

theorem paramText_trimEnd (remarks : Remarks text rest) : paramText (trimEnd rest) = trim text := by
  unfold paramText
  cases remarks with
  | plain noDash =>
      rw [trimStart_trimEnd]
      split
      · rename_i dash
        rw [dash] at noDash
        exact absurd rfl noDash
      · exact trim_trim text
  | @dashed gap blanks =>
      have ending : trimEnd (gap ++ '-' :: text) = gap ++ '-' :: trimEnd text :=
        dropEndWhile_append_cons (by decide) gap text
      rw [ending, trimStart_append blanks (by simp; decide)]
      show trimEnd (trimStart (trimEnd text)) = trim text
      rw [trimStart_trimEnd]
      exact trimEnd_trim text

theorem Opens.trimEnd (opens : Opens name rest start) : Opens name (trimEnd rest) start := by
  cases opens with
  | bare apart =>
      refine .bare fun c first => apart c ?_
      obtain ⟨dropped, split⟩ := dropEndWhile_prefix isBlank rest
      have first : c ∈ (dropEndWhile isBlank rest).head? := first
      rw [← split, List.head?_append, first]
      rfl
  | bracketed blanksBefore blanksAfter => exact .bracketed blanksBefore blanksAfter
  | defaulted blanksBefore blanksAfter closed => exact .defaulted blanksBefore blanksAfter closed

/-- A comment in one of the forms is read as the name and the trimmed text. -/
theorem paramTag_of_documents {comment : String}
    (documents : Documents name text comment.toList) :
    paramTag comment = (some (String.ofList name), String.ofList (trim text)) := by
  generalize written : comment.toList = chars at documents
  obtain ⟨blanks, typed, isName, opens, remarks⟩ := documents
  rename_i lead type start rest
  obtain ⟨first, ⟨init, last, isConcat, bareLast⟩⟩ := opens.ends isName
  obtain ⟨c, more, isCons, bareFirst, noBrace⟩ := first
  -- the name ends bare, so that blanks are cut off the text behind it and nothing else
  have ending : trimEnd (type ++ (start ++ rest)) = type ++ (start ++ trimEnd rest) := by
    have cut := dropEndWhile_append_cons (p := isBlank) bareLast (type ++ init) rest
    rw [isConcat]
    simpa [Text.trimEnd] using cut
  have bareHead : ∀ c ∈ (type ++ (start ++ rest)).head?, isBlank c = false := by
    cases typed with
    | without => simpa [isCons] using bareFirst
    | braced closed blanks => simp; decide
  have trimmed : trim (lead ++ (type ++ (start ++ rest))) = type ++ (start ++ trimEnd rest) := by
    rw [trim, trimStart_append blanks bareHead, ending]
  obtain ⟨given, cut, isGiven⟩ := paramName?_append opens.trimEnd isName
  have skipped : skipBracedType (type ++ (start ++ trimEnd rest)) = start ++ trimEnd rest :=
    skipBracedType_append typed ⟨c, more ++ trimEnd rest, by simp [isCons], bareFirst, noBrace⟩
  unfold paramTag
  rw [written, trimmed, skipped, cut]
  dsimp only
  rw [isGiven, paramText_trimEnd remarks]
  simp [isName.nonempty]

end ParamTag

/-! ## Blocks -/

/-- A tag of a block gives the parameter of a name a text. -/
def DocTag.Gives (tag : DocTag) (name text : String) : Prop :=
  tag.name = "param" ∧ ∃ written, ParamTag.Documents name.toList written tag.comment.toList ∧
    text = String.ofList (trim written)

theorem DocTag.Gives.paramTag_eq {tag : DocTag} {name text : String} (gives : tag.Gives name text) :
    paramTag tag.comment = (some name, text) := by
  obtain ⟨-, written, form, rfl⟩ := gives
  rw [ParamTag.paramTag_of_documents form, String.ofList_toList]

/-- The text that is read from a tag of a block for a parameter. -/
def textOf? (wanted : String) (tag : DocTag) : Option String :=
  if tag.name == "param" then
    if (paramTag tag.comment).1 == some wanted then some (paramTag tag.comment).2 else none
  else none

/-- The tags that are left out beforehand are those from which nothing is read. -/
theorem paramDoc?_eq (block : DocBlock) (wanted : String) :
    paramDoc? (some block) wanted = block.tags.findSome? (textOf? wanted) := by
  show (block.tags.filter fun tag => tag.name == "param").findSome? (fun tag =>
    if (paramTag tag.comment).1 == some wanted then some (paramTag tag.comment).2 else none) = _
  induction block.tags with
  | nil => rfl
  | cons tag rest inductionHypothesis =>
      rw [List.findSome?_cons, ← inductionHypothesis, List.filter_cons]
      unfold textOf?
      split
      · rw [List.findSome?_cons]
      · rfl

theorem textOf?_eq_some_iff {tag : DocTag} {wanted text : String}
    (documents : tag.name = "param" → ∃ name text, tag.Gives name text) :
    textOf? wanted tag = some text ↔ tag.Gives wanted text := by
  unfold textOf?
  constructor
  · intro found
    split at found
    · rename_i isParam
      obtain ⟨name, given, gives⟩ := documents (beq_iff_eq.mp isParam)
      rw [gives.paramTag_eq] at found
      split at found
      · rename_i isWanted
        have isName : name = wanted := by simpa using isWanted
        rw [← isName, ← Option.some.inj found]
        exact gives
      · contradiction
    · contradiction
  · intro gives
    rw [gives.paramTag_eq, gives.1]
    simp

/-- A comment in one of the forms is read as the name and the trimmed text. Of a block whose parameter tags are all
in these forms, a parameter has the text of the first tag that gives it one, and none if no tag does. -/
theorem paramDoc?_of_documents :
    (∀ (name text : List Char) (comment : String),
      ParamTag.Documents name text comment.toList →
        paramTag comment = (some (String.ofList name), String.ofList (trim text))) ∧
    ∀ block : DocBlock,
      (∀ tag ∈ block.tags, tag.name = "param" → ∃ name text, tag.Gives name text) →
      ∀ wanted : String,
        (∀ text, paramDoc? (some block) wanted = some text ↔
          ∃ before tag after, block.tags = before ++ tag :: after ∧ tag.Gives wanted text ∧
            ∀ earlier ∈ before, ∀ other, ¬earlier.Gives wanted other) ∧
        (paramDoc? (some block) wanted = none ↔
          ∀ tag ∈ block.tags, ∀ text, ¬tag.Gives wanted text) := by
  refine ⟨fun name text comment documents => ParamTag.paramTag_of_documents documents, ?_⟩
  intro block allGive wanted
  have silent : ∀ tag ∈ block.tags,
      (textOf? wanted tag = none ↔ ∀ text, ¬tag.Gives wanted text) := by
    intro tag member
    rw [Option.eq_none_iff_forall_ne_some]
    exact forall_congr' fun text => not_congr (textOf?_eq_some_iff (allGive tag member))
  rw [paramDoc?_eq]
  constructor
  · intro text
    rw [List.findSome?_eq_some_iff]
    constructor
    · rintro ⟨before, tag, after, split, found, silentBefore⟩
      rw [split] at allGive silent
      refine ⟨before, tag, after, split, ?_, fun earlier member => ?_⟩
      · exact (textOf?_eq_some_iff (allGive tag (by simp))).mp found
      · exact (silent earlier (List.mem_append_left _ member)).mp (silentBefore earlier member)
    · rintro ⟨before, tag, after, split, gives, silentBefore⟩
      rw [split] at allGive silent
      refine ⟨before, tag, after, split, ?_, fun earlier member => ?_⟩
      · exact (textOf?_eq_some_iff (allGive tag (by simp))).mpr gives
      · exact (silent earlier (List.mem_append_left _ member)).mpr (silentBefore earlier member)
  · rw [List.findSome?_eq_none_iff]
    exact forall₂_congr silent

/-- A block in which a type, a default and an unrelated tag hold marks of the forms. -/
def greetBlock : DocBlock :=
  ⟨"Greets.", [⟨"param", "{A[] | null} who - the one - or none", 2⟩, ⟨"returns", "[times] none", 3⟩,
    ⟨"param", "[ times=2 - 1 ]\thow often", 4⟩], 1⟩

theorem paramDoc?_of_documents_times :
    (∀ tag ∈ greetBlock.tags, tag.name = "param" → ∃ name text, tag.Gives name text) ∧
      paramTag "{A[] | null} who - the one - or none" = (some "who", "the one - or none") ∧
      paramDoc? (some greetBlock) "times" = some "how often" ∧
      paramDoc? (some greetBlock) "loud" = none := by
  have who : ParamTag.Documents "who".toList " the one - or none".toList
      "{A[] | null} who - the one - or none".toList := by
    have typed : ParamTag.Typed "{A[] | null} ".toList :=
      @ParamTag.Typed.braced "A[] | null".toList [' '] (by decide) (by decide)
    exact @ParamTag.Documents.mk _ _ [] _ _ _ (by decide) typed ⟨by decide, by simp; decide⟩
      (.bare (by simp; decide)) (@ParamTag.Remarks.dashed _ [' '] (by decide))
  have times : ParamTag.Documents "times".toList "\thow often".toList
      "[ times=2 - 1 ]\thow often".toList := by
    have opens : ParamTag.Opens "times".toList "\thow often".toList "[ times=2 - 1 ]".toList :=
      @ParamTag.Opens.defaulted _ _ [' '] [] "2 - 1 ".toList (by decide) (by decide) (by decide)
    exact @ParamTag.Documents.mk _ _ [] _ _ _ (by decide) .without ⟨by decide, by simp; decide⟩ opens
      (.plain (by decide))
  have allGive : ∀ tag ∈ greetBlock.tags,
      tag.name = "param" → ∃ name text, tag.Gives name text := by
    intro tag member isParam
    simp only [greetBlock, List.mem_cons, List.not_mem_nil, or_false] at member
    rcases member with rfl | rfl | rfl
    · exact ⟨"who", _, rfl, _, who, rfl⟩
    · exact absurd isParam (by decide)
    · exact ⟨"times", _, rfl, _, times, rfl⟩
  have read := paramDoc?_of_documents.2 greetBlock allGive
  have names : ∀ tag ∈ greetBlock.tags, tag.name = "param" →
      (paramTag tag.comment).1 ≠ some "loud" ∧
        ((paramTag tag.comment).1 = some "times" → tag ∉ greetBlock.tags.take 2) := by decide
  have whoRead : paramTag "{A[] | null} who - the one - or none" =
      (some "who", "the one - or none") := (paramDoc?_of_documents.1 _ _ _ who).trans (by decide)
  refine ⟨allGive, whoRead, ((read "times").1 _).mpr ?_, (read "loud").2.mpr ?_⟩
  · refine ⟨greetBlock.tags.take 2, _, [], rfl, ⟨rfl, _, times, by decide⟩, ?_⟩
    intro earlier member other gives
    have apart := names earlier (List.mem_of_mem_take member) gives.1
    exact apart.2 (congrArg Prod.fst gives.paramTag_eq) member
  · intro tag member text gives
    exact (names tag member gives.1).1 (congrArg Prod.fst gives.paramTag_eq)

end DeclaredOptions
