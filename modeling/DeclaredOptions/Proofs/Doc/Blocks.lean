import DeclaredOptions.Doc.Block
import DeclaredOptions.Proofs.Text.Lines
import Mathlib.Data.List.Forall2

/-!
Contract: how the lines of a comment are shared out among the description and the tags of its block.

Owns:
- the body of a comment, and its cleaned lines with their numbers;
- what a line that opens a tag is made up of;
- the division of the lines into those before the first tag and a run for each tag;
- the summary, which is the first line of the description.

Does not own: which tags count and what their texts mean.
-/

set_option autoImplicit false

namespace DeclaredOptions.DocBlock

/-! ## Lines that open tags -/

/-- A line starts with `@` and an ASCII letter, an underscore or a dollar sign. -/
def OpensTag (line : List Char) : Prop :=
  ∃ first rest, line = '@' :: first :: rest ∧ Text.isNameStart first = true

/-- A line that opens a tag: `@` and a name that goes as far as it can, blanks, and the rest. -/
structure Opens (line name comment : List Char) : Prop where
  named : ∃ first rest, name = first :: rest ∧ Text.isNameStart first = true ∧
    ∀ c ∈ rest, isTagNamePart c = true
  written : ∃ blanks, line = '@' :: (name ++ (blanks ++ comment)) ∧
    (∀ c ∈ blanks, Text.isBlank c = true) ∧
    ∀ c ∈ (blanks ++ comment).head?, isTagNamePart c = false
  bare : ∀ c ∈ comment.head?, Text.isBlank c = false

private theorem tagLine?_named {first : Char} (rest : List Char)
    (starts : Text.isNameStart first = true) :
    tagLine? ('@' :: first :: rest) = some (first :: rest.takeWhile isTagNamePart,
      Text.trimStart (rest.dropWhile isTagNamePart)) := by
  rw [tagLine?, if_pos starts]

theorem opens_of_tagLine? {line name comment : List Char}
    (opened : tagLine? line = some (name, comment)) : Opens line name comment := by
  unfold tagLine? at opened
  split at opened
  · rename_i first rest
    split at opened
    · rename_i starts
      rw [Option.some.injEq, Prod.mk.injEq] at opened
      obtain ⟨rfl, rfl⟩ := opened
      have cut : (rest.dropWhile isTagNamePart).takeWhile Text.isBlank ++
          Text.trimStart (rest.dropWhile isTagNamePart) = rest.dropWhile isTagNamePart :=
        List.takeWhile_append_dropWhile
      refine ⟨⟨first, _, rfl, starts, fun c member => List.mem_takeWhile_imp member⟩,
        ⟨(rest.dropWhile isTagNamePart).takeWhile Text.isBlank, ?_,
          fun c member => List.mem_takeWhile_imp member, ?_⟩, ?_⟩
      · rw [cut, List.cons_append, List.takeWhile_append_dropWhile]
      · rw [cut]
        exact Text.head_dropWhile isTagNamePart rest
      · exact Text.head_dropWhile Text.isBlank _
    · contradiction
  · contradiction

theorem tagLine?_eq_none_iff {line : List Char} : tagLine? line = none ↔ ¬OpensTag line := by
  constructor
  · rintro closed ⟨first, rest, rfl, starts⟩
    rw [tagLine?_named rest starts] at closed
    contradiction
  · intro noTag
    unfold tagLine?
    split
    · rename_i first rest
      rw [if_neg fun starts => noTag ⟨first, rest, rfl, starts⟩]
    · rfl

/-! ## Runs of lines -/

/-- A run of numbered lines is the one that a group was formed from: the line that opens the tag, and
lines that open none. -/
def TagLines.Holds (group : TagLines) (run : List (List Char × Nat)) : Prop :=
  ∃ opening comment continued, run = (opening, group.line) :: continued ∧
    Opens opening group.name comment ∧
    (∀ current ∈ continued, ¬OpensTag current.1) ∧
    group.comment = comment :: continued.map Prod.fst

theorem groupLines_divides (lines : List (List Char)) (line : Nat) :
    ∃ runs, lines.zipIdx line = (groupLines line lines).1.zipIdx line ++ runs.flatten ∧
      (∀ current ∈ (groupLines line lines).1, ¬OpensTag current) ∧
      List.Forall₂ TagLines.Holds (groupLines line lines).2 runs := by
  induction lines generalizing line with
  | nil => exact ⟨[], rfl, by simp [groupLines], .nil⟩
  | cons current rest inductionHypothesis =>
      obtain ⟨runs, cut, noTags, held⟩ := inductionHypothesis (line + 1)
      rw [groupLines, List.zipIdx_cons, cut]
      cases opened : tagLine? current with
      | some opening =>
          obtain ⟨name, comment⟩ := opening
          refine ⟨((current, line) :: (groupLines (line + 1) rest).1.zipIdx (line + 1)) :: runs,
            rfl, by simp, .cons ⟨current, comment, _, rfl, opens_of_tagLine? opened, ?_, ?_⟩ held⟩
          · intro numbered member
            exact noTags _ (List.fst_mem_of_mem_zipIdx member)
          · rw [List.zipIdx_map_fst]
      | none =>
          refine ⟨runs, by simp [List.zipIdx_cons], ?_, held⟩
          rw [List.forall_mem_cons]
          exact ⟨tagLine?_eq_none_iff.mp opened, noTags⟩

/-! ## The body of a comment -/

/-- The body of a comment: what stands between its marks, or the whole of a text that does not have
both; `/**/` has both, which share a star. -/
inductive IsBody : List Char → List Char → Prop where
  | marked (body : List Char) : IsBody ("/**".toList ++ body ++ "*/".toList) body
  | sharedStar : IsBody "/**/".toList []
  | unmarked {text : List Char} (noMarks : ¬("/**".toList <+: text ∧ "*/".toList <:+ text)) :
      IsBody text text

theorem isBody_commentBody (text : List Char) : IsBody text (commentBody text) := by
  unfold commentBody
  split
  · rename_i rest started
    rw [Text.after?_eq_some_iff] at started
    subst started
    split
    · rename_i ended
      obtain ⟨first, whole⟩ := Text.hasEnding_iff.mp ended
      rcases List.append_eq_append_iff.mp whole.symm with ⟨body, _, isRest⟩ | ⟨more, isMark, isRest⟩
      · -- the marks stand apart
        have isBody : rest.take (rest.length - 2) = body := by
          rw [isRest]
          simp
        rw [isBody, isRest, ← List.append_assoc]
        exact .marked body
      · -- the closing mark begins in the opening one
        match more, isMark, isRest with
        | [], _, isRest =>
            rw [← show "*/".toList = rest from isRest]
            exact .marked []
        | [_], _, isRest =>
            have isSlash : ['/'] = rest := (List.cons.inj isRest).2
            rw [← isSlash]
            exact .sharedStar
        | [_, second], isMark, isRest =>
            have isSlash : '/' = second := (List.cons.inj (List.cons.inj isRest).2).1
            have last := congrArg List.getLast? isMark
            simp [← isSlash] at last
        | _ :: _ :: _ :: _, _, isRest =>
            have tooLong := congrArg List.length isRest
            simp at tooLong
    · rename_i notEnded
      exact .unmarked fun marks => notEnded (Text.hasEnding_iff.mpr marks.2)
  · rename_i notStarted
    refine .unmarked fun marks => ?_
    obtain ⟨rest, whole⟩ := marks.1
    rw [Text.after?_eq_some_iff.mpr whole.symm] at notStarted
    contradiction

/-! ## The whole block -/

/-- The cleaned lines of a body with their numbers, from the given one on. -/
def numberedLines (body : List Char) (line : Nat) : List (List Char × Nat) :=
  ((Text.pieces '\n' body).map cleanLine).zipIdx line

/-- A tag is what a run of numbered lines says: the first of them opens it and gives its name, its
line and the start of its comment, and the others, which open none, go on with the comment. -/
def Documents (tag : DocTag) (run : List (List Char × Nat)) : Prop :=
  ∃ opening comment continued, run = (opening, tag.line) :: continued ∧
    Opens opening tag.name.toList comment ∧
    (∀ current ∈ continued, ¬OpensTag current.1) ∧
    tag.comment = paragraph (comment :: continued.map Prod.fst)

theorem TagLines.documents_of_holds {group : TagLines} {run : List (List Char × Nat)}
    (held : group.Holds run) : Documents group.tag run := by
  obtain ⟨opening, comment, continued, isRun, opens, noTags, isComment⟩ := held
  refine ⟨opening, comment, continued, isRun, ?_, noTags, ?_⟩
  · rw [TagLines.tag, String.toList_ofList]
    exact opens
  · rw [TagLines.tag, isComment]

/-! ## The summary -/

theorem toList_summary {block : DocBlock} (bare : Text.HasBareEnds block.description.toList) :
    block.summary.toList =
      Text.trim (block.description.toList.takeWhile fun c => !Text.isLineBoundary c) := by
  unfold summary
  by_cases there : block.description.toList = []
  · rw [there]
    rfl
  · obtain ⟨more, cut⟩ := List.head?_eq_some_iff.mp (Text.head?_lines there)
    have notBlank := Text.trim_firstLine_ne_nil there bare.1
    rw [cut, List.find?_cons_of_pos (by simpa using notBlank)]
    exact String.toList_ofList

theorem summary_spec {block : DocBlock} (bare : Text.HasBareEnds block.description.toList) :
    Text.HasBareEnds block.summary.toList ∧
      (∀ c ∈ block.summary.toList, Text.isLineBoundary c = false) ∧
      (block.summary.toList = [] ↔ block.description.toList = []) := by
  rw [toList_summary bare]
  refine ⟨Text.hasBareEnds_trim _, ?_, ?_⟩
  · intro c member
    simpa using List.mem_takeWhile_imp (Text.mem_of_mem_trim member)
  · constructor
    · intro noSummary
      by_contra there
      exact Text.trim_firstLine_ne_nil there bare.1 noSummary
    · intro noDescription
      rw [noDescription]
      rfl

theorem hasBareEnds_paragraph (lines : List (List Char)) :
    Text.HasBareEnds (paragraph lines).toList := by
  rw [paragraph, String.toList_ofList]
  exact Text.hasBareEnds_trim _

theorem paragraph_eq_nil_iff {lines : List (List Char)} :
    (paragraph lines).toList = [] ↔ ∀ line ∈ lines, ∀ c ∈ line, Text.isBlank c = true := by
  have lineFeed : ∀ c ∈ ['\n'], Text.isBlank c = true := by simp [Text.isBlank]
  rw [paragraph, String.toList_ofList, Text.trim_eq_nil_iff]
  exact Text.forall_mem_join lineFeed

/-! ## The block of a comment -/

/-- The cleaned lines of a comment are those before the first line that opens a tag, which make up the
description, and one run for each tag, in order; the summary is a single line of the description. -/
theorem ofComment_divides (text : String) (line : Nat) :
    ∃ body leading runs, IsBody text.toList body ∧
      numberedLines body line = leading.zipIdx line ++ runs.flatten ∧
      (∀ current ∈ leading, ¬OpensTag current) ∧
      List.Forall₂ Documents (ofComment text line).tags runs ∧
      (ofComment text line).description = paragraph leading ∧
      (ofComment text line).line = line ∧
      Text.HasBareEnds (summaryOf (some (ofComment text line))).toList ∧
      (∀ c ∈ (summaryOf (some (ofComment text line))).toList, Text.isLineBoundary c = false) ∧
      (summaryOf (some (ofComment text line)) = "" ↔
        ∀ current ∈ leading, ∀ c ∈ current, Text.isBlank c = true) := by
  obtain ⟨runs, cut, noTags, held⟩ :=
    groupLines_divides ((Text.pieces '\n' (commentBody text.toList)).map cleanLine) line
  have bare : Text.HasBareEnds (ofComment text line).description.toList := hasBareEnds_paragraph _
  obtain ⟨bareSummary, oneLine, emptyIff⟩ := summary_spec bare
  refine ⟨commentBody text.toList, _, runs, isBody_commentBody text.toList, cut, noTags, ?_, rfl, rfl,
    bareSummary, oneLine, ?_⟩
  · refine List.forall₂_map_left_iff.mpr ?_
    exact held.imp fun _ _ => TagLines.documents_of_holds
  · rw [summaryOf, ← String.toList_eq_nil_iff, emptyIff]
    exact paragraph_eq_nil_iff

end DeclaredOptions.DocBlock
