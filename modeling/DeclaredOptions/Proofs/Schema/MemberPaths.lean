import DeclaredOptions.Proofs.Schema.MemberValues
import DeclaredOptions.Proofs.Schema.Resolution
import DeclaredOptions.Proofs.Source.Word

/-!
Contract: the paths of enum members.

Owns:
- the path that is read back for a member: the name of its enum, then the pieces of its own name between dots,
  without the blanks at its end;
- the choices of an enum, one path for each member in order, or the refusal of all of them;
- the members whose path has their name as its second part and last one: those whose name is a name.

Does not own: the reference that comes with the choices.

## What is read back

A path is written out with dots between its parts and read again. So a member's name with dots in it comes back as
more parts than one, and blanks at its end are gone: both are no names, and are not refused.
-/

set_option autoImplicit false

namespace DeclaredOptions

/-! ## Names -/

/-- The codes of blanks, as closed ranges. -/
def Text.blankRanges : List (Nat × Nat) :=
  [(0x09, 0x0d), (0x1c, 0x20), (0x85, 0x85), (0xa0, 0xa0), (0x1680, 0x1680), (0x2000, 0x200a),
    (0x2028, 0x2029), (0x202f, 0x202f), (0x205f, 0x205f), (0x3000, 0x3000)]

theorem Text.exists_blankRange {c : Char} (blank : isBlank c = true) :
    ∃ range ∈ blankRanges, range.1 ≤ c.toNat ∧ c.toNat ≤ range.2 := by
  unfold isBlank at blank
  simp only [Bool.or_eq_true, Bool.and_eq_true, beq_iff_eq, decide_eq_true_eq] at blank
  simp only [blankRanges, List.exists_mem_cons_iff, List.not_mem_nil, false_and, exists_false]
  omega

/-- The table of word characters holds no blank. -/
theorem Text.isBlank_of_inRanges {c : Char} (inTable : inRanges wordRanges c.toNat = true) :
    isBlank c = false := by
  have apart : wordRanges.toList.all (fun range => blankRanges.all fun blanks =>
      decide (range.2 < blanks.1) || decide (blanks.2 < range.1)) = true := by
    decide +kernel
  rw [Bool.eq_false_iff]
  intro blank
  obtain ⟨blanks, isBlanks, low, high⟩ := exists_blankRange blank
  unfold inRanges at inTable
  rw [← Array.any_toList, List.any_eq_true] at inTable
  obtain ⟨range, isRange, inRange⟩ := inTable
  have disjoint := List.all_eq_true.mp (List.all_eq_true.mp apart range isRange) blanks isBlanks
  simp only [Bool.or_eq_true, Bool.and_eq_true, decide_eq_true_eq] at inRange disjoint
  omega

namespace Literal

/-- An ASCII character of a name comes after the blanks among them. -/
private theorem space_lt_of_isAlphanum {c : Char} (alphanum : c.isAlphanum = true) :
    0x20 < c.toNat := by
  rcases Bool.or_eq_true_iff.mp alphanum with letter | digit
  · have starts : Text.isNameStart c = true := by simp [Text.isNameStart, letter]
    have ranges := isNameStart_ranges starts
    omega
  · simp only [Char.isDigit, Bool.and_eq_true, decide_eq_true_eq, UInt32.le_iff_toNat_le] at digit
    have sameCode : c.val.toNat = c.toNat := rfl
    have low : (48 : Nat) ≤ c.val.toNat := digit.1
    omega

theorem isBlank_of_isNamePart {c : Char} (namePart : Text.isNamePart c = true) :
    Text.isBlank c = false := by
  unfold Text.isNamePart Text.isWord at namePart
  split at namePart
  · rename_i ascii
    have afterSpace : 0x20 < c.toNat := by
      simp only [Bool.or_eq_true, beq_iff_eq] at namePart
      rcases namePart with (alphanum | rfl) | rfl
      · exact space_lt_of_isAlphanum alphanum
      · decide
      · decide
    rw [Bool.eq_false_iff]
    intro blank
    obtain ⟨range, isRange, low, high⟩ := Text.exists_blankRange blank
    simp only [Text.blankRanges, List.mem_cons, List.not_mem_nil, or_false] at isRange
    rcases isRange with rfl | rfl | rfl | rfl | rfl | rfl | rfl | rfl | rfl | rfl <;> omega
  · rw [Bool.or_eq_true, beq_iff_eq] at namePart
    rcases namePart with inTable | rfl
    · exact Text.isBlank_of_inRanges inTable
    · decide

theorem isNamePart_of_isNameStart {c : Char} (starts : Text.isNameStart c = true) :
    Text.isNamePart c = true := by
  have ranges := isNameStart_ranges starts
  unfold Text.isNameStart at starts
  unfold Text.isNamePart Text.isWord
  rw [if_pos (by omega)]
  simp only [Bool.or_eq_true] at starts ⊢
  rcases starts with (letter | underscore) | dollar
  · exact .inl (.inl (by simp [Char.isAlphanum, letter]))
  · exact .inl (.inr underscore)
  · exact .inr dollar

/-- No blank is left out at the end of a name. -/
theorem trimEnd_of_isName {part : List Char} (name : isName part = true) :
    Text.trimEnd part = part := by
  apply Text.dropEndWhile_of_last
  intro c last
  obtain ⟨first, rest, rfl, starts, others⟩ := exists_head_of_isName name
  apply isBlank_of_isNamePart
  rcases List.mem_cons.mp (List.mem_of_getLast? last) with rfl | inRest
  · exact isNamePart_of_isNameStart starts
  · exact others c inRest

end Literal

namespace EnumMember

open Literal (isName Reads)

variable {member : EnumMember} {enum : String} {parts : List String}

/-- The pieces of a member's name between dots, without the blanks at its end. -/
def pieces (member : EnumMember) : List (List Char) :=
  Text.pieces '.' (Text.trimEnd member.name.toList)

/-- All pieces of a member's name are names. -/
def IsDotted (member : EnumMember) : Prop := ∀ piece ∈ member.pieces, isName piece = true

instance (member : EnumMember) : Decidable member.IsDotted :=
  inferInstanceAs (Decidable (∀ piece ∈ member.pieces, isName piece = true))

/-- The name of an enum is a name, and so are all pieces of the name of its member. -/
def HasPath (enum : String) (member : EnumMember) : Prop :=
  isName enum.toList = true ∧ member.IsDotted

instance (enum : String) (member : EnumMember) : Decidable (member.HasPath enum) :=
  inferInstanceAs (Decidable (_ ∧ _))

/-- A member's name is one piece, and a name, exactly if it is a name as it stands. -/
theorem pieces_eq_iff (dotted : member.IsDotted) :
    member.pieces = [member.name.toList] ↔ isName member.name.toList = true := by
  constructor
  · intro same
    apply dotted
    rw [same]
    exact List.mem_singleton_self _
  · intro name
    rw [pieces, Literal.trimEnd_of_isName name,
      Text.pieces_of_not_mem (Literal.dot_not_mem_of_isName name)]

/-- A name without dots and without a blank at its end is not changed where it is read back. -/
theorem isDotted_iff_of_clear (noDot : '.' ∉ member.name.toList)
    (bareEnd : ∀ c ∈ member.name.toList.getLast?, Text.isBlank c = false) :
    member.IsDotted ↔ isName member.name.toList = true := by
  have trimmed : Text.trimEnd member.name.toList = member.name.toList :=
    Text.dropEndWhile_of_last bareEnd
  rw [IsDotted, pieces, trimmed, Text.pieces_of_not_mem noDot, List.forall_mem_singleton]

/-! ## Paths -/

/-- What is written out for a member reads as a path exactly if the name of its enum is a name, and so are all
pieces of its own. -/
theorem parse_joined_iff (word : Source.IsWord enum.toList) :
    Literal.parse (some (Text.joined "." [enum, member.name])) none = .ok (.path parts) ↔
      member.HasPath enum ∧ parts = enum :: member.pieces.map String.ofList := by
  have whole : (Text.joined "." [enum, member.name]).toList =
      enum.toList ++ '.' :: member.name.toList := by
    simp [Text.joined, Text.join]
  have cut : Text.pieces '.' (enum.toList ++ '.' :: Text.trimEnd member.name.toList) =
      enum.toList :: member.pieces := Text.pieces_append_separator word.dot_not_mem _
  rw [Literal.parse_eq_ok_iff, Option.getD_some, whole,
    Text.trim_append_cons (by decide) word.head_bare]
  constructor
  · intro reads
    generalize shape : enum.toList ++ '.' :: Text.trimEnd member.name.toList = fragment at reads cut
    cases reads with
    | path nonempty names noTruth =>
        rw [Text.pieces_join nonempty fun part isPart =>
          Literal.dot_not_mem_of_isName (names part isPart)] at cut
        rw [cut] at names ⊢
        rw [List.forall_mem_cons] at names
        refine ⟨names, ?_⟩
        rw [List.map_cons, String.ofList_toList]
  · rintro ⟨⟨enumName, dotted⟩, rfl⟩
    have joined := Text.join_pieces '.' (enum.toList ++ '.' :: Text.trimEnd member.name.toList)
    rw [cut] at joined
    have isPath := Reads.path (List.cons_ne_nil enum.toList member.pieces)
      (List.forall_mem_cons.mpr ⟨enumName, dotted⟩) (by
        intro value same
        exact Text.pieces_ne_nil _ _ (List.cons.inj same).2)
    rw [joined, List.map_cons, String.ofList_toList] at isPath
    exact isPath

theorem path_eq_ok_iff (word : Source.IsWord enum.toList) :
    member.path enum = .ok parts ↔
      member.HasPath enum ∧ parts = enum :: member.pieces.map String.ofList := by
  rw [← parse_joined_iff word]
  unfold path Literal.qualifiedName
  dsimp only
  cases Literal.parse (some (Text.joined "." [enum, member.name])) none with
  | error refusal => exact iff_of_false nofun nofun
  | ok literal =>
      cases literal with
      | path own =>
          change Except.ok own = Except.ok parts ↔ _
          simp
      | _ => exact iff_of_false nofun nofun

/-- A path has the name of the enum and that of the member as its two parts exactly if the latter is a name. -/
theorem path_eq_pair_iff (word : Source.IsWord enum.toList) (read : member.path enum = .ok parts) :
    parts = [enum, member.name] ↔ isName member.name.toList = true := by
  obtain ⟨⟨-, dotted⟩, rfl⟩ := (path_eq_ok_iff word).mp read
  rw [← pieces_eq_iff dotted]
  constructor
  · intro same
    have ofList := (List.cons.inj same).2
    rw [← String.ofList_toList (s := member.name), ← List.map_singleton] at ofList
    exact List.map_injective_iff.mpr (fun _ _ equal => String.ofList_injective equal) ofList
  · intro same
    rw [same, List.map_singleton, String.ofList_toList]

/-- Where a member has no path, the paths of all members are refused. -/
theorem exists_refusal {members : List EnumMember} (word : Source.IsWord enum.toList)
    (isMember : member ∈ members) (noPath : ¬member.HasPath enum) :
    ∃ refusal, members.mapM (EnumMember.path enum) = .error refusal := by
  cases listed : members.mapM (EnumMember.path enum) with
  | error refusal => exact ⟨refusal, rfl⟩
  | ok paths =>
      obtain ⟨parts, -, read⟩ := exists_result_of_mapM_eq_ok listed member isMember
      exact absurd ((path_eq_ok_iff word).mp read).1 noPath

end EnumMember

/-! ## Choices -/

namespace Resolve

open Literal (isName)

variable {enum : String} {d : Declaration} {start final : Session}

/-- The paths of a choice are those of the members, read back one by one. -/
theorem paths_of_ends_enumChoice {descriptor : Descriptor} {ref : Reference}
    (named : d.name = some enum)
    (ends : Step.Ends (enumChoice d) start (.ok (descriptor, ref)) final) :
    List.Forall₂ (fun member parts => member.path enum = .ok parts) d.enumMembers
      descriptor.paths := by
  obtain ⟨members, values, listed, -, chosen, -⟩ := ends_enumChoice_ok.mp ends
  cases chosen
  rw [named] at listed
  exact mapM_eq_ok_iff.mp listed

theorem ends_enumChoice_refused {refusal : TagRefusal} (named : d.name = some enum)
    (refused : d.enumMembers.mapM (EnumMember.path enum) = .error refusal) (start : Session) :
    Step.Ends (enumChoice d) start (.error (.tag refusal)) start := by
  unfold enumChoice
  apply Step.ends_bind.mpr
  rw [named, Option.getD_some, refused]
  exact .inl ⟨_, Step.ends_throw.mpr ⟨rfl, rfl⟩, rfl⟩

/-- Where all paths are read back and all values are read, there is a choice. -/
theorem exists_enumChoice {members : List (List String)} {values : Option (List Literal)}
    (named : d.name = some enum)
    (listed : d.enumMembers.mapM (EnumMember.path enum) = .ok members)
    (read : EnumMember.values d.enumMembers = .ok values) (start : Session) :
    ∃ final, Step.Ends (enumChoice d) start (.ok (.choice members values, .toEnum d)) final := by
  refine ⟨_, ends_enumChoice_ok.mpr ⟨members, values, ?_, read, rfl, ends_enumReference.mpr ⟨rfl, rfl⟩⟩⟩
  rw [named]
  exact listed

/-- The choices of an enum of a source text are one path for each member, in order: the name of the enum, then the
pieces of the member's name between dots. A path has the names of the enum and of the member as its two parts exactly
if the latter is a name. If some piece is no name, all is refused. If all pieces are names, the initializers in quotation
marks decode, and no number is too long to be read or written, nothing is. A member's name without dots and without a
blank at its end is its one piece. -/
theorem paths_of_enumChoice {path text : String} {first : Nat} {file : SourceFile}
    (formed : SourceFile.ofText path text first = .ok file) (declared : d ∈ file.declarations)
    (isEnum : d.isEnum) :
    ∃ enum, d.name = some enum ∧
      (∀ start descriptor ref final,
        Step.Ends (enumChoice d) start (.ok (descriptor, ref)) final →
        List.Forall₂ (fun member parts => member.HasPath enum ∧
            parts = enum :: member.pieces.map String.ofList ∧
            (parts = [enum, member.name] ↔ isName member.name.toList = true))
          d.enumMembers descriptor.paths) ∧
      (∀ member ∈ d.enumMembers, ¬member.HasPath enum → ∀ start, ∃ refusal,
        Step.Ends (enumChoice d) start (.error (.tag refusal)) start) ∧
      ((∀ member ∈ d.enumMembers, member.HasPath enum ∧ member.Decodes ∧ ¬member.IsLong) →
        ¬EnumMember.Overruns d.enumMembers → ∀ start,
        ∃ choice final, Step.Ends (enumChoice d) start (.ok choice) final) ∧
      ∀ member ∈ d.enumMembers, '.' ∉ member.name.toList →
        (∀ c ∈ member.name.toList.getLast?, Text.isBlank c = false) →
        (member.HasPath enum ↔ isName enum.toList = true ∧ isName member.name.toList = true) := by
  have wellNamed := (SourceFile.numbered_ofText formed).2.wellNamed d declared
  obtain ⟨enum, named, word⟩ := wellNamed.enum isEnum
  refine ⟨enum, named, ?_, ?_, ?_, ?_⟩
  · intro start descriptor ref final ends
    apply (paths_of_ends_enumChoice named ends).imp
    intro member parts read
    obtain ⟨hasPath, shape⟩ := (EnumMember.path_eq_ok_iff word).mp read
    exact ⟨hasPath, shape, EnumMember.path_eq_pair_iff word read⟩
  · intro member isMember noPath start
    obtain ⟨refusal, refused⟩ := EnumMember.exists_refusal word isMember noPath
    exact ⟨refusal, ends_enumChoice_refused named refused start⟩
  · intro all within start
    obtain ⟨members, listed⟩ := exists_mapM_eq_ok fun member isMember =>
      ⟨_, (EnumMember.path_eq_ok_iff word).mpr ⟨(all member isMember).1, rfl⟩⟩
    obtain ⟨values, read⟩ :=
      EnumMember.exists_values (fun member isMember => (all member isMember).2) within
    exact ⟨_, exists_enumChoice named listed read start⟩
  · intro member _ noDot bareEnd
    rw [EnumMember.HasPath, EnumMember.isDotted_iff_of_clear noDot bareEnd]

/-- An enum of a text that passes a check. -/
theorem exists_enum {path text name : String} {check : Declaration → Bool}
    (passes : (SourceFile.ofText path text 1).toOption.any fun file =>
      (file.enum? name).any check) :
    ∃ file d, SourceFile.ofText path text 1 = .ok file ∧ d ∈ file.declarations ∧ d.isEnum ∧
      d.name = some name ∧ check d := by
  cases formed : SourceFile.ofText path text 1 with
  | error failure =>
      rw [formed] at passes
      contradiction
  | ok file =>
      rw [formed] at passes
      have inFile : (file.enum? name).any check = true := passes
      obtain ⟨d, found, checked⟩ := (Option.any_eq_true ..).mp inFile
      obtain ⟨declared, isEnum⟩ := List.mem_filter.mp (List.mem_of_find?_eq_some found)
      exact ⟨file, d, rfl, declared, isEnum, by simpa using List.find?_some found, checked⟩

/-- A text with an enum whose members have paths, one of them in quotation marks. -/
def hueText : String := "enum Hue\x7b'red',Blue='x'\x7d"

/-- A text with an enum of which one member has no path. -/
def toneText : String := "enum Tone\x7bLow,'so so'\x7d"

/-- The choices of the first enum are its members by their names, and those of the second are refused. -/
theorem paths_of_enumChoice_hue :
    (∃ file hue choice final, SourceFile.ofText "hue.ts" hueText 1 = .ok file ∧
      hue ∈ file.declarations ∧ hue.isEnum ∧
      Step.Ends (enumChoice hue) ⟨.ofTexts [], []⟩ (.ok choice) final ∧
      List.Forall₂ (fun member parts => parts = ["Hue", member.name]) hue.enumMembers
        choice.1.paths) ∧
    ∃ file tone refusal, SourceFile.ofText "tone.ts" toneText 1 = .ok file ∧
      tone ∈ file.declarations ∧ tone.isEnum ∧
      Step.Ends (enumChoice tone) ⟨.ofTexts [], []⟩ (.error (.tag refusal)) ⟨.ofTexts [], []⟩ := by
  constructor
  · obtain ⟨file, hue, formed, declared, isEnum, named, checked⟩ :=
      @exists_enum "hue.ts" hueText "Hue" (fun d =>
        (EnumMember.values d.enumMembers).isOk &&
          d.enumMembers.all fun member => decide (member.HasPath "Hue" ∧ member.Decodes) &&
            isName member.name.toList &&
            decide (∀ text ∈ member.initializer, text.toList.length ≤ Number.maxDigits))
        (by decide +kernel)
    simp only [List.all_eq_true, Bool.and_eq_true, decide_eq_true_eq] at checked
    obtain ⟨enum, isNamed, lists, -, succeeds, -⟩ := paths_of_enumChoice formed declared isEnum
    cases named.symm.trans isNamed
    obtain ⟨read, checked⟩ := checked
    have written : ∀ member ∈ hue.enumMembers, member.HasPath "Hue" ∧ member.Decodes ∧ ¬member.IsLong := by
      intro member isMember
      obtain ⟨⟨⟨hasPath, decodes⟩, -⟩, short⟩ := checked member isMember
      exact ⟨hasPath, decodes, EnumMember.not_isLong_of_length short⟩
    have within := EnumMember.not_overruns_of_isOk read
    obtain ⟨choice, final, ends⟩ := succeeds written within ⟨.ofTexts [], []⟩
    have paths := lists _ choice.1 choice.2 final ends
    refine ⟨file, hue, choice, final, formed, declared, isEnum, ends, ?_⟩
    rw [List.forall₂_iff_get] at paths ⊢
    refine ⟨paths.1, fun index isMember isPath => ?_⟩
    have isPair := (paths.2 index isMember isPath).2.2
    exact isPair.mpr (checked _ (List.get_mem _ _)).1.2
  · obtain ⟨file, tone, formed, declared, isEnum, named, checked⟩ :=
      @exists_enum "tone.ts" toneText "Tone" (fun d =>
        d.enumMembers.any fun member => decide ¬member.HasPath "Tone") (by decide +kernel)
    obtain ⟨member, isMember, noPath⟩ := List.any_eq_true.mp checked
    obtain ⟨enum, isNamed, -, refuses, -⟩ := paths_of_enumChoice formed declared isEnum
    cases named.symm.trans isNamed
    obtain ⟨refusal, refused⟩ := refuses member isMember (of_decide_eq_true noPath) ⟨.ofTexts [], []⟩
    exact ⟨file, tone, refusal, formed, declared, isEnum, refused⟩

/-- A text with an enum that has a member with a dot in its name, and one with a blank at the end of it. -/
def dottedText : String := "enum E\x7b'a.b','c '\x7d"

/-- A member's name with a dot in it comes back as two parts, and a blank at the end of one is gone. -/
theorem paths_dotted :
    ∃ file d choice final, SourceFile.ofText "e.ts" dottedText 1 = .ok file ∧
      d ∈ file.declarations ∧ d.isEnum ∧ d.name = some "E" ∧
      d.enumMembers.map (·.name) = ["a.b", "c "] ∧
      Step.Ends (enumChoice d) ⟨.ofTexts [], []⟩ (.ok choice) final ∧
      choice.1.paths = [["E", "a", "b"], ["E", "c"]] := by
  obtain ⟨file, d, formed, declared, isEnum, named, checked⟩ :=
    @exists_enum "e.ts" dottedText "E" (fun d =>
      d.enumMembers.map (·.name) == ["a.b", "c "] &&
        ((enumChoice d).run.run ⟨.ofTexts [], []⟩).1.toOption.any fun choice =>
          choice.1.paths == [["E", "a", "b"], ["E", "c"]]) (by decide +kernel)
  obtain ⟨names, chooses⟩ := (Bool.and_eq_true ..).mp checked
  obtain ⟨choice, final, ends, paths⟩ := Step.ends_of_check _ _ _ chooses
  exact ⟨file, d, choice, final, formed, declared, isEnum, named, beq_iff_eq.mp names, ends,
    beq_iff_eq.mp paths⟩

end Resolve

end DeclaredOptions
