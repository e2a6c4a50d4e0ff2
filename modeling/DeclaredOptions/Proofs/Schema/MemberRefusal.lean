import DeclaredOptions.Proofs.Schema.MemberPaths

/-!
Contract: when the values of an enum's members are refused.

Owns: the enums whose members' names are names, which of them resolve as choices, and the refusals of the others.

Does not own: the values where none is refused, and the members at which reading the values stops.

An initializer that is refused does not count as computed. It is met only if everything before it has a value, so a
computed member, or a count that is broken off, hides the refused initializers behind it.
-/

set_option autoImplicit false

namespace DeclaredOptions

theorem EnumMember.isDotted_of_isName {member : EnumMember}
    (name : Literal.isName member.name.toList = true) : member.IsDotted := by
  rw [IsDotted, pieces, Literal.trimEnd_of_isName name,
    Text.pieces_of_not_mem (Literal.dot_not_mem_of_isName name), List.forall_mem_singleton]
  exact name

namespace Resolve

open EnumMember (Reaches)
open Literal (isName)

theorem ends_enumChoice_unread {d : Declaration} {enum : String} {members : List (List String)}
    {failure : Failure} (named : d.name = some enum)
    (listed : d.enumMembers.mapM (EnumMember.path enum) = .ok members)
    (refused : EnumMember.values d.enumMembers = .error failure) (start : Session) :
    Step.Ends (enumChoice d) start (.error failure) start := by
  unfold enumChoice
  apply Step.ends_bind.mpr
  rw [named, Option.getD_some, listed, refused]
  refine .inr ⟨members, start, Step.ends_pure.mpr ⟨rfl, rfl⟩, ?_⟩
  exact Step.ends_bind.mpr (.inl ⟨_, Step.ends_throw.mpr ⟨rfl, rfl⟩, rfl⟩)

/-- The values of an enum's members are refused as one of them is, exactly if reading comes to this member. Where the
names of the members of an enum of a source text are names, as is its own unless it has no member, the enum resolves as
choices exactly if no member is reached that is refused, and it fails with the refusal of one that is. An enum with
members whose own name is none fails always. -/
theorem enumChoice_of_names (d : Declaration) :
    (∀ failure, EnumMember.values d.enumMembers = .error failure ↔
      ∃ number member, Reaches (some 0) d.enumMembers number member ∧ member.Refuses number failure) ∧
    ∀ path text first file, SourceFile.ofText path text first = .ok file → d ∈ file.declarations →
      d.isEnum → (∀ member ∈ d.enumMembers, isName member.name.toList = true) →
      ∃ enum, d.name = some enum ∧
        (∀ start, (∃ choice final, Step.Ends (enumChoice d) start (.ok choice) final) ↔
          (d.enumMembers = [] ∨ isName enum.toList = true) ∧
            ∀ number member, Reaches (some 0) d.enumMembers number member →
              ∀ failure, ¬member.Refuses number failure) ∧
        (isName enum.toList = true → ∀ failure number member,
          Reaches (some 0) d.enumMembers number member → member.Refuses number failure →
          ∀ start, Step.Ends (enumChoice d) start (.error failure) start) := by
  refine ⟨fun failure => EnumMember.valuesFrom_eq_error_iff, ?_⟩
  intro path text first file formed declared isEnum names
  have wellNamed := (SourceFile.numbered_ofText formed).2.wellNamed d declared
  obtain ⟨enum, named, word⟩ := wellNamed.enum isEnum
  have lists (named : d.enumMembers = [] ∨ isName enum.toList = true) :
      ∃ members, d.enumMembers.mapM (EnumMember.path enum) = .ok members := by
    rcases named with none | enumName
    · exact ⟨[], by rw [none]; rfl⟩
    · refine exists_mapM_eq_ok fun member isMember =>
        ⟨_, (EnumMember.path_eq_ok_iff word).mpr ⟨⟨enumName, ?_⟩, rfl⟩⟩
      exact EnumMember.isDotted_of_isName (names member isMember)
  refine ⟨enum, named, fun start => ⟨?_, ?_⟩, ?_⟩
  · rintro ⟨⟨descriptor, ref⟩, final, ends⟩
    obtain ⟨members, values, listed, read, -⟩ := ends_enumChoice_ok.mp ends
    rw [named, Option.getD_some] at listed
    constructor
    · refine or_iff_not_imp_left.mpr fun nonempty => ?_
      obtain ⟨member, isMember⟩ := List.exists_mem_of_ne_nil _ nonempty
      obtain ⟨parts, -, isPath⟩ := exists_result_of_mapM_eq_ok listed member isMember
      exact ((EnumMember.path_eq_ok_iff word).mp isPath).1.1
    · intro number member reaches failure refuses
      cases read.symm.trans (reaches.valuesFrom_of_refuses refuses)
  · rintro ⟨isNamed, spared⟩
    obtain ⟨members, listed⟩ := lists isNamed
    cases read : EnumMember.values d.enumMembers with
    | ok values => exact ⟨_, exists_enumChoice named listed read start⟩
    | error failure =>
        obtain ⟨number, member, reaches, refuses⟩ := EnumMember.valuesFrom_eq_error_iff.mp read
        exact absurd refuses (spared number member reaches failure)
  · intro enumName failure number member reaches refuses start
    obtain ⟨members, listed⟩ := lists (.inr enumName)
    exact ends_enumChoice_unread named listed (reaches.valuesFrom_of_refuses refuses) start

/-- A text with an enum of which the second member does not decode, behind a computed one. -/
def hiddenText : String := "enum Hue\x7bRed=f(),Blue='\\x41'\x7d"

/-- The member that does not decode is not reached. -/
theorem enumChoice_of_names_hidden :
    ∃ file hue choice final, SourceFile.ofText "hue.ts" hiddenText 1 = .ok file ∧
      hue ∈ file.declarations ∧ hue.isEnum ∧
      Step.Ends (enumChoice hue) ⟨.ofTexts [], []⟩ (.ok choice) final ∧
      (∃ member ∈ hue.enumMembers, ¬member.Decodes) ∧
      ∀ number member, Reaches (some 0) hue.enumMembers number member →
        ∀ failure, ¬member.Refuses number failure := by
  obtain ⟨file, hue, formed, declared, isEnum, named, checked⟩ :=
    @exists_enum "hue.ts" hiddenText "Hue" (fun d =>
      (d.enumMembers.all fun member => isName member.name.toList) &&
        (d.enumMembers.any fun member => decide ¬member.Decodes) &&
        ((enumChoice d).run.run ⟨.ofTexts [], []⟩).1.toOption.any fun _ => true) (by decide +kernel)
  simp only [Bool.and_eq_true, List.all_eq_true, List.any_eq_true, decide_eq_true_eq] at checked
  obtain ⟨⟨names, undecoded⟩, chooses⟩ := checked
  obtain ⟨choice, final, ends, -⟩ := Step.ends_of_check _ _ _ chooses
  obtain ⟨enum, isNamed, resolves, -⟩ :=
    (enumChoice_of_names hue).2 "hue.ts" hiddenText 1 file formed declared isEnum names
  have reached := ((resolves ⟨.ofTexts [], []⟩).mp ⟨choice, final, ends⟩).2
  exact ⟨file, hue, choice, final, formed, declared, isEnum, ends, undecoded, reached⟩

/-- A text with an enum whose only member has an escape that scripts read and the literals of tags do not. -/
def escapedText : String := "export enum E\x7bA='\\x41'\x7d"

/-- The values of the enum are refused, and with them the enum. -/
theorem values_escaped :
    ∃ file d refusal, SourceFile.ofText "e.ts" escapedText 1 = .ok file ∧
      d ∈ file.declarations ∧ d.isEnum ∧
      (∀ member ∈ d.enumMembers, isName member.name.toList = true) ∧
      EnumMember.values d.enumMembers = .error (.tag refusal) ∧
      Step.Ends (enumChoice d) ⟨.ofTexts [], []⟩ (.error (.tag refusal)) ⟨.ofTexts [], []⟩ := by
  obtain ⟨file, d, formed, declared, isEnum, named, checked⟩ :=
    @exists_enum "e.ts" escapedText "E" (fun d =>
      (d.enumMembers.all fun member => isName member.name.toList) &&
        (d.enumMembers.mapM (EnumMember.path "E")).isOk &&
        EnumMember.values d.enumMembers matches .error (.tag _)) (by decide +kernel)
  simp only [Bool.and_eq_true, List.all_eq_true] at checked
  obtain ⟨⟨names, listed⟩, refused⟩ := checked
  cases paths : d.enumMembers.mapM (EnumMember.path "E") with
  | error refusal =>
      rw [paths] at listed
      contradiction
  | ok members =>
      split at refused
      · rename_i refusal read
        exact ⟨file, d, refusal, formed, declared, isEnum, names, read,
          ends_enumChoice_unread named paths read _⟩
      · contradiction

end Resolve

end DeclaredOptions
