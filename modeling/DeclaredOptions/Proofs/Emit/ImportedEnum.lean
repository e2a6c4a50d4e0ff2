import DeclaredOptions.Proofs.Emit.Imports
import DeclaredOptions.Proofs.Project.ImportedNames

/-!
Contract: an enum that a file imports is imported again as the file does.

Owns:
- the reference to an enum that a look-up brings in through the first import that binds its name;
- the specifier of such a reference, word by word, and the statement of a module that holds it.

Does not own: default exports of one file beside each other, of which a statement binds the first.

## Four names

A file knows an enum by a local name, which an import takes from the name that the enum is exported by. Choices use
the name that the enum is declared by. The module that is written takes the enum from its exported name again, and
binds it to its declared one: the local name is gone.
-/

set_option autoImplicit false

namespace DeclaredOptions

/-! ## Specifiers -/

theorem Source.IsWord.space_not_mem {text : List Char} (word : IsWord text) : ' ' ∉ text := by
  intro member
  have space := word.chars _ member
  revert space
  decide

/-- The words of a specifier, between blanks. -/
def NamedImport.words (item : NamedImport) : List String :=
  (Text.pieces ' ' item.text.toList).map String.ofList

/-- A specifier of words renames an export exactly if the names differ. -/
theorem NamedImport.words_eq {exported name : String} (isWord : Source.IsWord exported.toList)
    (isName : Source.IsWord name.toList) :
    (⟨exported, name⟩ : NamedImport).words =
      if exported = name then [name] else [exported, "as", name] := by
  unfold words text
  by_cases same : exported = name
  · rw [if_pos (by simp [same]), if_pos same, Text.pieces_of_not_mem isName.space_not_mem]
    simp
  · have whole : (exported ++ " as " ++ name).toList =
        exported.toList ++ ' ' :: ("as".toList ++ ' ' :: name.toList) := by
      simp
    rw [if_neg (by simp [same]), if_neg same, whole,
      Text.pieces_append_separator isWord.space_not_mem,
      Text.pieces_append_separator (by decide), Text.pieces_of_not_mem isName.space_not_mem]
    simp

/-! ## Statements -/

namespace Emit

variable {schema : CommandSchema} {ref : Reference}

/-- No named symbol is left out of the statements of a module. -/
theorem mem_boundSymbols_of_named (member : ref ∈ symbols schema) (named : ref.isDefault = false) :
    ref ∈ boundSymbols schema := by
  apply List.mem_flatMap.mpr
  refine ⟨ref.source, List.mem_eraseDups.mpr (List.mem_map_of_mem member), ?_⟩
  apply List.mem_append_right
  have inFile : ref ∈ symbolsIn schema ref.source :=
    List.mem_filter.mpr ⟨member, beq_self_eq_true _⟩
  exact List.mem_filter.mpr ⟨inFile, by simp [named]⟩

theorem imported_mem_bindings (ids : ((symbols schema).map (·.id)).Nodup)
    (member : ref ∈ symbols schema) (named : ref.isDefault = false) :
    ref.imported ∈ (importStatements schema).flatMap (·.bindings) := by
  rw [bindings_importStatements ids]
  exact List.mem_map_of_mem (mem_boundSymbols_of_named member named)

end Emit

/-! ## Imported enums -/

namespace Reference

variable {start final : Project} {file : SourceFile} {name enum : String} {d : Declaration}

/-- The reference to an enum leads where an import of a file does: to a file that declares the enum. It takes what
this file exports under a name, or else its default export, and binds the name that the enum is declared by. -/
def Follows (start final : Project) (file : SourceFile) (clause : Import) (d : Declaration)
    (exported : Option String) (enum : String) : Prop :=
  ∃ target ∈ final.files, d ∈ target.declarations ∧
    Step.Ends (Project.module? file.path clause.module) start (.ok (some target)) final ∧
    (toEnum d).imported = ⟨target.path, exported, enum⟩

theorem imported_toEnum (named : d.name = some enum) :
    (toEnum d).imported = ⟨d.source.getD "",
      if d.exportKind = .asDefault then none else d.exportedName, enum⟩ := by
  have isEnumName : d.name.getD "" = enum := by
    rw [named]
    rfl
  unfold toEnum
  rw [isEnumName, imported_toDeclaration (.inl named)]
  simp [binding]

/-- An enum that the first import of a name brings in is imported again from the file that this import leads
to. -/
theorem exists_target (reachable : start.Reachable) (foreign : file.type? name = none)
    (looked : Step.Ends (Project.type? file name) start (.ok (some d)) final)
    {clause : Import} {exported : String} (first : file.import? name = some (clause, exported))
    (answers : clause.defaultName = some name →
      ∃ target next, Step.Ends (Project.module? file.path clause.module) start (.ok (some target))
        next) (named : d.name = some enum) :
    Follows start final file clause d
        (if d.exportKind = .asDefault then none else d.exportedName) enum ∧
      (exported = "default" → d.exportKind = .asDefault) ∧
      (exported ≠ "default" → d.exportedName = some exported) := by
  have through := Project.ends_throughImports_of_type? foreign looked
  obtain ⟨target, leads, found⟩ := Project.throughImports_of_first first answers through
  obtain ⟨registered, sources⟩ := Project.target_of_module? reachable leads
  have declared := Project.importedPart?_mem found
  refine ⟨⟨target, registered, declared, leads, ?_⟩, (Project.exported_of_importedPart? found).2⟩
  rw [imported_toEnum named, sources d declared]
  rfl

/-- A choice of an enum's members comes with the reference to the enum, and its paths begin with the name of the
enum. -/
theorem ends_enumChoice {session last : Session} {descriptor : Descriptor} {ref : Reference}
    (named : d.name = some enum) (word : Source.IsWord enum.toList)
    (ends : Step.Ends (Resolve.enumChoice d) session (.ok (descriptor, ref)) last) :
    ref = toEnum d ∧ ∀ parts ∈ descriptor.paths, parts.head? = some enum := by
  obtain ⟨members, values, listed, -, chosen, -⟩ := Resolve.ends_enumChoice_ok.mp ends
  cases chosen
  refine ⟨rfl, ?_⟩
  intro parts member
  obtain ⟨enumMember, -, path⟩ := exists_of_mapM_eq_ok listed parts member
  rw [named] at path
  exact EnumMember.head_path word path

/-- An enum that a file does not declare, under a local name, is imported again as the first import that binds
this name does it. If that takes the enum from a name of its own and the enum is a named export, then the reference
to it takes it from that name, in the file of the enum, and binds the name that its choices use; the specifier says
so where that name is a word, and so do the statements of every module that needs the reference. If it takes the
default export, by a default name whose module is found or by the name of the default, then so does the
reference. -/
theorem follows_first_import (reachable : start.Reachable) (foreign : file.type? name = none)
    (looked : Step.Ends (Project.type? file name) start (.ok (some d)) final) (isEnum : d.isEnum) :
    ∃ enum, d.name = some enum ∧
      (∀ clause exported, file.import? name = some (clause, exported) → exported ≠ "default" →
        d.exportKind = .named →
        Follows start final file clause d (some exported) enum ∧
          NamedImport.ofReference (toEnum d) = ⟨exported, enum⟩ ∧
          (Source.IsWord exported.toList →
            (NamedImport.ofReference (toEnum d)).words =
              if exported = enum then [enum] else [exported, "as", enum]) ∧
          ∀ schema, ((Emit.symbols schema).map (·.id)).Nodup → toEnum d ∈ Emit.symbols schema →
            (toEnum d).imported ∈ (Emit.importStatements schema).flatMap (·.bindings)) ∧
      (∀ clause, file.import? name = some (clause, "default") →
        (clause.defaultName = some name → ∃ target next,
          Step.Ends (Project.module? file.path clause.module) start (.ok (some target)) next) →
        Follows start final file clause d none enum) ∧
      ∀ session descriptor ref last,
        Step.Ends (Resolve.enumChoice d) session (.ok (descriptor, ref)) last →
        ref = toEnum d ∧ ∀ parts ∈ descriptor.paths, parts.head? = some enum := by
  obtain ⟨led, declared⟩ :=
    @Project.keeps_throughImports (fun _ => True) file.path name file.imports _ _ _ trivial
      (Project.ends_throughImports_of_type? foreign looked)
  have sound := (reachable.leads led).sound
  obtain ⟨enum, named, word⟩ := (sound.wellNamed d (declared _ rfl d rfl)).enum isEnum
  refine ⟨enum, named, ?_, ?_, ?_⟩
  · intro clause exported first notDefault kind
    have noDefaultName : clause.defaultName ≠ some name := by
      intro isDefault
      obtain ⟨_, _, binds⟩ := List.exists_of_findSome?_eq_some first
      obtain ⟨_, taken, same⟩ := Option.map_eq_some_iff.mp binds
      cases same
      unfold Import.binds? at taken
      rw [if_pos isDefault] at taken
      exact notDefault (Option.some.inj taken).symm
    obtain ⟨follows, -, exports⟩ := exists_target reachable foreign looked first
      (fun isDefault => absurd isDefault noDefaultName) named
    rw [if_neg (by simp [kind]), exports notDefault] at follows
    have notByDefault : (toEnum d).isDefault = false := by
      simp [toEnum, kind]
    have item : NamedImport.ofReference (toEnum d) = ⟨exported, enum⟩ := by
      obtain ⟨target, -, -, -, imported⟩ := follows
      unfold Reference.imported at imported
      simp only [notByDefault, Bool.false_eq_true, if_false, ImportBinding.mk.injEq,
        Option.some.injEq] at imported
      obtain ⟨-, isExported, isName⟩ := imported
      rw [← isExported, ← isName]
      rfl
    refine ⟨follows, item, ?_, ?_⟩
    · intro isWord
      rw [item]
      exact NamedImport.words_eq isWord word
    · intro schema ids member
      exact Emit.imported_mem_bindings ids member notByDefault
  · intro clause first answers
    obtain ⟨follows, isDefault, -⟩ := exists_target reachable foreign looked first answers named
    rw [if_pos (isDefault rfl)] at follows
    exact follows
  · intro session descriptor ref last ends
    exact ends_enumChoice named word ends

/-! ## Imports at work -/

/-- A look-up whose result passes a check finds such a declaration. -/
private theorem exists_looked (project : Project) (file : SourceFile) (name : String)
    (check : Declaration → Bool)
    (passes : ((Project.type? file name).run.run project).1.toOption.any (·.any check)) :
    ∃ d next, Step.Ends (Project.type? file name) project (.ok (some d)) next ∧ check d := by
  obtain ⟨found, next, looked, holds⟩ := Step.ends_of_check _ _ _ passes
  obtain ⟨d, rfl, checked⟩ := (Option.any_eq_true ..).mp holds
  exact ⟨d, next, looked, checked⟩

/-- A project of two files. One exports an enum under another name, and an enum by default; the other knows both
under names of its own. -/
@[irreducible] def scaleProject : Project :=
  .ofTexts [("hue.ts", "enum Tone{Red}export{Tone as Hue}
enum Size{S}export default Size"),
    ("fit.ts", "import Scale,{Hue as Shade}from'./hue'")]

theorem reachable_scaleProject : scaleProject.Reachable := by
  unfold scaleProject
  exact Project.reachable_ofTexts _

/-- The local names are gone where the two enums are imported again. -/
theorem follows_first_import_scale :
    scaleProject.Reachable ∧ ∃ file clause tone size next last,
      scaleProject.registered? "fit.ts" = some file ∧
      file.import? "Shade" = some (clause, "Hue") ∧ file.import? "Scale" = some (clause, "default") ∧
      Follows scaleProject next file clause tone (some "Hue") "Tone" ∧
      (NamedImport.ofReference (toEnum tone)).words = ["Hue", "as", "Tone"] ∧
      Follows scaleProject last file clause size none "Size" := by
  have runs : (scaleProject.registered? "fit.ts").any fun file =>
      (file.type? "Shade").isNone && (file.type? "Scale").isNone &&
        ((Project.type? file "Shade").run.run scaleProject).1.toOption.any
          (·.any fun d => d.isEnum && d.exportKind == .named && d.name == some "Tone") &&
        ((Project.type? file "Scale").run.run scaleProject).1.toOption.any
          (·.any fun d => d.isEnum && d.name == some "Size") &&
        file.imports == [⟨"./hue", some "Scale", [("Hue", "Shade")], none, 1⟩] &&
        ((Project.module? file.path "./hue").run.run scaleProject).1.toOption.any Option.isSome := by
    decide +kernel
  obtain ⟨file, registered, holds⟩ := (Option.any_eq_true ..).mp runs
  simp only [Bool.and_eq_true, beq_iff_eq, Option.isNone_iff_eq_none] at holds
  obtain ⟨⟨⟨⟨⟨shadeForeign, scaleForeign⟩, looksUpShade⟩, looksUpScale⟩, imports⟩, leads⟩ := holds
  obtain ⟨tone, next, lookedShade, isTone⟩ := exists_looked _ _ _ _ looksUpShade
  obtain ⟨size, last, lookedScale, isSize⟩ := exists_looked _ _ _ _ looksUpScale
  simp only [Bool.and_eq_true, beq_iff_eq] at isTone isSize
  obtain ⟨found, middle, asked, isFound⟩ := Step.ends_of_check _ _ _ leads
  obtain ⟨target, rfl⟩ := Option.isSome_iff_exists.mp isFound
  have firstShade : file.import? "Shade" =
      some (⟨"./hue", some "Scale", [("Hue", "Shade")], none, 1⟩, "Hue") := by
    rw [SourceFile.import?, imports]
    decide
  have firstScale : file.import? "Scale" =
      some (⟨"./hue", some "Scale", [("Hue", "Shade")], none, 1⟩, "default") := by
    rw [SourceFile.import?, imports]
    decide
  obtain ⟨_, namedTone, again, -⟩ :=
    follows_first_import reachable_scaleProject shadeForeign lookedShade isTone.1.1
  obtain ⟨_, namedSize, -, byDefault, -⟩ :=
    follows_first_import reachable_scaleProject scaleForeign lookedScale isSize.1
  cases namedTone.symm.trans isTone.2
  cases namedSize.symm.trans isSize.2
  obtain ⟨followsTone, -, words, -⟩ := again _ _ firstShade (by decide) isTone.1.2
  refine ⟨reachable_scaleProject, file, _, tone, size, next, last, registered, firstShade,
    firstScale, followsTone, ?_, byDefault _ firstScale fun _ => ⟨target, middle, asked⟩⟩
  have isWord : Source.IsWord "Hue".toList := by
    refine ⟨by decide, List.all_eq_true.mp (by decide), ?_⟩
    intro c first
    obtain rfl : 'H' = c := by simpa using first
    decide
  rw [words isWord, if_neg (by decide)]

/-- A project of two files. The second binds a name by a default import that leads nowhere, and by a named one
after that, which takes an exported enum of the first; it also imports an enum under a name in quotes. -/
@[irreducible] def passedProject : Project :=
  .ofTexts [("hue.ts", "export enum Hue{Red}
enum Tone{Low}export\x7bTone as 'low-tone'\x7d"),
    ("fit.ts", "import Shade from'./missing'
import\x7bHue as Shade,'low-tone' as Low\x7dfrom'./hue'
export function fit(shade:Shade,low:Low){}")]

/-- A default import whose module is not found is passed over: the enum that its name means all the same is a
named one. A name that is exported in quotes is imported again without them. -/
theorem isDefault_eq_false_passed :
    passedProject.Reachable ∧ ∃ file hue tone next last clause,
      passedProject.registered? "fit.ts" = some file ∧
      file.type? "Shade" = none ∧ (file.imports.head?.bind (·.defaultName)) = some "Shade" ∧
      Step.Ends (Project.type? file "Shade") passedProject (.ok (some hue)) next ∧ hue.isEnum ∧
      (toEnum hue).isDefault = false ∧
      file.type? "Low" = none ∧ file.import? "Low" = some (clause, "low-tone") ∧
      Step.Ends (Project.type? file "Low") passedProject (.ok (some tone)) last ∧ tone.isEnum ∧
      tone.exportKind = .named ∧
      (NamedImport.ofReference (toEnum tone)).text = "low-tone as Tone" := by
  have runs : (passedProject.registered? "fit.ts").any fun file =>
      (file.type? "Shade").isNone && (file.imports.head?.bind (·.defaultName)) == some "Shade" &&
        ((Project.type? file "Shade").run.run passedProject).1.toOption.any
          (·.any fun d => d.isEnum && (toEnum d).isDefault == false) &&
        (file.type? "Low").isNone && (file.import? "Low").any (·.2 == "low-tone") &&
        ((Project.type? file "Low").run.run passedProject).1.toOption.any
          (·.any fun d => d.isEnum && d.exportKind == .named &&
            (NamedImport.ofReference (toEnum d)).text == "low-tone as Tone") := by
    decide +kernel
  have reachable : passedProject.Reachable := by
    unfold passedProject
    exact Project.reachable_ofTexts _
  obtain ⟨file, registered, holds⟩ := (Option.any_eq_true ..).mp runs
  simp only [Bool.and_eq_true, beq_iff_eq, Option.isNone_iff_eq_none] at holds
  obtain ⟨⟨⟨⟨⟨shadeForeign, byDefault⟩, looksUpShade⟩, lowForeign⟩, isLow⟩, looksUpLow⟩ := holds
  obtain ⟨hue, next, lookedShade, isHue⟩ := exists_looked _ _ _ _ looksUpShade
  obtain ⟨tone, last, lookedLow, isTone⟩ := exists_looked _ _ _ _ looksUpLow
  simp only [Bool.and_eq_true, beq_iff_eq] at isHue isTone
  obtain ⟨⟨clause, exported⟩, first, same⟩ := (Option.any_eq_true ..).mp isLow
  cases beq_iff_eq.mp same
  exact ⟨reachable, file, hue, tone, next, last, clause, registered, shadeForeign, byDefault,
    lookedShade, isHue.1, isHue.2, lowForeign, first, lookedLow, isTone.1.1, isTone.1.2, isTone.2⟩

end Reference

end DeclaredOptions
