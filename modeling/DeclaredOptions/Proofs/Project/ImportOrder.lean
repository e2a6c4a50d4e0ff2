import DeclaredOptions.Proofs.Declaration.Rearranged
import DeclaredOptions.Proofs.Project.History
import DeclaredOptions.Proofs.Project.ImportedNames

/-!
Contract: what a type name means in a file, whatever the order and the grouping of its imports.

Owns:
- the pieces of imports, each of which binds one local name;
- the outline of a file, which is what other files and its own look-ups can see of it besides its imports;
- the look-up in a project that reads no tree, by the one piece that binds the name;
- the meaning of a name but for lines, which depends on outlines, and on the pieces in any order.

Does not own: names that are bound twice, where the first import counts.

## Why a name that is bound once has one meaning

Look-up goes through the imports in order and passes over some of them: those that do not bind the name, and a
default import whose module is not found. Where a name is bound once, what is passed over binds nothing that counts,
so the look-up ends with what the one piece brings in, wherever it stands.
-/

set_option autoImplicit false

namespace DeclaredOptions

open Source

/-! ## Pieces -/

/-- What binds one local name in an import. -/
inductive ImportPiece where
  | asDefault (name module : String)
  | named (imported name module : String)
  /-- The whole module under one name. -/
  | whole (name module : String)
  deriving DecidableEq

/-- The local name that a piece binds. -/
def ImportPiece.name : ImportPiece → String
  | .asDefault name _ | .named _ name _ | .whole name _ => name

def Import.pieces (clause : Import) : List ImportPiece :=
  (clause.defaultName.map (.asDefault · clause.module)).toList ++
    clause.named.map (fun (imported, name) => .named imported name clause.module) ++
    (clause.wholeName.map (.whole · clause.module)).toList

def piecesOf (clauses : List Import) : List ImportPiece := clauses.flatMap (·.pieces)

/-- Statements have the same forms and exports, and their imports bind the same pieces in whatever order and grouping.
No local name is bound twice. -/
structure Source.Regrouped (statements statements' : List Statement) : Prop
    extends Rearranged statements statements' where
  pieces : (piecesOf (importsOf statements)).Perm (piecesOf (importsOf statements'))
  once : ((piecesOf (importsOf statements)).map (·.name)).Nodup

/-! ## Outlines -/

/-- A declaration without lines, those of its members and its documentation included. -/
def Declaration.unlined (d : Declaration) : Declaration := { d.unplaced with source := d.source }

/-- A file without lines and without imports. -/
def SourceFile.outline (file : SourceFile) : SourceFile :=
  { file with declarations := file.declarations.map .unlined, imports := [] }

/-- A project whose files are reduced to their outlines. -/
def Project.outline (project : Project) : Project :=
  { project with files := project.files.map .outline }

namespace SourceFile

theorem defaultExport?_outline (file : SourceFile) :
    file.outline.defaultExport? = file.defaultExport?.map .unlined := by
  unfold defaultExport? outline
  rw [List.find?_map]
  rfl

theorem exported?_outline (file : SourceFile) (name : String) :
    file.outline.exported? name = (file.exported? name).map .unlined := by
  unfold exported? outline
  rw [List.find?_map]
  rfl

theorem isEnum_unlined (d : Declaration) : d.unlined.isEnum = d.isEnum := by
  unfold Declaration.isEnum Declaration.unlined Declaration.unplaced DeclarationBody.unplaced
  cases d.body <;> rfl

theorem isInterface_unlined (d : Declaration) : d.unlined.isInterface = d.isInterface := by
  unfold Declaration.isInterface Declaration.unlined Declaration.unplaced DeclarationBody.unplaced
  cases d.body <;> rfl

theorem type?_outline (file : SourceFile) (name : String) :
    file.outline.type? name = (file.type? name).map .unlined := by
  have enums : file.outline.enums = file.enums.map .unlined := by
    unfold SourceFile.enums outline
    rw [List.filter_map]
    congr 2
    exact funext isEnum_unlined
  have interfaces : file.outline.interfaces = file.interfaces.map .unlined := by
    unfold SourceFile.interfaces outline
    rw [List.filter_map]
    congr 2
    exact funext isInterface_unlined
  unfold type? enum? interface?
  rw [enums, interfaces, List.find?_map, List.find?_map, Option.map_or]
  rfl

end SourceFile

namespace Project

variable {project : Project} {path name : String}

theorem registered?_outline (project : Project) (path : String) :
    project.outline.registered? path = (project.registered? path).map .outline := by
  unfold registered? outline
  rw [List.find?_map]
  rfl

/-! ## Look-ups without a tree -/

/-- The registered file that a specifier leads to. -/
def target? (project : Project) (path specifier : String) : Option SourceFile :=
  if specifier.startsWith "." then (candidates path specifier).findSome? project.registered? else none

/-- The declaration that a piece of the imports of the file at a path brings in. -/
def brought? (project : Project) (path : String) : ImportPiece → Option Declaration
  | .asDefault _ module => (project.target? path module).bind (importedPart? "default")
  | .named imported _ module => (project.target? path module).bind (importedPart? imported)
  | .whole _ _ => none

theorem target?_outline (project : Project) (path specifier : String) :
    project.outline.target? path specifier = (project.target? path specifier).map .outline := by
  have registered : project.outline.registered? = fun path => (project.registered? path).map .outline :=
    funext (registered?_outline project)
  unfold target?
  split
  · rw [registered, List.map_findSome?]
    rfl
  · rfl

theorem importedPart?_outline (imported : String) (target : SourceFile) :
    importedPart? imported target.outline = (importedPart? imported target).map .unlined := by
  unfold importedPart?
  split
  · exact target.defaultExport?_outline
  · exact target.exported?_outline imported

theorem brought?_outline (project : Project) (path : String) (piece : ImportPiece) :
    project.outline.brought? path piece = (project.brought? path piece).map .unlined := by
  have part (imported module : String) :
      (project.outline.target? path module).bind (importedPart? imported) =
        ((project.target? path module).bind (importedPart? imported)).map .unlined := by
    rw [target?_outline, Option.bind_map, Option.map_bind]
    congr 1
    exact funext (importedPart?_outline imported)
  cases piece with
  | asDefault name module => exact part "default" module
  | named imported name module => exact part imported module
  | whole name module => rfl

theorem ends_module?_inMemory (inMemory : project.readsTree = false) (path specifier : String) :
    Step.Ends (module? path specifier) project (.ok (project.target? path specifier)) project := by
  unfold module? target?
  cases specifier.startsWith "." with
  | false => exact Step.ends_pure.mpr ⟨rfl, rfl⟩
  | true =>
      refine Step.ends_get_bind.mpr ?_
      dsimp only
      rw [if_pos rfl, inMemory]
      cases (candidates path specifier).findSome? project.registered? with
      | some file => exact Step.ends_pure.mpr ⟨rfl, rfl⟩
      | none => exact Step.ends_pure.mpr ⟨rfl, rfl⟩

/-! ## One import -/

/-- A name that an import binds is bound by one of its pieces, which brings in what is imported. -/
theorem exists_piece_of_binds? {clause : Import} {exported : String}
    (binds : clause.binds? name = some exported) (project : Project) (path : String) :
    ∃ piece ∈ clause.pieces, piece.name = name ∧
      project.brought? path piece = (project.target? path clause.module).bind (importedPart? exported) := by
  unfold Import.binds? at binds
  unfold Import.pieces
  split at binds
  · rename_i isDefault
    cases binds
    exact ⟨.asDefault name clause.module, by simp [isDefault], rfl, rfl⟩
  · obtain ⟨⟨imported, local_⟩, found, same⟩ := Option.map_eq_some_iff.mp binds
    cases same
    have isName : local_ = name := by simpa using List.find?_some found
    have isPair := List.mem_of_find?_eq_some found
    refine ⟨.named imported local_ clause.module, ?_, isName, rfl⟩
    simp [isPair]

/-- A piece of an import that does not bind its name brings in nothing: it is for the whole module. -/
theorem brought?_of_not_binds {clause : Import} (unbound : clause.binds? name = none)
    {piece : ImportPiece} (isPiece : piece ∈ clause.pieces) (named : piece.name = name) :
    project.brought? path piece = none := by
  unfold Import.binds? at unbound
  split at unbound
  · contradiction
  · rename_i notDefault
    have notNamed := List.find?_eq_none.mp (Option.map_eq_none_iff.mp unbound)
    unfold Import.pieces at isPiece
    rw [List.mem_append, List.mem_append] at isPiece
    rcases isPiece with (byDefault | byName) | wholly
    · obtain ⟨own, isDefault, rfl⟩ := Option.map_eq_some_iff.mp (Option.mem_toList.mp byDefault)
      exact absurd (named ▸ isDefault) notDefault
    · obtain ⟨⟨imported, own⟩, isPair, rfl⟩ := List.mem_map.mp byName
      exact absurd (beq_iff_eq.mpr named) (notNamed _ isPair)
    · obtain ⟨own, -, rfl⟩ := Option.map_eq_some_iff.mp (Option.mem_toList.mp wholly)
      rfl

theorem exists_throughImport (inMemory : project.readsTree = false) (path name : String)
    (clause : Import) :
    ∃ outcome, Step.Ends (throughImport path name clause) project (.ok outcome) project := by
  have asked := ends_module?_inMemory inMemory path clause.module
  unfold throughImport
  extract_lets continued
  have named : ∃ outcome, Step.Ends (continued none) project (.ok outcome) project := by
    simp only [continued]
    split
    · exact ⟨none, Step.ends_pure.mpr ⟨rfl, rfl⟩⟩
    · cases found : project.target? path clause.module with
      | none =>
          rw [found] at asked
          exact ⟨some none, Step.ends_bind_ok.mpr ⟨none, project, asked, Step.ends_pure.mpr ⟨rfl, rfl⟩⟩⟩
      | some target =>
          rw [found] at asked
          exact ⟨_, Step.ends_bind_ok.mpr ⟨some target, project, asked, Step.ends_pure.mpr ⟨rfl, rfl⟩⟩⟩
  split
  · cases found : project.target? path clause.module with
    | none =>
        rw [found] at asked
        obtain ⟨outcome, ends⟩ := named
        exact ⟨outcome, Step.ends_bind_ok.mpr ⟨none, project, asked, ends⟩⟩
    | some target =>
        rw [found] at asked
        exact ⟨_, Step.ends_bind_ok.mpr ⟨some target, project, asked, Step.ends_pure.mpr ⟨rfl, rfl⟩⟩⟩
  · obtain ⟨outcome, ends⟩ := named
    exact ⟨outcome, Step.ends_bind_ok.mpr ⟨none, project, Step.ends_pure.mpr ⟨rfl, rfl⟩, ends⟩⟩

/-! ## All imports -/

section

variable {pieces : List ImportPiece}

/-- Where no name is bound twice, a piece is the one that its name is looked up as. -/
theorem find?_eq_some_of_once (once : (pieces.map (·.name)).Nodup) {piece : ImportPiece}
    (isPiece : piece ∈ pieces) (named : piece.name = name) :
    pieces.find? (·.name == name) = some piece := by
  cases found : pieces.find? (·.name == name) with
  | none => exact absurd (beq_iff_eq.mpr named) (List.find?_eq_none.mp found piece isPiece)
  | some other =>
      have otherNamed : other.name = name := by simpa using List.find?_some found
      have same := List.inj_on_of_nodup_map once (List.mem_of_find?_eq_some found) isPiece
        (otherNamed.trans named.symm)
      rw [same]

theorem find?_of_perm {pieces' : List ImportPiece} (perm : pieces.Perm pieces')
    (once : (pieces.map (·.name)).Nodup) (name : String) :
    pieces.find? (·.name == name) = pieces'.find? (·.name == name) := by
  cases found : pieces'.find? (·.name == name) with
  | some piece =>
      have named : piece.name = name := by simpa using List.find?_some found
      exact find?_eq_some_of_once once (perm.mem_iff.mpr (List.mem_of_find?_eq_some found)) named
  | none =>
      rw [List.find?_eq_none] at found ⊢
      exact fun piece isPiece => found piece (perm.mem_iff.mp isPiece)

end

/-- The declaration that the first piece of a name brings in. -/
def meant? (project : Project) (path name : String) (pieces : List ImportPiece) : Option Declaration :=
  (pieces.find? (·.name == name)).bind (project.brought? path)

/-- Where no name is bound twice, what is behind a piece of a name means nothing for it. -/
theorem meant?_behind {pieces later : List ImportPiece}
    (once : ((pieces ++ later).map (·.name)).Nodup) {piece : ImportPiece} (isPiece : piece ∈ pieces)
    (named : piece.name = name) :
    project.meant? path name (pieces ++ later) = project.brought? path piece ∧
      project.meant? path name later = none := by
  constructor
  · unfold meant?
    rw [find?_eq_some_of_once once (List.mem_append_left _ isPiece) named]
    rfl
  · have absent : later.find? (·.name == name) = none := by
      rw [List.find?_eq_none]
      intro other isLater otherNamed
      rw [List.map_append, List.nodup_append] at once
      exact once.2.2 _ (List.mem_map_of_mem isPiece) _ (List.mem_map_of_mem isLater)
        (named.trans (beq_iff_eq.mp otherNamed).symm)
    unfold meant?
    rw [absent]
    rfl

/-- Where no name is bound twice, the look-up through imports in a row ends with what the piece of the name brings
in. -/
theorem ends_throughImports_inMemory (inMemory : project.readsTree = false) {clauses : List Import}
    (once : ((piecesOf clauses).map (·.name)).Nodup) :
    Step.Ends (throughImports path name clauses) project
      (.ok (project.meant? path name (piecesOf clauses))) project := by
  induction clauses with
  | nil => exact Step.ends_pure.mpr ⟨rfl, rfl⟩
  | cons clause rest inductionHypothesis =>
      have split : piecesOf (clause :: rest) = clause.pieces ++ piecesOf rest := List.flatMap_cons
      rw [split] at once ⊢
      have others := inductionHypothesis (List.nodup_append.mp (List.map_append ▸ once)).2.1
      obtain ⟨outcome, first⟩ := exists_throughImport inMemory path name clause
      refine Step.ends_bind_ok.mpr ⟨outcome, project, first, ?_⟩
      rcases throughImport_cases first with ⟨unbound, rfl, -⟩ | ⟨exported, binds, asksModule⟩
      · have same : project.meant? path name (clause.pieces ++ piecesOf rest) =
            project.meant? path name (piecesOf rest) := by
          cases own : clause.pieces.find? (·.name == name) with
          | none => rw [meant?, List.find?_append, own, Option.none_or, meant?]
          | some piece =>
              have isPiece := List.mem_of_find?_eq_some own
              have named : piece.name = name := by simpa using List.find?_some own
              obtain ⟨whole, behind⟩ := @meant?_behind project path name _ _ once _ isPiece named
              rw [whole, behind, brought?_of_not_binds unbound isPiece named]
        rw [same]
        exact others
      · obtain ⟨piece, isPiece, named, brings⟩ := exists_piece_of_binds? binds project path
        obtain ⟨whole, behind⟩ := @meant?_behind project path name _ _ once _ isPiece named
        rw [whole, brings]
        rw [behind] at others
        have asked := ends_module?_inMemory inMemory path clause.module
        rcases asksModule with ⟨target, looked, rfl⟩ | ⟨looked, -, rfl | ⟨rfl, -⟩⟩
        · have found := Except.ok.inj (Step.ends_unique asked looked).1
          rw [found]
          exact Step.ends_pure.mpr ⟨rfl, rfl⟩
        · have missing := Except.ok.inj (Step.ends_unique asked looked).1
          rw [missing]
          exact Step.ends_pure.mpr ⟨rfl, rfl⟩
        · have missing := Except.ok.inj (Step.ends_unique asked looked).1
          rw [missing]
          exact others

theorem exists_type? (inMemory : project.readsTree = false) (file : SourceFile) (name : String) :
    ∃ found, Step.Ends (type? file name) project (.ok found) project := by
  unfold type?
  cases file.type? name with
  | some own => exact ⟨some own, Step.ends_pure.mpr ⟨rfl, rfl⟩⟩
  | none =>
      dsimp only
      generalize file.imports = clauses
      induction clauses with
      | nil => exact ⟨none, Step.ends_pure.mpr ⟨rfl, rfl⟩⟩
      | cons clause rest inductionHypothesis =>
          obtain ⟨outcome, asked⟩ := exists_throughImport inMemory file.path name clause
          cases outcome with
          | some found =>
              exact ⟨found, Step.ends_bind_ok.mpr
                ⟨some found, project, asked, Step.ends_pure.mpr ⟨rfl, rfl⟩⟩⟩
          | none =>
              obtain ⟨found, others⟩ := inductionHypothesis
              exact ⟨found, Step.ends_bind_ok.mpr ⟨none, project, asked, others⟩⟩

/-- What a type name means in a file whose imports bind no name twice: its own type, or what the piece of the name
brings in. -/
theorem ends_type?_inMemory (inMemory : project.readsTree = false) {file : SourceFile}
    (once : ((piecesOf file.imports).map (·.name)).Nodup) (name : String) :
    Step.Ends (type? file name) project
      (.ok ((file.type? name).or (project.meant? file.path name (piecesOf file.imports)))) project := by
  unfold type?
  cases file.type? name with
  | some own => exact Step.ends_pure.mpr ⟨rfl, rfl⟩
  | none => exact ends_throughImports_inMemory inMemory once

/-- But for lines, what a type name means depends on the outlines of the file and of the project, and on the pieces
in any order. -/
theorem meaning_congr {other : Project} {file version : SourceFile} (sameFile : file.outline = version.outline)
    (sameProject : project.outline = other.outline)
    (perm : (piecesOf file.imports).Perm (piecesOf version.imports))
    (once : ((piecesOf file.imports).map (·.name)).Nodup) (name : String) :
    ((file.type? name).or (project.meant? file.path name (piecesOf file.imports))).map Declaration.unlined =
      ((version.type? name).or
        (other.meant? version.path name (piecesOf version.imports))).map Declaration.unlined := by
  have samePath : file.outline.path = version.outline.path := by rw [sameFile]
  change file.path = version.path at samePath
  rw [Option.map_or, Option.map_or, ← SourceFile.type?_outline, ← SourceFile.type?_outline, sameFile]
  congr 1
  unfold meant?
  rw [find?_of_perm perm once, Option.map_bind, Option.map_bind, samePath]
  congr 1
  funext piece
  rw [Function.comp_apply, Function.comp_apply, ← brought?_outline, ← brought?_outline, sameProject]

end Project

end DeclaredOptions
