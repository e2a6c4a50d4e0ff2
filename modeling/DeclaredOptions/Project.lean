import DeclaredOptions.Declaration.Collection
import DeclaredOptions.FileTree

/-!
Contract: projects, which number declarations and follow imports from file to file.

Owns:
- the registered files in order, the next number, and the tree that files are read from;
- adding and loading, the look-up of modules, and the look-up of types as a file sees them.

Does not own: what a type means for an option.
-/

namespace DeclaredOptions

/-- A project. Files are registered under their normalized paths; numbers are never given out twice. -/
structure Project where
  files : List SourceFile
  nextId : Nat
  tree : FileTree
  /-- Whether modules that are not registered are looked for in the tree. -/
  readsTree : Bool
  deriving Repr

/-- A step of a project: it may fail, and changes the project all the same. -/
abbrev ProjectStep (α : Type) := ExceptT Failure (StateM Project) α

namespace Project

/-- A project without files. -/
def empty (tree : FileTree) (readsTree : Bool) : Project := ⟨[], 1, tree, readsTree⟩

def key (path : String) : String := Path.normalize (Path.withSlashes path)

def registered? (project : Project) (key : String) : Option SourceFile :=
  project.files.find? fun file => file.path == key

def file? (project : Project) (path : String) : Option SourceFile := project.registered? (key path)

def takeId : ProjectStep Nat := do
  let project ← get
  set { project with nextId := project.nextId + 1 }
  pure project.nextId

/-- Registers a text under a path. A text that fails uses up the numbers of the declarations before the
failure. -/
def add (path text : String) : ProjectStep SourceFile := do
  let project ← get
  let key := key path
  if (project.registered? key).isSome then throw (.duplicateSource key)
  else
    match SourceFile.ofText key text project.nextId with
    | .ok file =>
      set { project with
        files := project.files ++ [file]
        nextId := project.nextId + file.declarations.length }
      pure file
    | .error (failure, used) =>
      set { project with nextId := project.nextId + used }
      throw failure

/-- The file at a path, which is read from the tree unless it is registered. -/
def load (path : String) : ProjectStep SourceFile := do
  let project ← get
  match project.registered? (key path) with
  | some file => pure file
  | none =>
    match project.tree.text path (.cannotRead path) with
    | .ok text => add (key path) text
    | .error failure => throw failure

def moduleEndings : List String := ["", ".ts", ".tsx", ".d.ts", "/index.ts", "/index.tsx"]

/-- The path that a relative specifier names, seen from a file. -/
def moduleBase (path specifier : String) : String :=
  key (Path.joinTo (Path.directory path) specifier)

def candidates (path specifier : String) : List String :=
  moduleEndings.map (moduleBase path specifier ++ ·)

/-- The file that a specifier leads to from the file at a path. Only relative specifiers lead anywhere;
registered files come before those of the tree. -/
def module? (path specifier : String) : ProjectStep (Option SourceFile) := do
  if !specifier.startsWith "." then pure none
  else
    let project ← get
    let candidates := candidates path specifier
    match candidates.findSome? project.registered? with
    | some file => pure (some file)
    | none =>
      if project.readsTree then
        match candidates.find? project.tree.isFile with
        | some candidate => some <$> load candidate
        | none => pure none
      else pure none

/-- The declaration that the named part of an import brings in. -/
def importedPart? (imported : String) (target : SourceFile) : Option Declaration :=
  if imported == "default" then target.defaultExport? else target.exported? imported

/-- The outcome of looking for a name in one import: not bound there, or bound to a declaration or to
nothing. -/
def throughImport (path name : String) (clause : Import) :
    ProjectStep (Option (Option Declaration)) := do
  let byDefault ←
    if clause.defaultName == some name then module? path clause.module else pure none
  match byDefault with
  | some target => pure (some target.defaultExport?)
  | none =>
    match clause.named.find? fun pair => pair.2 == name with
    | none => pure none
    | some (imported, _) =>
      match ← module? path clause.module with
      | none => pure (some none)
      | some target => pure (some (importedPart? imported target))

/-- The declaration that the first import that binds a name brings in. -/
def throughImports (path name : String) : List Import → ProjectStep (Option Declaration)
  | [] => pure none
  | clause :: rest => do
    match ← throughImport path name clause with
    | some found => pure found
    | none => throughImports path name rest

/-- The declaration that a type name means in a file: one of its own enums and interfaces, or one that
an import brings in. -/
def type? (file : SourceFile) (name : String) : ProjectStep (Option Declaration) := do
  match file.type? name with
  | some own => pure (some own)
  | none => throughImports file.path name file.imports

/-- The names of types that a file can use, in the order they are suggested. -/
def visibleNames (file : SourceFile) : List String :=
  (file.enums ++ file.interfaces).filterMap (·.name)
    ++ file.imports.flatMap fun clause =>
      (present clause.defaultName).toList ++ clause.named.map (·.2)

end Project

end DeclaredOptions
