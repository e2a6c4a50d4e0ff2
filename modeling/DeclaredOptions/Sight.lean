import DeclaredOptions.Work

/-!
Contract: which places of a file tree a run looks at.

Owns: the named files, the modules that sources import, and the modules that are written, as far as the
known part of a tree tells.

Does not own: the looking itself.
-/

namespace DeclaredOptions.Tool

def withUpper (place : List String) : List (List String) :=
  (List.range place.length).map fun n => place.take (n + 1)

def pathOf (place : List String) : String := "/" ++ Path.ofComponents place

/-- The paths that the imports of a source may lead to. -/
def importedPaths (place : List String) (bytes : List UInt8) : List String :=
  match FileTree.textOf bytes with
  | .error _ => []
  | .ok text =>
    match SourceFile.ofText (pathOf place) text 1 with
    | .error _ => []
    | .ok file =>
      let modules := (file.imports.map (·.module)).filter (·.startsWith ".")
      modules.flatMap (Project.candidates file.path)

def namedPaths (invocation : Invocation) : List String :=
  invocation.config.getD Config.usualFile ::
    match invocation.request with
    | .inspect files _ => files
    | .emit file directory => file :: directory.toList

/-- The paths that a run looks at, as far as the tree tells. -/
def soughtPaths (tree : FileTree) (invocation : Invocation) : List String :=
  let imported := tree.entries.flatMap fun (place, entry) =>
    match entry with
    | .file bytes => importedPaths place bytes
    | .directory => []
  let written := (tree.changedFiles (invocation.run tree).2).map (·.1)
  namedPaths invocation ++ imported ++ written

/-- The places that a run looks at, as far as the tree tells. -/
def soughtPlaces (tree : FileTree) (invocation : Invocation) : List (List String) :=
  let places := (soughtPaths tree invocation).map (Path.absolute tree.working)
  (places.flatMap withUpper).eraseDups.filter fun place =>
    !FileTree.isWithin place tree.working

end DeclaredOptions.Tool
