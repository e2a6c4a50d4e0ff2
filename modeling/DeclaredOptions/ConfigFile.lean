import DeclaredOptions.Config
import DeclaredOptions.FileTree
import DeclaredOptions.Yaml.Reading

/-!
Contract: configurations of a file tree.

Owns: the usual name of a configuration file, and the reading of the configuration in a file.

Does not own: what the settings mean.
-/

namespace DeclaredOptions.Config

/-- The file that is read if none is named, where it is there. -/
def usualFile : String := "optschema.yaml"

def ofReadFault (path : String) : Yaml.ReadFault → Failure
  | .malformed => .malformedConfig path
  | .value fault => .wrongValue fault
  | .noWord word => .missingKey (Text.quoted word)

def ofFile (tree : FileTree) (path : String) : Except Failure Config := do
  let text ← tree.text path (.cannotLoadFile path)
  match Yaml.parse text with
  | .ok data => ofData data
  | .error fault => throw (ofReadFault path fault)

/-- The configuration that a tree gives: that of the named file, or else of the usual one. -/
def load (tree : FileTree) (path : Option String) : Except Failure Config :=
  match path with
  | some path => ofFile tree path
  | none => if tree.holds usualFile then ofFile tree usualFile else .ok usual

end DeclaredOptions.Config
