import DeclaredOptions.Failure
import DeclaredOptions.Text.Cut

/-!
Contract: slash-separated paths, their normal form and the way from one to another.

Owns: normalization, joining, directory and last component, relative paths, and the suffixes of
declaration sources.

Does not own: what a file system holds at a path.
-/

namespace DeclaredOptions.Path

def components (path : String) : List String := Text.cutAt '/' path

def ofComponents (parts : List String) : String := Text.joined "/" parts

/-- The number of slashes that open the normal form of a path: exactly two stay two. -/
def leadingSlashes (path : String) : Nat :=
  match path.toList with
  | '/' :: '/' :: '/' :: _ => 1
  | '/' :: '/' :: _ => 2
  | '/' :: _ => 1
  | _ => 0

/-- Adds a component to a reduced list, which is held in reverse: empty components and single dots are
dropped, and a double dot takes the component before it away. Above the root there is nothing. -/
def reduceStep (rooted : Bool) (reduced : List String) (component : String) : List String :=
  if component == "" || component == "." then reduced
  else if component != ".." then component :: reduced
  else
    match reduced with
    | [] => if rooted then [] else [".."]
    | last :: rest => if last == ".." then ".." :: last :: rest else rest

def reduce (rooted : Bool) (parts : List String) : List String :=
  (parts.foldl (reduceStep rooted) []).reverse

def normalize (path : String) : String :=
  let slashes := leadingSlashes path
  let body := ofComponents (reduce (slashes != 0) (components path))
  let whole := String.ofList (List.replicate slashes '/') ++ body
  if whole.isEmpty then "." else whole

/-- A path with forward slashes only. -/
def withSlashes (path : String) : String :=
  String.ofList (Text.substitute '\\' ['/'] path.toList)

/-- A path joined to a directory; an absolute path stands alone. -/
def joinTo (directory path : String) : String :=
  if path.startsWith "/" then path
  else if directory.isEmpty || directory.endsWith "/" then directory ++ path
  else directory ++ "/" ++ path

/-- The directory part of a path, without the slashes that end it unless it is all slashes. -/
def directory (path : String) : String :=
  let head := Text.dropEndWhile (· != '/') path.toList
  if head.all (· == '/') then String.ofList head
  else String.ofList (Text.dropEndWhile (· == '/') head)

def lastComponent (path : String) : String := (components path).getLastD ""

/-- The nonempty components of a path made absolute in a working directory. -/
def absolute (working : List String) (path : String) : List String :=
  if path.startsWith "/" then reduce true (components path)
  else reduce true (working ++ components path)

/-- The components left of two lists after their common beginning. -/
def afterCommon : List String → List String → List String × List String
  | a :: as, b :: bs => if a == b then afterCommon as bs else (a :: as, b :: bs)
  | as, bs => (as, bs)

def relative (working : List String) (path start : String) : Except Failure String :=
  if path.isEmpty then .error .emptyPath
  else
    let (up, down) := afterCommon (absolute working start) (absolute working path)
    let parts := List.replicate up.length ".." ++ down
    .ok (if parts.isEmpty then "." else ofComponents parts)

/-- The suffixes of declaration sources, the longest first. -/
def sourceSuffixes : List String := [".d.ts", ".tsx", ".ts"]

/-- A path without the suffix of a declaration source. -/
def withoutSourceSuffix (path : String) : String :=
  let bare? (suffix : String) := Text.before? suffix.toList path.toList
  match sourceSuffixes.findSome? bare? with
  | some bare => String.ofList bare
  | none => path

/-- The stem of a source: its last component without the suffix. -/
def stem (path : String) : String := withoutSourceSuffix (lastComponent (withSlashes path))

/-- The import specifier that leads from a module to a source; it always reads as a path. -/
def specifier (working : List String) (module source : String) : Except Failure String := do
  let start := directory module
  let way ← relative working (withoutSourceSuffix source) (if start.isEmpty then "." else start)
  pure (if way.startsWith "." then way else "./" ++ way)

end DeclaredOptions.Path
