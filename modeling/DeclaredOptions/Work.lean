import DeclaredOptions.Console
import DeclaredOptions.Console.Listing
import DeclaredOptions.Emit.Inspection
import DeclaredOptions.JsonText
import DeclaredOptions.Schema.Assembly
import DeclaredOptions.Tool
import DeclaredOptions.Yaml.Writer

/-!
Contract: how requests are answered on a console and a file tree.

Owns:
- the steps of inspection and of writing modules, in the order that a console shows them;
- the tree after a run: only written modules change it, and only where their texts differ;
- what is shown of a failure, and the exit code.

Does not own: the real console and the real file system.
-/

namespace DeclaredOptions.Tool

/-- What a run works on and leaves behind. -/
structure Workplace where
  console : Console
  tree : FileTree
  deriving Repr

inductive Mishap where
  | failure (failure : Failure)
  /-- A text whose style tags do not match. -/
  | markup (fault : Console.MarkupFault)

/-- A step of a run: it may fail, and keeps what it printed and wrote all the same. -/
abbrev Work (α : Type) := ExceptT Mishap (StateM Workplace) α

namespace Work

def ofExcept {α : Type} : Except Failure α → Work α
  | .ok value => pure value
  | .error failure => throw (.failure failure)

def onConsole (step : Console → Except Console.MarkupFault Console) : Work Unit := do
  let place ← get
  match step place.console with
  | .ok console => set { place with console := console }
  | .error fault => throw (.markup fault)

def print (text : String) : Work Unit := onConsole (·.print Console.marked text)

def printVerbatim (text : String) : Work Unit := onConsole (·.print Console.verbatim text)

def warn (text : String) : Work Unit := onConsole (·.warn text)

def mapConsole (step : Console → Console) : Work Unit :=
  modify fun place => { place with console := step place.console }

/-- A step of a project; the file and the project after it. -/
def load (project : Project) (path : String) : Work (SourceFile × Project) := do
  let (result, project) := (Project.load path).run.run project
  pure (← ofExcept result, project)

/-- The commands of a file, and the project after looking at all the files they need; warnings are
printed. -/
def schemas (config : Config) (project : Project) (file : SourceFile) :
    Work (List CommandSchema × Project) := do
  let (result, session) := (Resolve.commandSchemas file config).run.run ⟨project, []⟩
  for warning in session.warnings do
    warn warning.message
  pure (← ofExcept result, session.project)

def project : Work Project := do pure (.empty (← get).tree true)

/-! ## Inspection -/

/-- The schemas of a file as data under its path, with those of other files. -/
def addSchemas (config : Config) (found : List (Data × Data) × Project) (path : String) :
    Work (List (Data × Data) × Project) := do
  let (entries, project) := found
  let (file, project) ← load project path
  let (schemas, project) ← schemas config project file
  let data ← ofExcept (schemas.mapM (·.toData))
  pure (Data.insert entries (.text file.path) (.list data), project)

def inspect (config : Config) (files : List String) (format : Format) : Work Unit := do
  let (entries, _) ← files.foldlM (addSchemas config) ([], ← project)
  let text ← ofExcept (match format with
    | .yaml => Yaml.document (.mapping entries)
    | .json => JsonText.document (.mapping entries))
  printVerbatim text

/-! ## Modules -/

/-- Writes a text at a path, unless a file with this text is there. -/
def write (path text : String) : Work Unit := do
  let place ← get
  let isThere ←
    if place.tree.isFile path then do
      pure ((← ofExcept (place.tree.text path (.cannotWrite path))) == text)
    else pure false
  if !isThere then
    match place.tree.write path text.toUTF8.toList with
    | .ok tree => set { place with tree := tree }
    | .error fault => throw (.failure (.cannotWrite path fault))

def makeDirectories (path : String) : Work Unit := do
  let place ← get
  let (tree, fault) := place.tree.makeDirectories path
  set { place with tree := tree }
  match fault with
  | some (fault, path) => throw (.failure (.cannotMake path fault))
  | none => pure ()

def modulePath (directory : String) (schema : CommandSchema) : String :=
  Path.normalize (Path.joinTo (Path.withSlashes directory) (schema.name ++ Emit.moduleEnding))

def moduleText (config : Config) (schema : CommandSchema) (path : String) : Work String := do
  ofExcept (Emit.moduleText (← get).tree.working config.emit schema path)

def printModule (config : Config) (directory : String) (schema : CommandSchema) : Work Unit := do
  let path := modulePath directory schema
  let text ← moduleText config schema path
  printVerbatim ("// " ++ path)
  printVerbatim text

def nameStyle : String := "bold magenta"

def writeModule (config : Config) (directory : String) (schema : CommandSchema) : Work Unit := do
  let path := modulePath directory schema
  let text ← moduleText config schema path
  makeDirectories directory
  write path text
  print (Console.styled (some nameStyle) schema.name ++ " -> " ++ path)

/-- Writes the modules of a file, to a directory or to the console. -/
def emit (config : Config) (path : String) (directory : Option String) : Work Unit := do
  let (file, project) ← load (← project) path
  let (schemas, _) ← schemas config project file
  let shown := Console.styled (some "bold") file.path
  if schemas.isEmpty then warn (shown ++ " exports no functions; nothing to generate.")
  else
    match directory with
    | none =>
      for schema in schemas do
        printModule config (Path.directory file.path) schema
    | some directory =>
      let names := Console.listing (some nameStyle) "nothing" (schemas.map (·.name))
      print ("Generating " ++ names ++ " from " ++ shown)
      mapConsole Console.indent
      for schema in schemas do
        writeModule config directory schema
      mapConsole fun console => console.unindent?.getD console

/-- Answers a request in the configuration that is named for it. -/
def answer (invocation : Invocation) : Work Unit := do
  let config ← ofExcept (Config.load (← get).tree invocation.config)
  match invocation.request with
  | .inspect files format => inspect config files format
  | .emit file directory => emit config file directory

end Work

/-! ## Runs -/

/-- Whether a failure is one that users are told of by its message alone. -/
def isExpected : Failure → Bool
  | .unsupportedType .. | .unsupportedElement .. | .tag _ | .conflict _ | .unreadableSource _
  | .sourceFault .. | .duplicateSource _ | .emptyDemandTags | .configNotMapping | .configQuote _
  | .cannotRead .. | .cannotLoadFile .. | .cannotWrite .. | .malformedConfig _ => true
  | _ => false

def Mishap.shown (mishap : Mishap) : String :=
  let escaped (text : String) := String.ofList (Console.escape text.toList)
  let unexpected (text : String) :=
    Console.styled (some "bold red") "ERROR" ++ ": An unexpected exception occurred: " ++ escaped text
  match mishap with
  | .failure cause =>
    if isExpected cause then
      Console.styled (some "bold red") "Error" ++ ": " ++ escaped cause.message
    else unexpected cause.message
  | .markup cause => unexpected cause.message

/-- What a run shows, and its exit code. -/
structure Ending where
  code : Nat
  out : String
  err : String
  /-- The fault of a report that could not be shown. The run then has no answer of its own, and its code is that
  of a program that was broken off. -/
  brokenOff : Option Console.MarkupFault
  deriving DecidableEq, Repr

/-- A run of an invocation on a tree; the tree after it. -/
def Invocation.run (tree : FileTree) (invocation : Invocation) : Ending × FileTree :=
  let (result, place) := (Work.answer invocation).run.run ⟨.blank, tree⟩
  match result with
  | .ok () => (⟨0, place.console.out, place.console.err, none⟩, place.tree)
  | .error mishap =>
    match place.console.reset.error mishap.shown with
    | .ok console => (⟨1, console.out, console.err, none⟩, place.tree)
    | .error fault => (⟨1, place.console.out, place.console.err, some fault⟩, place.tree)

/-- A run of a command line on a tree; the tree after it. -/
def run (tree : FileTree) (words : List String) : Ending × FileTree :=
  match read words with
  | .ok (.values values) => (Invocation.ofValues values).run tree
  | .ok (.exit code out err) => (⟨code, out, err, none⟩, tree)
  | .error _ => (⟨1, "", "", none⟩, tree)

end DeclaredOptions.Tool
