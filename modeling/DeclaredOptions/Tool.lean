import DeclaredOptions.ConfigFile
import DeclaredOptions.Emit.Module
import DeclaredOptions.Usage.Reading

/-!
Contract: the command line of the tool itself.

Owns:
- its commands with their flags and operands, and all its help texts;
- the request that a command line makes.

Does not own: how requests are answered.
-/

namespace DeclaredOptions.Tool

open Usage

inductive Format where
  | yaml
  | json
  deriving DecidableEq, Repr

def Format.name : Format → String
  | .yaml => "yaml"
  | .json => "json"

def formats : List Format := [.yaml, .json]

def configFlags : FlagSet :=
  ⟨"config",
    [{ Flag.named "config" with
        short := some "c"
        help := "Configuration file (defaults to ./" ++ Config.usualFile ++ " when present)."
        metavar := some "FILE" }]⟩

def inspectCommand : Command :=
  ⟨"inspect", "Print the resolved command schemas of declaration files.", ["i"],
    [⟨"files", "TypeScript declaration sources to inspect.", .atLeastOne⟩],
    [{ Flag.named "format" with
        short := some "f"
        help := "Output format."
        choices := some (formats.map fun format => .text format.name)
        default := .text Format.yaml.name }],
    [configFlags.name]⟩

def emitCommand : Command :=
  ⟨"emit", "Generate a yargs command module for every exported function of a file.", ["e"],
    [⟨"file", "TypeScript declaration source to generate commands from.", .one⟩],
    [{ Flag.named "output" with
        short := some "o"
        help := "Directory to write <command>" ++ Emit.moduleEnding
          ++ " modules to. Printed to the console when omitted."
        metavar := some "DIR" }],
    [configFlags.name]⟩

def program : Program :=
  ⟨"optschema",
    "Derives command-line option schemas from documented TypeScript functions, interfaces and enums, "
      ++ "and generates yargs command modules from them.",
    [inspectCommand, emitCommand], [configFlags]⟩

/-- What a command line comes to. One without a command gets the help text and the code of a failure; an
alias is read as its command. -/
def read (words : List String) : Except UsageFault Outcome := do
  match ← program.read words with
  | .values values =>
    match values.get? "command" with
    | some (.text name) => pure (.values (values.set "command" (.text (program.commandName name))))
    | _ => program.level.helpOutcome 1
  | outcome => pure outcome

inductive Request where
  /-- To show the schemas of files. -/
  | inspect (files : List String) (format : Format)
  /-- To write the modules of a file, to a directory or to the console. -/
  | emit (file : String) (directory : Option String)
  deriving DecidableEq, Repr

structure Invocation where
  request : Request
  config : Option String
  deriving DecidableEq, Repr

def textAt? (values : Values) (key : String) : Option String :=
  match values.get? key with
  | some (.text value) => some value
  | _ => none

def textsAt (values : Values) (key : String) : List String :=
  match values.get? key with
  | some (.list items) =>
    items.filterMap fun item => match item with | .text value => some value | _ => none
  | _ => []

/-- The invocation that the values of a command line describe. -/
def Invocation.ofValues (values : Values) : Invocation :=
  let request : Request :=
    if textAt? values "command" == some emitCommand.name then
      .emit ((textAt? values "file").getD "") (textAt? values "output")
    else
      let named := (textAt? values "format").getD ""
      .inspect (textsAt values "files") ((formats.find? (·.name == named)).getD .yaml)
  ⟨request, textAt? values "config"⟩

end DeclaredOptions.Tool
