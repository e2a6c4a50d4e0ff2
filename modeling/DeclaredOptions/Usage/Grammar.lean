import DeclaredOptions.Data
import DeclaredOptions.Text.Upper

/-!
Contract: the commands of a program and the words they take, as a table.

Owns:
- flags with their values, operands with the number of their words, commands with their aliases, and sets
  of flags that commands share;
- look-up by name;
- the arguments that the words of one command line level are read by.

Does not own: help texts and the reading of words.
-/

namespace DeclaredOptions.Usage

inductive WordKind where
  | text
  | whole
  | real
  deriving DecidableEq, Repr

def WordKind.name : WordKind → String
  | .text => "str"
  | .whole => "int"
  | .real => "float"

def WordKind.all : List WordKind := [.text, .whole, .real]

def WordKind.ofName? (name : String) : Option WordKind := WordKind.all.find? (·.name == name)

inductive FlagAction where
  /-- Takes one word and keeps its value. -/
  | store
  /-- Keeps true. -/
  | setTrue
  /-- Counts how often it stands there. -/
  | count
  deriving DecidableEq, Repr

def FlagAction.name : FlagAction → String
  | .store => "store"
  | .setTrue => "store_true"
  | .count => "count"

def FlagAction.all : List FlagAction := [.store, .setTrue, .count]

def FlagAction.ofName? (name : String) : Option FlagAction :=
  FlagAction.all.find? (·.name == name)

inductive WordCount where
  | zero
  | one
  | exactly (n : Nat)
  | optional
  | any
  | atLeastOne
  /-- All that is left, flags as well. -/
  | rest
  /-- A command and all that is left. -/
  | command
  deriving DecidableEq, Repr

/-- The mark of a number of words in tables; a plain number and a single word have none. -/
def WordCount.mark? : WordCount → Option String
  | .optional => some "?"
  | .any => some "*"
  | .atLeastOne => some "+"
  | .rest => some "..."
  | .command => some "A..."
  | .zero | .one | .exactly _ => none

def WordCount.ofMark? (mark : String) : Option WordCount :=
  [WordCount.optional, .any, .atLeastOne, .rest, .command].find? (·.mark? == some mark)

structure Flag where
  name : String
  short : Option String
  help : String
  action : FlagAction
  kind : Option WordKind
  default : Data
  choices : Option (List Data)
  metavar : Option String
  required : Bool
  destination : Option String
  deriving Repr

structure Operand where
  name : String
  help : String
  count : WordCount
  deriving Repr

/-- A set of flags that commands include by its name. -/
structure FlagSet where
  name : String
  flags : List Flag
  deriving Repr

structure Command where
  name : String
  help : String
  aliases : List String
  operands : List Operand
  flags : List Flag
  includes : List String
  deriving Repr

structure Program where
  name : String
  description : String
  commands : List Command
  sets : List FlagSet
  deriving Repr

namespace Flag

/-- A flag that takes a word, of which nothing but the name is set. -/
def named (name : String) : Flag :=
  ⟨name, none, "", .store, none, .null, none, none, false, none⟩

def labels (flag : Flag) : List String :=
  let short :=
    match flag.short with
    | some letter => if letter.isEmpty then [] else ["-" ++ letter]
    | none => []
  short ++ ["--" ++ flag.name]

def underscored (name : List Char) : String := String.ofList (Text.substitute '-' ['_'] name)

/-- The name that the value of a flag goes by. -/
def key (flag : Flag) : String :=
  match flag.destination with
  | some name => if name.isEmpty then underscored flag.name.toList else name
  | none => underscored flag.name.toList

/-- The name that the value of a flag is kept under: its destination, or its first long label without the
hyphens in front. -/
def storedKey (flag : Flag) : String :=
  match flag.destination with
  | some name => name
  | none =>
    let long := (flag.labels.find? (·.startsWith "--")).getD ""
    underscored (long.toList.dropWhile (· == '-'))

end Flag

namespace Program

def command? (program : Program) (name : String) : Option Command :=
  program.commands.find? fun command => command.name == name || command.aliases.contains name

def set? (program : Program) (name : String) : Option FlagSet :=
  program.sets.find? fun set => set.name == name

def aliases (program : Program) : List (String × String) :=
  program.commands.flatMap fun command => command.aliases.map fun name => (name, command.name)

/-- The name that a name or an alias stands for; of two commands with an alias the later one has it. -/
def commandName (program : Program) (name : String) : String :=
  match (program.aliases.filter fun pair => pair.1 == name).getLast? with
  | some (_, command) => command
  | none => name

end Program

/-! ## Arguments of one level -/

inductive Effect where
  | showHelp
  | store
  | setTrue
  | count
  | runCommand
  deriving DecidableEq, Repr

/-- A flag or an operand as the words of one level are read by it; operands have no labels. -/
structure Argument where
  labels : List String
  /-- The name its value is kept under; help has none. -/
  key : Option String
  words : WordCount
  effect : Effect
  kind : Option WordKind
  default : Data
  choices : Option (List Data)
  metavar : Option String
  required : Bool
  help : String
  deriving Repr

namespace Argument

def isFlag (argument : Argument) : Bool := !argument.labels.isEmpty

def helpFlag : Argument :=
  ⟨["-h", "--help"], none, .zero, .showHelp, none, .null, none, none, false,
    "show this help message and exit"⟩

/-- The argument of a flag. Only a flag that takes a word has a kind, choices and a metavariable and can
be required. -/
def ofFlag (flag : Flag) : Argument :=
  let key := some flag.storedKey
  match flag.action with
  | .store =>
    ⟨flag.labels, key, .one, .store, flag.kind, flag.default, flag.choices, flag.metavar,
      flag.required, flag.help⟩
  | .setTrue =>
    ⟨flag.labels, key, .zero, .setTrue, none, flag.default, none, none, false, flag.help⟩
  | .count => ⟨flag.labels, key, .zero, .count, none, flag.default, none, none, false, flag.help⟩

def ofOperand (operand : Operand) : Argument :=
  ⟨[], some operand.name, operand.count, .store, none, .null, none,
    some (String.ofList (Text.upper operand.name.toList)), operand.count != .optional, operand.help⟩

def title (argument : Argument) : String :=
  if argument.isFlag then Text.joined "/" argument.labels
  else (argument.metavar.or argument.key).getD ""

end Argument

/-- One level of a command line: its full name, what it is for, its arguments, and the commands that come
next, as a help text lists them. -/
structure Level where
  name : String
  description : Option String
  arguments : List Argument
  entries : List Argument
  deriving Repr

namespace Level

def flags (level : Level) : List Argument := level.arguments.filter (·.isFlag)

def operands (level : Level) : List Argument := level.arguments.filter (!·.isFlag)

def flag? (level : Level) (label : String) : Option Argument :=
  level.flags.find? fun argument => argument.labels.contains label

def labels (level : Level) : List (String × Argument) :=
  level.flags.flatMap fun argument => argument.labels.map (·, argument)

end Level

inductive GrammarFault where
  /-- Two flags of a command share a label, or two commands a name. -/
  | conflict
  /-- An operand takes no words. -/
  | noWords
  /-- A flag has no name that its value could be kept under. -/
  | noKey
  deriving DecidableEq, Repr

/-- A command as an argument that a help text lists: its name with its aliases. -/
def Command.entry (command : Command) : Argument :=
  let names :=
    if command.aliases.isEmpty then command.name
    else command.name ++ " (" ++ Text.joined ", " command.aliases ++ ")"
  ⟨[], some command.name, .one, .store, none, .null, none, some names, false, command.help⟩

namespace Program

/-- The flags of a command: those that it includes, then its own. -/
def commandFlags (program : Program) (command : Command) : List Flag :=
  let included := command.includes.flatMap fun name => ((program.set? name).map (·.flags)).getD []
  included ++ command.flags

/-- The level of a command: its operands, then its flags. -/
def commandLevel (program : Program) (command : Command) : Level :=
  ⟨Text.trimmed program.name ++ " " ++ command.name, none,
    Argument.helpFlag :: command.operands.map .ofOperand
      ++ (program.commandFlags command).map .ofFlag, []⟩

def names (program : Program) : List String :=
  (program.commands.flatMap fun command => command.name :: command.aliases).eraseDups

def level (program : Program) : Level :=
  let command : Argument :=
    ⟨[], some "command", .command, .runCommand, none, .null,
      some (program.names.map .text), none, false, ""⟩
  ⟨program.name, some program.description, [Argument.helpFlag, command],
    program.commands.map (·.entry)⟩

/-- Refuses a flag whose labels are taken or that has no key. -/
def checkFlag (taken : List String) (flag : Flag) : Except GrammarFault (List String) :=
  if flag.storedKey.isEmpty && flag.destination.isNone then .error .noKey
  else if flag.labels.any taken.contains then .error .conflict
  else .ok (taken ++ flag.labels)

/-- Refuses a command with a name that is taken, an operand without words or a flag in conflict. -/
def checkCommand (program : Program) (taken : List String) (command : Command) :
    Except GrammarFault (List String) := do
  if (command.name :: command.aliases).any taken.contains then throw .conflict
  if command.operands.any fun operand => operand.count == .exactly 0 then throw .noWords
  let _ ← (program.commandFlags command).foldlM checkFlag Argument.helpFlag.labels
  pure (taken ++ command.name :: command.aliases)

/-- Refuses a table that describes no program. -/
def check (program : Program) : Except GrammarFault Unit := do
  let _ ← program.commands.foldlM program.checkCommand []

end Program

end DeclaredOptions.Usage
