import DeclaredOptions.Text.Wrap
import DeclaredOptions.Usage.Grammar
import DeclaredOptions.Usage.Template

/-!
Contract: the usage line and the help text of a level of a command line.

Owns:
- what an argument is called in them, and how the number of its words is shown;
- the columns: lines of 78, helps from column 24 on or further left where all names are short;
- the values that help texts name.

Does not own: what is done with the texts.
-/

namespace DeclaredOptions.Usage

def lineWidth : Nat := 78

/-- The column that helps begin at, if names need it. -/
def helpColumn : Nat := 24

def leastWidth : Nat := 11

def spaces (n : Nat) : List Char := List.replicate n ' '

/-! ## Arguments -/

namespace Argument

def placeholder (argument : Argument) : String :=
  match argument.metavar, argument.choices with
  | some name, _ => name
  | none, some choices => "\x7b" ++ Text.joined "," (choices.map Template.shown) ++ "\x7d"
  | none, none =>
    let key := argument.key.getD ""
    if argument.isFlag then String.ofList (Text.upper key.toList) else key

def wordsText (argument : Argument) : String :=
  let name := argument.placeholder
  match argument.words with
  | .zero => ""
  | .one => name
  | .exactly n => Text.joined " " (List.replicate n name)
  | .optional => "[" ++ name ++ "]"
  | .any => "[" ++ name ++ " ...]"
  | .atLeastOne => name ++ " [" ++ name ++ " ...]"
  | .rest => "..."
  | .command => name ++ " ..."

def labelled (argument : Argument) (label : String) : String :=
  if argument.words == .zero then label else label ++ " " ++ argument.wordsText

def usagePart (argument : Argument) : String :=
  match argument.labels with
  | [] => argument.wordsText
  | label :: _ =>
    if argument.required then argument.labelled label else "[" ++ argument.labelled label ++ "]"

def heading (argument : Argument) : String :=
  if argument.isFlag then Text.joined ", " (argument.labels.map argument.labelled)
  else argument.placeholder

def countData (argument : Argument) : Data :=
  match argument.words, argument.words.mark? with
  | .exactly n, _ => .whole n
  | .zero, _ => .whole 0
  | _, some mark => .text mark
  | _, none => .null

def helpValues (program : String) (argument : Argument) : List (String × Data) :=
  let orNull (text : Option String) : Data := match text with | some text => .text text | none => .null
  let choices : Data :=
    match argument.choices with
    | some choices => .text (Text.joined ", " (choices.map Template.shown))
    | none => .null
  let default := if argument.effect == .showHelp then [] else [("default", argument.default)]
  default ++
    [("prog", .text program), ("option_strings", .list (argument.labels.map .text)),
      ("dest", orNull argument.key), ("nargs", argument.countData),
      ("const", if argument.effect == .setTrue then .truth true else .null),
      ("type", orNull (argument.kind.map (·.name))), ("choices", choices),
      ("required", .truth argument.required), ("help", .text argument.help),
      ("metavar", orNull argument.metavar)]

/-- The help of an argument with its default, where it has one and does not name it itself. -/
def helpTemplate (argument : Argument) : String :=
  let hasDefault := argument.effect != .showHelp
    && (argument.isFlag || argument.words == .optional || argument.words == .any)
  if hasDefault && !Text.holds "%(default)".toList argument.help.toList then
    argument.help ++ " (default: %(default)s)"
  else argument.help

end Argument

/-! ## Usage lines -/

/-- An opening bracket that words may be optional in. -/
def isOpening (c : Char) : Bool := c == '[' || c == '('

/-- A closing bracket that words may be optional in. -/
def isClosing (c : Char) : Bool := c == ']' || c == ')'

/-- A text without a space after an opening bracket. -/
def closeOpenings : List Char → List Char
  | [] => []
  | c :: ' ' :: rest =>
    if isOpening c then c :: closeOpenings rest else c :: closeOpenings (' ' :: rest)
  | c :: rest => c :: closeOpenings rest

/-- A text without a space before a closing bracket. -/
def closeClosings : List Char → List Char
  | [] => []
  | ' ' :: c :: rest =>
    if isClosing c then c :: closeClosings rest else ' ' :: closeClosings (c :: rest)
  | c :: rest => c :: closeClosings rest

/-- The text after brackets that hold nothing but spaces. -/
def afterEmpty? : List Char → Option (List Char)
  | [] => none
  | c :: rest =>
    if isOpening c then
      match rest.dropWhile (· == ' ') with
      | d :: after => if isClosing d then some after else none
      | [] => none
    else none

/-- A text without brackets that hold nothing; `fuel` bounds its length. -/
def dropEmpty : Nat → List Char → List Char
  | 0, text => text
  | fuel + 1, text =>
    match afterEmpty? text with
    | some after => dropEmpty fuel after
    | none =>
      match text with
      | c :: rest => c :: dropEmpty fuel rest
      | [] => []

def usageOf (arguments : List Argument) : List Char :=
  let whole := Text.join [' '] (arguments.map fun argument => argument.usagePart.toList)
  let closed := closeClosings (closeOpenings whole)
  Text.trim (dropEmpty closed.length closed)

/-- The text up to closing brackets that end a part, and the text after them. -/
def bracketEnd? (closing : Char) : List Char → Option (List Char × List Char)
  | [] => none
  | c :: rest =>
    let after := rest.dropWhile (· == closing)
    if c == closing && (after.head?.all Text.isBlank) then
      some (c :: rest.takeWhile (· == closing), after)
    else if c == '\n' then none
    else (bracketEnd? closing rest).map fun (part, after) => (c :: part, after)

/-- A part of a usage line that is not broken, and the text after it. -/
def usagePiece (text : List Char) : List Char × List Char :=
  let bracketed : Option (List Char × List Char) :=
    match text with
    | '(' :: rest => (bracketEnd? ')' rest).map fun (part, after) => ('(' :: part, after)
    | '[' :: rest => (bracketEnd? ']' rest).map fun (part, after) => ('[' :: part, after)
    | _ => none
  bracketed.getD (text.span fun c => !Text.isBlank c)

/-- The parts of a usage line that are not broken; `fuel` bounds their number. -/
def usagePieces : Nat → List Char → List (List Char)
  | 0, _ => []
  | fuel + 1, text =>
    match text.dropWhile Text.isBlank with
    | [] => []
    | text =>
      let (piece, after) := usagePiece text
      piece :: usagePieces fuel after

/-- Parts in lines; `taken` is the width of the line so far, which holds `line`, and further lines begin
after `indent` columns. -/
def partLines (indent taken : Nat) (line : List (List Char)) :
    List (List Char) → List (List (List Char))
  | [] => if line.isEmpty then [] else [line]
  | part :: rest =>
    if lineWidth < taken + part.length && !line.isEmpty then
      line :: partLines indent (indent + part.length + 1) [part] rest
    else partLines indent (taken + part.length + 1) (line ++ [part]) rest

/-- Parts in lines that all begin after `indent` columns. -/
def indentedLines (indent : Nat) (parts : List (List Char)) : List (List Char) :=
  (partLines indent indent [] parts).map fun line => spaces indent ++ Text.join [' '] line

/-- The lines of a usage that is too long for one. A short name of the program stands in front of its flags;
a long one has a line of its own. -/
def brokenUsage (lead : Nat) (name : List Char) (flags operands : List (List Char)) :
    List (List Char) :=
  if 4 * (lead + name.length) ≤ 3 * lineWidth then
    let indent := lead + name.length + 1
    let (first, others) := if flags.isEmpty then (operands, []) else (flags, operands)
    match partLines indent lead [] (name :: first) with
    | [] => []
    | top :: more =>
      Text.join [' '] top :: more.map (fun line => spaces indent ++ Text.join [' '] line)
        ++ indentedLines indent others
  else
    match indentedLines lead (flags ++ operands) with
    | [one] => [name, one]
    | _ => name :: (indentedLines lead flags ++ indentedLines lead operands)

def usageLead : List Char := "usage: ".toList

def Level.usageChars (level : Level) : List Char :=
  let name := level.name.toList
  let flags := usageOf level.flags
  let operands := usageOf level.operands
  let arguments := usageOf (level.flags ++ level.operands)
  let whole := Text.join [' '] ([name, arguments].filter fun part => !part.isEmpty)
  if lineWidth < usageLead.length + whole.length then
    usageLead ++ Text.join ['\n'] (brokenUsage usageLead.length name
      (usagePieces flags.length flags) (usagePieces operands.length operands))
  else usageLead ++ whole

/-! ## Help texts -/

/-- A text with at most one empty line between lines; `breaks` counts the line feeds before it. -/
def oneEmptyLine (breaks : Nat) : List Char → List Char
  | [] => []
  | '\n' :: rest => if 2 ≤ breaks then oneEmptyLine breaks rest else '\n' :: oneEmptyLine (breaks + 1) rest
  | c :: rest => c :: oneEmptyLine 0 rest

/-- A finished text: no line feeds at its start, one at its end. -/
def finished (text : List Char) : String :=
  let isFeed (c : Char) := c == '\n'
  String.ofList (Text.dropEndWhile isFeed ((oneEmptyLine 0 text).dropWhile isFeed) ++ ['\n'])

def Level.usageText (level : Level) : String := finished (level.usageChars ++ ['\n', '\n'])

def filled (width : Nat) (text : String) : List (List Char) :=
  Text.wrapped width (Text.unspaced text.toList)

/-- The lines of an argument in a help text: its heading after `indent` columns, and its help from `column`
on, beside the heading if that is short. -/
def Argument.helpLines (program : String) (column indent : Nat) (argument : Argument) :
    Except TemplateFault (List Char) := do
  let heading := argument.heading.toList
  let width := column - indent - 2
  if argument.help.isEmpty then pure (spaces indent ++ heading ++ ['\n'])
  else
    let beside := heading.length ≤ width
    let top :=
      spaces indent ++ (if beside then Text.padEnd width heading ++ [' ', ' '] else heading ++ ['\n'])
    if (Text.trim argument.help.toList).isEmpty then pure (if beside then top ++ ['\n'] else top)
    else
      let help ← Template.fill (argument.helpValues program) argument.helpTemplate
      match filled (max (lineWidth - column) leastWidth) help with
      | [] => pure top
      | first :: more =>
        let pad (line : List Char) := spaces column ++ line ++ ['\n']
        pure (top ++ (if beside then first ++ ['\n'] else pad first) ++ more.flatMap pad)

/-- A headed part of a help text; none if it has no lines. -/
def headed (heading : String) (lines : List (List Char)) : List Char :=
  if lines.isEmpty then [] else '\n' :: heading.toList ++ ":\n".toList ++ lines.flatten ++ ['\n']

def Level.descriptionChars (level : Level) : Except TemplateFault (List Char) := do
  match level.description with
  | none => pure []
  | some text =>
    let text ←
      if Text.holds "%(prog)".toList text.toList then
        Template.fill [("prog", .text level.name)] text
      else pure text
    pure (Text.join ['\n'] (filled lineWidth text) ++ ['\n', '\n'])

def Level.helpText (level : Level) : Except TemplateFault String := do
  let headings := (level.arguments ++ level.entries).map fun argument => argument.heading.length
  let column := min (headings.foldl max 0 + 4) helpColumn
  let lines (indent : Nat) (argument : Argument) := argument.helpLines level.name column indent
  let operands ← level.operands.mapM (lines 2)
  let entries ← level.entries.mapM (lines 4)
  let flags ← level.flags.mapM (lines 2)
  pure (finished (level.usageChars ++ ['\n', '\n'] ++ (← level.descriptionChars)
    ++ headed "positional arguments" (operands ++ entries) ++ headed "options" flags))

end DeclaredOptions.Usage
