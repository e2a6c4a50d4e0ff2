import DeclaredOptions.Text.Cut

/-!
Contract: documentation blocks as values, and how the text of a block comment is read as one.

Owns:
- tags, blocks and their summary;
- the cleaning of comment lines and the grammar of a tag line;
- the grouping of lines into the description and the tags.

Does not own: which comment belongs to which declaration, and what a tag's text means.
-/

namespace DeclaredOptions

/-- One `@name comment` annotation of a documentation block. -/
structure DocTag where
  name : String
  comment : String
  line : Nat
  deriving DecidableEq, Repr

/-- A documentation block: free text before the first tag, then the tags in order. -/
structure DocBlock where
  description : String
  tags : List DocTag
  line : Nat
  deriving DecidableEq, Repr

namespace DocBlock

/-- A line of a comment without blanks at its ends and without the star that opens it. -/
def cleanLine (raw : List Char) : List Char :=
  match Text.trim raw with
  | '*' :: rest => Text.trim rest
  | line => line

/-- A character of a tag name after the first. -/
def isTagNamePart (c : Char) : Bool := Text.isNamePart c || c == '-'

/-- The tag name and the first comment line of a cleaned line that opens a tag. -/
def tagLine? : List Char → Option (List Char × List Char)
  | '@' :: first :: rest =>
    if Text.isNameStart first then
      some (first :: rest.takeWhile isTagNamePart,
        Text.trimStart (rest.dropWhile isTagNamePart))
    else none
  | _ => none

/-- The text between the marks of a block comment; any other text is taken whole. -/
def commentBody (text : List Char) : List Char :=
  match Text.after? "/**".toList text with
  | some rest =>
    if Text.hasEnding "*/".toList text then rest.take (rest.length - 2) else text
  | none => text

/-- Lines as one text with line feeds between them and no blanks at its ends. -/
def paragraph (lines : List (List Char)) : String :=
  String.ofList (Text.trim (Text.join ['\n'] lines))

/-- A group of cleaned lines under a tag: its name, its line number and its comment lines. -/
structure TagLines where
  name : List Char
  line : Nat
  comment : List (List Char)

def TagLines.tag (group : TagLines) : DocTag :=
  ⟨String.ofList group.name, paragraph group.comment, group.line⟩

/-- The cleaned lines before the first tag line, and a group for each tag line on; `line` is the
number of the first of the lines. -/
def groupLines (line : Nat) : List (List Char) → List (List Char) × List TagLines
  | [] => ([], [])
  | current :: rest =>
    let (leading, groups) := groupLines (line + 1) rest
    match tagLine? current with
    | some (name, comment) => ([], ⟨name, line, comment :: leading⟩ :: groups)
    | none => (current :: leading, groups)

def ofComment (text : String) (line : Nat) : DocBlock :=
  let cleaned := (Text.pieces '\n' (commentBody text.toList)).map cleanLine
  let (leading, groups) := groupLines line cleaned
  ⟨paragraph leading, groups.map TagLines.tag, line⟩

/-- The first line of the description that is not blank, or the empty text. -/
def summary (block : DocBlock) : String :=
  match (Text.lines block.description.toList).find? fun line => !(Text.trim line).isEmpty with
  | some line => String.ofList (Text.trim line)
  | none => ""

end DocBlock

def summaryOf (block : Option DocBlock) : String :=
  match block with
  | some block => block.summary
  | none => ""

end DeclaredOptions
