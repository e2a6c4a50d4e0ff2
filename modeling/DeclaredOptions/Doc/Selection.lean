import DeclaredOptions.Data
import DeclaredOptions.Doc.Block
import DeclaredOptions.Text.Pattern

/-!
Contract: choosing tags of a documentation block, and the parameter tags among them.

Owns:
- selectors by name, pattern or test, and the choice by position;
- the grammar of a parameter tag and the look-up of a parameter's text.

Does not own: the literals that other tags hold.
-/

namespace DeclaredOptions

/-- How tags are chosen by their names. -/
inductive TagSelector where
  | named (name : String)
  | matching (pattern : Text.Pattern)
  | satisfying (test : String → Bool)
  /-- A value that stands for no choice. -/
  | other (value : Data)

def TagSelector.chooses : TagSelector → String → Bool
  | .named expected, name => name == expected
  | .matching pattern, name => pattern.occursIn name.toList
  | .satisfying test, name => test name
  | .other _, _ => false

/-- The tags of a block that a selector chooses, in order; a missing block has none. -/
def tagsOf (block : Option DocBlock) (selector : TagSelector) : List DocTag :=
  match block with
  | some block => block.tags.filter fun tag => selector.chooses tag.name
  | none => []

/-- The chosen tags for a selector that may stand for no choice: it is refused once there is a block to
look at. -/
def tagsOfChecked (block : Option DocBlock) (selector : TagSelector) :
    Except Failure (List DocTag) :=
  match block, selector with
  | some _, .other value => do throw (.unsupportedSelector (← value.shown))
  | block, selector => .ok (tagsOf block selector)

/-- The item at a position of a list; negative positions count from its end. -/
def itemAt? {α : Type} (items : List α) (position : Int) : Option α :=
  if 0 ≤ position then items[position.toNat]?
  else if -position ≤ items.length then items[((items.length : Int) + position).toNat]?
  else none

def firstTag? (block : Option DocBlock) (name : String) : Option DocTag :=
  (tagsOf block (.named name)).head?

/-! ## Parameter tags -/

/-- The text after a braced type and the blanks that follow it; a text without one is kept. -/
def skipBracedType (text : List Char) : List Char :=
  match text with
  | '\x7b' :: rest =>
    match rest.dropWhile (· != '\x7d') with
    | _ :: rest => Text.trimStart rest
    | [] => text
  | _ => text

/-- A name in brackets, with or without a default, after the opening bracket: the name and what
follows the closing bracket. -/
def bracketedName? (text : List Char) : Option (List Char × List Char) :=
  let inside (c : Char) := c != ']' && c != '='
  let name := text.takeWhile inside
  if name.isEmpty then none
  else
    match (text.dropWhile inside).dropWhile (· != ']') with
    | _ :: rest => some (name, rest)
    | [] => none

/-- A character of a parameter name without brackets. -/
def isBareNamePart (c : Char) : Bool := !Text.isBlank c && c != '\x7b' && c != '['

/-- The name at the start of a parameter tag, and what follows it. -/
def paramName? (text : List Char) : Option (List Char × List Char) :=
  match text with
  | '[' :: rest => bracketedName? rest
  | _ =>
    let name := text.takeWhile isBareNamePart
    if name.isEmpty then none else some (name, text.dropWhile isBareNamePart)

/-- The text of a parameter tag after its name, without the dash that may open it. -/
def paramText (rest : List Char) : List Char :=
  match Text.trimStart rest with
  | '-' :: text => Text.trim text
  | text => Text.trim text

/-- The parameter that the comment of a parameter tag names, if any, and its text. -/
def paramTag (comment : String) : Option String × String :=
  match paramName? (skipBracedType (Text.trim comment.toList)) with
  | some (name, rest) =>
    let name := Text.trim name
    (if name.isEmpty then none else some (String.ofList name), String.ofList (paramText rest))
  | none => (none, "")

/-- The text of the first parameter tag that names the given parameter. -/
def paramDoc? (block : Option DocBlock) (name : String) : Option String :=
  (tagsOf block (.named "param")).findSome? fun tag =>
    let (named, text) := paramTag tag.comment
    if named == some name then some text else none

end DeclaredOptions
