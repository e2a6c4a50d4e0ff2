import DeclaredOptions.Data

/-!
Contract: texts with places that named values are filled into.

Owns: the grammar of a place, `%(name)` with a width and a letter, the doubled percent sign, and the
layout of a value in its place.

Does not own: which names there are.
-/

namespace DeclaredOptions.Usage

inductive TemplateFault where
  /-- A place that is cut short, or whose letter is none. -/
  | malformed
  /-- A place for a name that has no value. -/
  | unknownName (name : String)
  /-- A place for a number with a value that is none. -/
  | notNumber
  deriving DecidableEq, Repr

namespace Template

/-- The text of a value in a running text: a text is itself. -/
def shown : Data → String
  | .text value => value
  | other => other.inline

/-- A name and the text after it; `depth` counts the brackets that are open. -/
def nameEnd? (depth : Nat) : List Char → Option (List Char × List Char)
  | [] => none
  | ')' :: rest =>
    match depth with
    | 0 => some ([], rest)
    | depth + 1 => (nameEnd? depth rest).map fun (name, rest) => (')' :: name, rest)
  | c :: rest =>
    (nameEnd? (if c == '(' then depth + 1 else depth) rest).map fun (name, rest) => (c :: name, rest)

structure Layout where
  toLeft : Bool
  width : Nat
  precision : Option Nat
  deriving DecidableEq, Repr

def layout (text : List Char) : Layout × List Char :=
  let isMark (c : Char) := "#0- +".toList.contains c
  let marks := text.takeWhile isMark
  let rest := text.dropWhile isMark
  let number (digits : List Char) := Number.ofDigits 10 (digits.map fun c => c.toNat - 48)
  let width := number (rest.takeWhile Char.isDigit)
  match rest.dropWhile Char.isDigit with
  | '.' :: rest =>
    (⟨marks.contains '-', width, some (number (rest.takeWhile Char.isDigit))⟩,
      rest.dropWhile Char.isDigit)
  | rest => (⟨marks.contains '-', width, none⟩, rest)

def Layout.place (layout : Layout) (text : List Char) : List Char :=
  let text := match layout.precision with | some most => text.take most | none => text
  let pad := List.replicate (layout.width - text.length) ' '
  if layout.toLeft then text ++ pad else pad ++ text

/-- A value by the letter of its place: as a running text, as a value, or as a whole number. -/
def byLetter (letter : Char) (value : Data) : Except TemplateFault (List Char) :=
  if letter == 's' then .ok (shown value).toList
  else if letter == 'r' || letter == 'a' then .ok value.inline.toList
  else if letter == 'd' || letter == 'i' || letter == 'u' then
    match value with
    | .truth value => .ok [if value then '1' else '0']
    | .number (.whole n) => .ok (Number.wholeChars n)
    | .number (.real x) =>
      match x.truncate? with
      | some n => .ok (Number.wholeChars n)
      | none => .error .malformed
    | _ => .error .notNumber
  else .error .malformed

/-- The text of a place whose name was read, and the text after it. -/
def fillPlace (value : Data) (text : List Char) :
    Except TemplateFault (List Char × List Char) := do
  let (layout, rest) := layout text
  match rest with
  | '%' :: rest => pure (layout.place ['%'], rest)
  | letter :: rest => pure (layout.place (← byLetter letter value), rest)
  | [] => throw .malformed

/-- A template with its places filled in; `fuel` bounds its length. -/
def fillFrom (values : List (String × Data)) : Nat → List Char → Except TemplateFault (List Char)
  | 0, text => .ok text
  | fuel + 1, text =>
    match text with
    | [] => .ok []
    | '%' :: '%' :: rest => ('%' :: ·) <$> fillFrom values fuel rest
    | '%' :: '(' :: rest => do
      match nameEnd? 0 rest with
      | none => throw .malformed
      | some (name, rest) =>
        match values.find? fun pair => pair.1.toList == name with
        | none => throw (.unknownName (String.ofList name))
        | some (_, value) =>
          let (filled, rest) ← fillPlace value rest
          (filled ++ ·) <$> fillFrom values fuel rest
    | '%' :: _ => .error .malformed
    | c :: rest => (c :: ·) <$> fillFrom values fuel rest

def fill (values : List (String × Data)) (template : String) : Except TemplateFault String :=
  String.ofList <$> fillFrom values template.length template.toList

end Template

end DeclaredOptions.Usage
