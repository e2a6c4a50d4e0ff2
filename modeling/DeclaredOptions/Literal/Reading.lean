import DeclaredOptions.Literal.Basic
import DeclaredOptions.Literal.Escape

/-!
Contract: reading text fragments as literals of the closed grammar.

Owns:
- the quoted forms, numerals and dotted paths, and the refusal of everything else;
- the narrower readings of enum initializers, member paths and aliases.

Does not own: which literal fits which option.
-/

namespace DeclaredOptions.Literal

/-- The body of a quoted form that is the whole text: it closes at its first unescaped quote, which
comes last, and holds no line feed. -/
def quotedBody? (mark : Char) : List Char → Option (List Char)
  | '\\' :: c :: rest => if c == '\n' then none else (quotedBody? mark rest).map ('\\' :: c :: ·)
  | c :: rest =>
    if c == mark then if rest.isEmpty then some [] else none
    else if c == '\\' || c == '\n' then none
    else (quotedBody? mark rest).map (c :: ·)
  | [] => none

/-- The double-quoted body that a quoted form stands for, if the text is one. -/
def quotedForm? : List Char → Option (List Char)
  | '"' :: rest => quotedBody? '"' rest
  | '\'' :: rest => (quotedBody? '\'' rest).map Escape.requote
  | _ => none

def ofQuotedBody (body : List Char) (tag : Option String) : Except TagRefusal Literal :=
  match Escape.decode body with
  | .ok value => .ok (.text (String.ofList value))
  | .error fault =>
    .error ⟨String.ofList ('"' :: body ++ ['"']),
      "invalid string escape (" ++ fault.message ++ ")", tag⟩

/-- Whether a text is a name: a name start, then word characters and dollar signs. -/
def isName : List Char → Bool
  | [] => false
  | first :: rest => Text.isNameStart first && rest.all Text.isNamePart

def pathParts? (text : List Char) : Option (List String) :=
  let parts := Text.pieces '.' text
  if parts.all isName then some (parts.map String.ofList) else none

/-- The literal of a dotted path: the two truth words are no paths. -/
def ofPath : List String → Literal
  | ["true"] => .truth true
  | ["false"] => .truth false
  | parts => .path parts

/-- Reads a fragment; `tag` names the documentation tag it came from, and a missing fragment counts as
an empty one. -/
def parse (text : Option String) (tag : Option String) : Except TagRefusal Literal :=
  let whole := text.getD ""
  let fragment := Text.trim whole.toList
  if fragment.isEmpty then .error ⟨whole, "expected a value", tag⟩
  else
    match quotedForm? fragment with
    | some body => ofQuotedBody body tag
    | none =>
      if Numeral.isNumeral fragment then .ok (.number (String.ofList fragment))
      else
        match pathParts? fragment with
        | some parts => .ok (ofPath parts)
        | none =>
          .error ⟨String.ofList fragment,
            "expected a quoted string, a number or a dotted name", tag⟩

/-- Reads a quoted text or a numeral; any other fragment is no value. -/
def parseValue (text : String) : Except TagRefusal (Option Literal) :=
  let fragment := Text.trim text.toList
  match quotedForm? fragment with
  | some body => some <$> ofQuotedBody body none
  | none =>
    if Numeral.isNumeral fragment then .ok (some (.number (String.ofList fragment)))
    else .ok none

/-- The member path of the given names, read back so that only names make one. -/
def qualifiedName (parts : List String) : Except TagRefusal Literal := do
  let text := Text.joined "." parts
  match ← parse (some text) none with
  | .path parts => .ok (.path parts)
  | _ => .error ⟨text, "expected a dotted name", none⟩

def isAliasChar (c : Char) : Bool := c.isAlphanum || c == '-' || c == '_'

/-- The alias that a fragment names, as a text literal; a quoted fragment is decoded first. -/
def parseAlias (text : String) : Except TagRefusal Literal := do
  let fragment := Text.trim text.toList
  let name ←
    match fragment with
    | '"' :: _ | '\'' :: _ =>
      match ← parse (some (String.ofList fragment)) (some "alias") with
      | .text value => pure value.toList
      | _ => throw ⟨String.ofList fragment, "expected an alias name", some "alias"⟩
    | _ => pure fragment
  if !name.isEmpty && name.all isAliasChar then pure (.text (String.ofList name))
  else throw ⟨String.ofList name, "expected an alias name", some "alias"⟩

end DeclaredOptions.Literal
