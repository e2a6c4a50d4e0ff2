import DeclaredOptions.Source.Grammar

/-!
Contract: the rules for signatures: parameters, type parameters, result types and member names.

Owns:
- type annotations, type arguments and type parameters;
- parameter lists, and the patterns they bind;
- the names of members, call arguments and decorators.

Does not own: types and expressions themselves.
-/

namespace DeclaredOptions.Source

open Source.Parser

def typeAnnotation (breaks : Bool) : Parser TypeSyntax := do
  symbol ":"
  goal (.type breaks)

def typeAnnotation? (breaks : Bool) : Parser (Option TypeSyntax) := do
  if ← sees ":" then some <$> typeAnnotation breaks else pure none

/-- Type arguments, of which there is at least one. -/
def typeArguments : Parser (List TypeSyntax) := do
  symbol "<"
  let types ← listTo ">" (goal (.type false))
  ensure !types.isEmpty
  pure types

def typeParameter : Parser Unit := do
  if ← wouldRead (do keyword "const"; word) then keyword "const"
  let _ ← word
  if ← keyword? "extends" then
    let _ ← goal (.type false)
  else if ← symbol? ":" then
    let _ ← goal (.type false)
  if ← equals? then
    let _ ← goal (.type false)

/-- Type parameters, of which there is at least one. -/
def typeParameters : Parser Unit := do
  symbol "<"
  let items ← listTo ">" typeParameter
  ensure !items.isEmpty

def typeParameters? : Parser Unit := do
  if ← sees "<" then typeParameters

/-- A default value, if there is one, as it is written. -/
def initializer? (setting : Setting) : Parser (Option String) := do
  if ← equals? then
    let start ← here
    let _ ← goal (.expression setting)
    some <$> textFrom start
  else pure none

def arguments : Parser Unit := do
  symbol "("
  sparseListTo ")" (do
    let _ ← symbol? "..."
    let _ ← goal (.expression .inner))

def decorator : Parser Unit := do
  symbol "@"
  if ← symbol? "(" then
    let _ ← expressions .inner
    symbol ")"
  else
    let _ ← word
    let _ ← many (do symbol "."; word)
    if ← sees "<" then
      let _ ← typeArguments
    if ← sees "(" then arguments

/-- The name of a member as it is written, and whether it is computed. -/
def memberName : Parser (String × Bool) := do
  let start ← here
  if ← symbol? "[" then
    let _ ← goal (.expression .inner)
    symbol "]"
    pure (← textFrom start, true)
  else if ← symbol? "#" then
    let _ ← word
    pure (← textFrom start, false)
  else
    let text ← quotedString <|> lexeme Lexeme.number? <|> word
    pure (text, false)

def seesMemberName : Parser Bool := do
  let cursor ← here
  match cursor.rest with
  | c :: _ => pure (c == '[' || c == '#' || c == '"' || c == '\'' || c.isDigit
      || (Lexeme.word? cursor.rest).isSome)
  | [] => pure false

/-- Whether the next word marks the member after it: a name follows, and no line break that would make
the word itself a member. -/
def seesModifier (modifiers : List String) : Parser Bool := do
  if ← seesAnyWord modifiers then
    wouldRead (do
      let _ ← word
      ensure !(← brokenOff true)
      ensure ((← seesMemberName) || (← sees "*")))
  else pure false

def takeModifiers (modifiers : List String) : Parser (List String) :=
  many (do
    ensure (← seesModifier modifiers)
    word)

/-! ## Patterns and parameters -/

def objectPatternItem : Parser Unit := do
  if ← symbol? "..." then
    let _ ← goal .pattern
  else
    let _ ← memberName
    if ← symbol? ":" then
      let _ ← goal .pattern
    let _ ← initializer? .inner

def arrayPatternItem : Parser Unit := do
  let _ ← symbol? "..."
  let _ ← goal .pattern
  let _ ← initializer? .inner

/-- What a declaration binds: a name, the receiver, or a pattern. -/
def bindingPattern : Parser Binding := do
  if ← symbol? "\x7b" then
    sparseListTo "\x7d" objectPatternItem
    pure .pattern
  else if ← symbol? "[" then
    sparseListTo "]" arrayPatternItem
    pure .pattern
  else
    let text ← word
    let more ← many (do
      ensure !(← sees "...")
      symbol "."
      word)
    if !more.isEmpty || text == "undefined" then pure .pattern
    else if text == "this" then pure .receiver
    else pure (.name text)

def parameterModifiers : List String :=
  ["public", "private", "protected", "override", "readonly"]

/-- Whether the next word marks the parameter after it. -/
def seesParameterModifier : Parser Bool := do
  if ← seesAnyWord parameterModifiers then
    wouldRead (do
      let _ ← word
      let cursor ← here
      match cursor.rest with
      | c :: _ => ensure (c == '\x7b' || c == '[' || (Lexeme.word? cursor.rest).isSome)
      | [] => failure)
  else pure false

def parameter : Parser ParameterSyntax := do
  let _ ← many decorator
  let _ ← many (do
    ensure (← seesParameterModifier)
    word)
  let rest ← symbol? "..."
  let place := (← here).place
  let binding ← goal .pattern
  let optional ← symbol? "?"
  let type ← typeAnnotation? false
  let initializer ← initializer? .inner
  pure ⟨binding, place, optional, rest, type, initializer⟩

def parameters : Parser (List ParameterSyntax) := do
  symbol "("
  listTo ")" parameter

/-- A result type, an assertion or a type guard, after the colon or the arrow. -/
def resultType (breaks : Bool) : Parser Unit := do
  let guard := do
    let _ ← word
    ensure !(← brokenOff breaks)
    keyword "is"
    let _ ← goal (.type breaks)
  let assertion := do
    keyword "asserts"
    ensure !(← brokenOff true)
    let _ ← word
    if ← keyword? "is" then
      let _ ← goal (.type breaks)
  guard <|> assertion <|> (do
    let _ ← goal (.type breaks))

def resultAnnotation? (breaks : Bool) : Parser Unit := do
  if ← symbol? ":" then resultType breaks

def callSignature (breaks : Bool) : Parser (List ParameterSyntax) := do
  typeParameters?
  let list ← parameters
  resultAnnotation? breaks
  pure list

end DeclaredOptions.Source
