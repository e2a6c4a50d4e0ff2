import DeclaredOptions.Source.TypeGrammar

/-!
Contract: the rules for expressions and markup.

Owns:
- operators, calls, look-ups, literals, functions, arrow functions and classes;
- elements of markup, which only some sources hold.

Does not own: statements. Of an expression nothing is kept but a single name or a function form.
-/

namespace DeclaredOptions.Source

open Source.Parser

/-- An expression with what decides how it may go on: whether it can be assigned to, and whether it ends
in a body that takes no call. -/
structure Operand where
  shape : ExpressionShape
  assignable : Bool

/-- An operand of which nothing is kept. -/
def Operand.plain : Operand := ⟨.other, false⟩

/-! ## Functions and classes -/

/-- A function from its keyword on; its name may be missing. -/
def functionForm (line : Nat) : Parser FunctionSyntax := do
  keyword "function"
  let _ ← symbol? "*"
  let name ← if ← sees "(" then pure none else if ← sees "<" then pure none else some <$> word
  let parameters ← callSignature true
  pure ⟨name, parameters, line⟩

def functionExpression : Parser FunctionSyntax := do
  let line := lineOf (← here)
  let _ ← keyword? "async"
  let form ← functionForm line
  block
  pure form

def classModifiers : List String :=
  ["public", "private", "protected", "static", "abstract", "override", "readonly", "declare", "async",
    "get", "set", "accessor"]

/-- The rest of a class member after its name: a method or a field. -/
def classMemberTail : Parser Unit := do
  unless ← brokenOff true do
    let _ ← anySymbol? ["?", "!"]
  if !(← brokenOff true) && ((← sees "(") || (← sees "<")) then
    let _ ← callSignature true
    if ← sees "\x7b" then block
    else unless ← symbol? "," do semicolon false
  else
    let _ ← typeAnnotation? true
    let _ ← initializer? .outer
    unless ← symbol? "," do semicolon true

/-- One member of a class, or a semicolon between members. -/
def classMember : Parser Unit := do
  let _ ← many decorator
  if ← symbol? ";" then pure ()
  else
    let staticBlock := do
      keyword "static"
      block
    let keys := do
      let _ ← keyword? "static"
      indexSignature
      unless ← symbol? "," do semicolon false
    let named := do
      let _ ← takeModifiers classModifiers
      let _ ← symbol? "*"
      let _ ← memberName
      classMemberTail
    staticBlock <|> keys <|> named

def classHeritage : Parser Unit := do
  if ← keyword? "extends" then
    let _ ← goal (.expression .inner)
    if ← sees "<" then
      let _ ← typeArguments
    let _ ← many (do symbol ","; goal (.expression .inner))
  if ← keyword? "implements" then
    let _ ← goal (.type false)
    let _ ← many (do symbol ","; goal (.type false))

def classBody : Parser Unit := do
  symbol "\x7b"
  let _ ← manyUntil (sees "\x7d") classMember
  symbol "\x7d"

/-- A class from its keyword on; its name may be missing. -/
def classForm : Parser Unit := do
  keyword "class"
  unless (← sees "\x7b") || (← seesAnyWord ["extends", "implements"]) do
    let _ ← word
  typeParameters?
  classHeritage
  classBody

/-! ## Markup -/

/-- The raw text between elements, up to a mark that ends it. -/
def markupText : Nat → Parser Unit
  | 0 => pure ()
  | fuel + 1 => do
    match (← here).rest with
    | c :: _ =>
      if c == '<' || c == '\x7b' then pure ()
      else if c == '>' || c == '\x7d' then failure
      else do takeRaw 1; markupText fuel
    | [] => failure

def markupName : Parser Unit := do
  let name := do
    let _ ← word
    let _ ← many (do symbol "-"; let _ ← attempt? word)
  name
  let _ ← many (do if ← symbol? ":" then name else do symbol "."; name)

/-- An expression in braces, which may be empty or spread. -/
def markupExpression : Parser Unit := do
  symbol "\x7b"
  unless ← sees "\x7d" do
    let _ ← symbol? "..."
    let _ ← expressions .inner
  ensure (← sees "\x7d")

def attributeText? : List Char → Option Nat
  | quote :: rest =>
    if quote == '"' || quote == '\'' then
      let inside := rest.takeWhile (· != quote)
      if inside.length < rest.length then some (inside.length + 2) else none
    else none
  | [] => none

def markupAttribute : Parser Unit := do
  if ← sees "\x7b" then
    markupExpression
    take 1
  else
    markupName
    if ← symbol? "=" then
      if ← sees "\x7b" then
        markupExpression
        take 1
      else if ← sees "<" then
        goal .element
        skipGap
      else
        let _ ← lexeme attributeText?

/-- The children of an element up to its closing tag, whose opening mark is taken. -/
def markupChildren : Nat → Parser Unit
  | 0 => failure
  | fuel + 1 => do
    markupText ((← here).rest.length + 1)
    match (← here).rest with
    | '<' :: '/' :: _ => take 2
    | '<' :: _ => do goal .element; markupChildren fuel
    | '\x7b' :: _ => do markupExpression; takeRaw 1; markupChildren fuel
    | _ => failure

/-- An element with its children; it stops right behind its last mark. -/
def elementRule : Parser Unit := do
  symbol "<"
  let fragment ← sees ">"
  unless fragment do
    markupName
    if ← sees "<" then
      let _ ← typeArguments
    let _ ← manyUntil (do pure ((← sees ">") || (← sees "/"))) markupAttribute
  if ← symbol? "/" then
    ensure (← sees ">")
    takeRaw 1
  else
    ensure (← sees ">")
    takeRaw 1
    markupChildren ((← here).rest.length + 1)
    skipGap
    unless fragment do markupName
    ensure (← sees ">")
    takeRaw 1

/-! ## Primary expressions -/

def objectItem : Parser Unit := do
  if ← symbol? "..." then
    let _ ← goal (.expression .inner)
  else
    let method := do
      let _ ← takeModifiers ["async", "get", "set", "static", "public", "private", "protected",
        "override", "readonly"]
      let _ ← symbol? "*"
      let _ ← memberName
      let _ ← symbol? "?"
      ensure ((← sees "(") || (← sees "<"))
      let _ ← callSignature false
      block
    let pair := do
      let _ ← memberName
      symbol ":"
      let _ ← goal (.expression .inner)
    let short := do
      let _ ← word
      let _ ← initializer? .inner
      ensure ((← sees ",") || (← sees "\x7d"))
    pair <|> short <|> method

def arrowBody (setting : Setting) : Parser Unit := do
  if ← sees "\x7b" then block
  else
    let _ ← goal (.expression { setting with noResultType := false })

def arrowFunction (setting : Setting) : Parser Operand := do
  let _ ← (do
    if ← wouldRead (do keyword "async"; ensure ((← sees "(") || (← sees "<"))) then keyword "async")
  typeParameters?
  let _ ← parameters
  unless setting.noResultType do resultAnnotation? false
  symbol "=>"
  arrowBody setting
  pure .plain

/-- An arrow function of one parameter without parentheses. -/
def shortArrowFunction (setting : Setting) : Parser Operand := do
  if ← wouldRead (do keyword "async"; let _ ← word; symbol "=>") then keyword "async"
  let _ ← word
  symbol "=>"
  arrowBody setting
  pure .plain

def unaryWords : List String := ["typeof", "void", "delete", "await"]

/-- A class that is created, with type arguments and call arguments. -/
def creation (setting : Setting) (callee : Parser Operand) : Parser Operand := do
  keyword "new"
  if ← symbol? "." then
    let _ ← word
  else
    let _ ← callee
    let _ ← many (do
      if ← symbol? "." then
        let _ ← symbol? "#"
        let _ ← word
      else if (← sees "[") && !(← brokenOff setting.breaks) then
        symbol "["
        let _ ← expressions .inner
        symbol "]"
      else if (← symbol? "!") then pure ()
      else failure)
    if ← sees "<" then
      let _ ← attempt? (do
        let _ ← typeArguments
        ensure (← sees "("))
    if ← sees "(" then arguments
  pure .plain

/-- The rest of a yielding expression after its word. -/
def yielded (setting : Setting) : Parser Operand := do
  if ← symbol? "*" then
    let _ ← goal (.expression setting)
  else unless (← brokenOff setting.breaks) do
    let _ ← attempt? (goal (.expression setting))
  pure .plain

def wordExpression (setting : Setting) (unary callee : Parser Operand) (text : String) :
    Parser Operand := do
  if text == "function" then
    pure ⟨.function (← functionExpression), false⟩
  else if text == "class" then
    classForm
    pure .plain
  else if text == "new" then creation setting callee
  else if unaryWords.contains text then
    keyword text
    let operand ← unary
    pure ⟨.other, operand.assignable⟩
  else if text == "yield" then
    keyword text
    yielded setting
  else if ["this", "super", "null", "true", "false", "undefined"].contains text then
    keyword text
    pure ⟨.other, text == "undefined"⟩
  else if text == "import" then
    keyword text
    if ← symbol? "." then
      let _ ← word
    else ensure (← sees "(")
    pure .plain
  else
    if ← wouldRead (do keyword "async"; keyword "function") then
      pure ⟨.function (← functionExpression), false⟩
    else
      keyword text
      pure ⟨.name text, true⟩

/-- An expression without operators around it. -/
def primary (setting : Setting) (unary callee : Parser Operand) : Parser Operand := do
  let cursor ← here
  match cursor.rest with
  | '(' :: _ =>
    symbol "("
    let _ ← expressions .inner
    let _ ← typeAnnotation? false
    symbol ")"
    pure ⟨.other, true⟩
  | '[' :: _ =>
    symbol "["
    sparseListTo "]" (do
      let _ ← symbol? "..."
      let _ ← goal (.expression .inner))
    pure ⟨.other, true⟩
  | '\x7b' :: _ =>
    symbol "\x7b"
    sparseListTo "\x7d" objectItem
    pure ⟨.other, true⟩
  | '\'' :: _ | '"' :: _ =>
    let _ ← quotedString
    pure .plain
  | '\x60' :: _ =>
    template (do let _ ← expressions .inner)
    pure .plain
  | '/' :: _ =>
    let _ ← lexeme Lexeme.regex?
    pure .plain
  | '#' :: _ =>
    symbol "#"
    let _ ← word
    ensure (← seesWord "in")
    pure .plain
  | '@' :: _ =>
    let _ ← many decorator
    classForm
    pure .plain
  | '<' :: _ =>
    if (← read).markup then
      goal .element
      skipGap
    else
      let _ ← typeArguments
      let _ ← unary
    pure .plain
  | c :: more =>
    if c.isDigit || (c == '.' && (more.head?.map Char.isDigit).getD false) then
      let _ ← lexeme Lexeme.number?
      pure .plain
    else
      match ← peekWord with
      | some text => wordExpression setting unary callee text
      | none => failure
  | [] => failure

/-! ## Operators -/

/-- Whether the text after type arguments shows that they were type arguments. -/
def endsTypeArguments : Parser Bool := do
  let cursor ← here
  match cursor.rest with
  | [] => pure true
  | c :: _ =>
    pure (cursor.gap.lineBreak || ("(\x60)]\x7d,;:.?=|&".toList).contains c)

/-- One step that goes on with an expression: a member, a look-up, a call, a template, type arguments, or
a mark behind. -/
def postfixStep (setting : Setting) (operand : Operand) : Parser Operand := do
  let broken ← brokenOff setting.breaks
  let cursor ← here
  match cursor.rest with
  | '.' :: next :: _ =>
    ensure (next != '.')
    take 1
    let _ ← symbol? "#"
    let _ ← word
    pure ⟨.other, true⟩
  | '?' :: '.' :: next :: _ =>
    ensure !next.isDigit
    take 2
    if ← sees "(" then arguments
    else if ← symbol? "[" then
      let _ ← expressions .inner
      symbol "]"
    else if ← sees "<" then
      let _ ← typeArguments
      arguments
    else
      let _ ← symbol? "#"
      let _ ← word
    pure ⟨.other, true⟩
  | '[' :: _ =>
    take 1
    let _ ← expressions .inner
    symbol "]"
    pure ⟨.other, true⟩
  | '(' :: _ =>
    arguments
    pure .plain
  | '\x60' :: _ =>
    template (do let _ ← expressions .inner)
    pure .plain
  | '<' :: _ =>
    let _ ← typeArguments
    ensure (← endsTypeArguments)
    pure .plain
  | '!' :: next :: _ =>
    ensure (!broken && next != '=')
    take 1
    pure ⟨.other, operand.assignable⟩
  | '!' :: [] =>
    take 1
    pure .plain
  | '+' :: '+' :: _ | '-' :: '-' :: _ =>
    ensure !broken
    take 2
    pure .plain
  | _ => failure

def postfixed (setting : Setting) (operand : Operand) : Nat → Parser Operand
  | 0 => pure operand
  | fuel + 1 => do
    match ← attempt? (postfixStep setting operand) with
    | some next => postfixed setting next fuel
    | none => pure operand

/-- Whether a function or arrow function begins here and reads as one. -/
def arrow? (setting : Setting) : Parser (Option Operand) := do
  let cursor ← here
  let isOpening ←
    match cursor.rest with
    | '(' :: _ => pure true
    | '<' :: _ => pure true
    | _ => wouldRead (do keyword "async"; ensure ((← sees "(") || (← sees "<")))
  if isOpening then attempt? (arrowFunction setting)
  else if (← peekWord).isSome then attempt? (shortArrowFunction setting)
  else pure none

/-- An expression with the marks and words before it; `fuel` bounds their number. -/
def unaryExpression (setting : Setting) : Nat → Parser Operand
  | 0 => failure
  | fuel + 1 => do
    let again := unaryExpression setting fuel
    match (← here).rest with
    | '+' :: '+' :: _ | '-' :: '-' :: _ => do
      take 2
      let _ ← again
      pure .plain
    | '+' :: _ | '-' :: _ | '~' :: _ | '!' :: _ => do
      take 1
      let operand ← again
      pure ⟨.other, operand.assignable⟩
    | _ =>
      match ← arrow? setting with
      | some operand => pure operand
      | none => do
        let first ← primary setting again (primary setting again again)
        postfixed setting first ((← here).rest.length + 1)

/-- The steps that go on with an expression after an operand: assignments, conditions, checks of type and
binary operators. -/
def operatorSteps (setting : Setting) (operand : Operand) : Nat → Parser Operand
  | 0 => pure operand
  | fuel + 1 => do
    let broken ← brokenOff setting.breaks
    let next : Parser Operand := do
      unaryExpression setting ((← here).rest.length + 1)
    match ← peekWord with
    | some text => do
      if broken then pure operand
      else if text == "instanceof" || (text == "in" && !setting.noIn) then do
        keyword text
        operatorSteps setting ⟨.other, (← next).assignable⟩ fuel
      else if text == "as" || text == "satisfies" then do
        keyword text
        unless ← keyword? "const" do
          let _ ← goal (.type setting.breaks)
        operatorSteps setting ⟨.other, true⟩ fuel
      else pure operand
    | none => do
      match ← peekOperator with
      | none => pure operand
      | some op => do
        if Lexeme.assignments.contains op then do
          ensure operand.assignable
          take op.length
          let _ ← goal (.expression setting)
          pure .plain
        else if Lexeme.binaries.contains op then do
          take op.length
          operatorSteps setting ⟨.other, (← next).assignable⟩ fuel
        else if op == "?" then do
          take 1
          let branch (noResultType : Bool) : Parser Unit := do
            let inside := { setting with noIn := false, noResultType := noResultType }
            let _ ← goal (.expression inside)
            symbol ":"
          branch setting.noResultType <|> branch true
          let _ ← goal (.expression setting)
          pure .plain
        else pure operand

/-- An expression without a top-level comma. -/
def expressionRule (setting : Setting) : Parser ExpressionShape := do
  let fuel := (← here).rest.length + 1
  let operand ← unaryExpression setting fuel
  let whole ← operatorSteps setting operand fuel
  pure whole.shape

end DeclaredOptions.Source
