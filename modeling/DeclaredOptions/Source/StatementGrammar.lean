import DeclaredOptions.Source.ExpressionGrammar

/-!
Contract: the rules for statements.

Owns:
- functions, interfaces, enums, imports and exports, which are kept;
- every other statement, of which nothing is kept but that it was there.

Does not own: what exports mean for declarations.
-/

namespace DeclaredOptions.Source

open Source.Parser

/-! ## Declarations -/

/-- A function declaration or a signature without a body. -/
def functionDeclaration : Parser DeclarationSyntax := do
  let line := lineOf (← here)
  let _ ← keyword? "async"
  keyword "function"
  let _ ← symbol? "*"
  let name ← word
  let list ← callSignature true
  if ← sees "\x7b" then block else semicolon false
  pure (.function ⟨some name, list, line⟩)

def interfaceDeclaration : Parser DeclarationSyntax := do
  let line := lineOf (← here)
  keyword "interface"
  let name ← word
  typeParameters?
  if ← keyword? "extends" then
    let _ ← namedType false
    let _ ← many (do symbol ","; namedType false)
  let properties ← objectType
  pure (.interface name properties line)

/-- One member of an enum; a computed name without a value is not kept. -/
def enumMember : Parser (Option EnumMemberSyntax) := do
  let start ← here
  let (name, computed) ← memberName
  let initializer ← initializer? .inner
  pure (if initializer.isNone && (computed || name.startsWith "#") then none
    else some ⟨name, initializer, start.doc?, lineOf start⟩)

def enumDeclaration : Parser DeclarationSyntax := do
  let line := lineOf (← here)
  let isConst ← keyword? "const"
  keyword "enum"
  let name ← word
  symbol "\x7b"
  let members ← listTo "\x7d" enumMember
  pure (.enumeration name isConst (members.filterMap id) line)

/-- One declared variable with its type and its first value. -/
def declarator (setting : Setting) : Parser Bool := do
  let binding ← goal .pattern
  ensure (binding != .receiver)
  let _ ← symbol? "!"
  let _ ← typeAnnotation? setting.breaks
  pure (← initializer? setting).isSome

/-- Declared variables after their keyword; the result tells whether an expression comes last. -/
def declarators (setting : Setting) : Parser Bool := do
  let first ← declarator setting
  let more ← many (do symbol ","; declarator setting)
  pure ((first :: more).getLastD false)

def variableStatement : Parser Unit := do
  (keyword "var") <|> (keyword "let") <|> (keyword "const")
  let expression ← declarators .outer
  semicolon expression

def typeAlias : Parser Unit := do
  keyword "type"
  let _ ← word
  typeParameters?
  equals
  let _ ← goal (.type true)
  semicolon false

/-- A module or namespace after its keyword; the body may be missing. -/
def moduleBody : Parser Unit := do
  if (← sees "'") || (← sees "\"") then
    let _ ← quotedString
  else
    let _ ← word
    let _ ← many (do symbol "."; word)
  if ← sees "\x7b" then block

def classDeclaration : Parser Unit := do
  let _ ← many decorator
  let _ ← keyword? "abstract"
  ensure (← wouldRead (do keyword "class"; word))
  classForm

def importAlias : Parser Unit := do
  keyword "import"
  let _ ← word
  equals
  let _ ← word
  let _ ← many (do symbol "."; word)
  semicolon false

/-- A declaration that may follow a word of export or of ambience; only functions, interfaces and enums
are kept. -/
def declarationRule : Parser (Option DeclarationSyntax) := do
  let _ ← keyword? "declare"
  declarationOf
where
  declarationOf : Parser (Option DeclarationSyntax) := do
    let forget (p : Parser Unit) : Parser (Option DeclarationSyntax) := do p; pure none
    match ← peekWord with
    | some "function" => some <$> functionDeclaration
    | some "async" => some <$> functionDeclaration
    | some "interface" => some <$> interfaceDeclaration
    | some "enum" => some <$> enumDeclaration
    | some "const" =>
      if ← wouldRead (do keyword "const"; keyword "enum"; word) then some <$> enumDeclaration
      else forget variableStatement
    | some "var" | some "let" => forget variableStatement
    | some "class" | some "abstract" => forget classDeclaration
    | some "type" => forget typeAlias
    | some "namespace" => forget (do keyword "namespace"; moduleBody)
    | some "module" => forget (do keyword "module"; moduleBody)
    | some "import" => forget importAlias
    | some "global" => forget (do keyword "global"; block)
    | _ => if ← sees "@" then forget classDeclaration else failure

/-! ## Imports and exports -/

/-- A name of a module: a word or a quoted one, without its quotes. -/
def moduleName : Parser String := unquoted <$> (quotedString <|> word)

/-- One name of an import or export clause with the name it takes; a leading word for types is left
out. -/
def clauseItem : Parser (String × String) := do
  let plain := do
    let name ← moduleName
    let taken ← if ← keyword? "as" then moduleName else pure name
    ensure ((← sees ",") || (← sees "\x7d"))
    pure (name, taken)
  let marked := do
    (keyword "type") <|> (keyword "typeof")
    plain
  plain <|> marked

def clause : Parser (List (String × String)) := do
  symbol "\x7b"
  listTo "\x7d" clauseItem

def importAttributes : Parser Unit := do
  if (← keyword? "with") || (← keyword? "assert") then
    symbol "\x7b"
    sparseListTo "\x7d" objectItem

/-- The parts of an import clause: the default name, the name of the whole, and the named parts. -/
def importClause : Parser (Option String × Option String × List (String × String)) := do
  let whole := do
    symbol "*"
    keyword "as"
    word
  if ← sees "*" then pure (none, some (← whole), [])
  else if ← sees "\x7b" then pure (none, none, ← clause)
  else
    let name ← word
    if ← symbol? "," then
      if ← sees "*" then pure (some name, some (← whole), [])
      else pure (some name, none, ← clause)
    else pure (some name, none, [])

def importStatement : Parser Statement := do
  let line := lineOf (← here)
  keyword "import"
  let fromModule : Parser Statement := do
    let (default?, whole, named) ← importClause
    keyword "from"
    let module := unquoted (← quotedString)
    importAttributes
    semicolon false
    pure (.importing ⟨module, default?, named, whole, line⟩)
  let typed : Parser Statement := do
    (keyword "type") <|> (keyword "typeof")
    fromModule
  let sideEffect : Parser Statement := do
    let _ ← quotedString
    importAttributes
    semicolon false
    pure .other
  let required : Parser Statement := do
    let _ ← attempt? (do
      keyword "type"
      ensure !(← sees "="))
    let _ ← word
    equals
    keyword "require"
    symbol "("
    let _ ← quotedString
    symbol ")"
    semicolon false
    pure .other
  let aliased : Parser Statement := do
    let _ ← word
    equals
    let _ ← word
    let _ ← many (do symbol "."; word)
    semicolon false
    pure .other
  sideEffect <|> fromModule <|> typed <|> required <|> aliased

/-- The statement that a declared or named value leaves. -/
def exportedValue (doc : Option DocBlock) (shape : ExpressionShape) : Statement :=
  match shape with
  | .name text => .exportingDefault text
  | .function form => .declaring doc .asDefault (.function form)
  | .other => .other

def exportStatement (doc : Option DocBlock) : Parser Statement := do
  let _ ← many decorator
  keyword "export"
  let source : Parser Unit := do
    keyword "from"
    let _ ← quotedString
    importAttributes
  let everything : Parser Statement := do
    symbol "*"
    if ← keyword? "as" then
      let _ ← moduleName
    source
    semicolon false
    pure .other
  let names : Parser Statement := do
    let pairs ← clause
    let foreign ← attempt? source
    semicolon false
    pure (if foreign.isSome then .other else .exportingNames pairs)
  let typeNames : Parser Statement := do
    keyword "type"
    if ← sees "*" then everything else names
  let assigned : Parser Statement := do
    equals
    let shape ← goal (.expression .outer)
    semicolon true
    pure (exportedValue doc shape)
  let asNamespace : Parser Statement := do
    keyword "as"
    keyword "namespace"
    let _ ← word
    semicolon false
    pure .other
  let declared (kind : ExportKind) : Parser Statement := do
    match ← declarationRule with
    | some declaration => pure (.declaring doc kind declaration)
    | none => pure .other
  let byDefault : Parser Statement := do
    keyword "default"
    declared .asDefault <|> (do
      let shape ← goal (.expression .outer)
      semicolon true
      pure (exportedValue doc shape))
  if ← sees "*" then everything
  else if ← sees "\x7b" then names
  else if ← sees "=" then assigned
  else if ← seesWord "default" then byDefault
  else typeNames <|> asNamespace <|> declared .named

/-! ## Other statements -/

def condition : Parser Unit := do
  symbol "("
  let _ ← expressions .inner
  symbol ")"

/-- The head of a loop over the items or keys of a value. -/
def loopOver : Parser Unit := do
  let declared := do
    (keyword "var") <|> (keyword "let") <|> (keyword "const")
    let _ ← goal .pattern
    let _ ← typeAnnotation? false
    let _ ← initializer? { Setting.inner with noIn := true }
  let assigned := do
    let _ ← goal (.expression { Setting.inner with noIn := true })
  (do declared; ensure (← seesAnyWord ["in", "of"])) <|> assigned
  (keyword "in") <|> (keyword "of")
  let _ ← expressions .inner

/-- The head of a loop with a start, a condition and a step. -/
def loopCounting : Parser Unit := do
  let setting : Setting := { Setting.inner with noIn := true }
  if ← seesAnyWord ["var", "let", "const"] then
    let _ ← word
    let _ ← declarators setting
  else unless ← sees ";" do
    let _ ← expressions setting
  symbol ";"
  unless ← sees ";" do
    let _ ← expressions .inner
  symbol ";"
  unless ← sees ")" do
    let _ ← expressions .inner

def nested : Parser Unit := do
  let _ ← goal .statement

def forStatement : Parser Unit := do
  keyword "for"
  let _ ← keyword? "await"
  symbol "("
  loopOver <|> loopCounting
  symbol ")"
  nested

def switchStatement : Parser Unit := do
  keyword "switch"
  condition
  symbol "\x7b"
  let _ ← manyUntil (sees "\x7d") (do
    (keyword "default") <|> (do
      keyword "case"
      let _ ← expressions .inner)
    symbol ":"
    let _ ← manyUntil (do
      pure ((← sees "\x7d") || (← seesAnyWord ["case", "default"]))) nested)
  symbol "\x7d"

def tryStatement : Parser Unit := do
  keyword "try"
  block
  let handled ← keyword? "catch"
  if handled then
    if ← symbol? "(" then
      let _ ← goal .pattern
      let _ ← typeAnnotation? false
      symbol ")"
    block
  if ← keyword? "finally" then block
  else ensure handled

def wordStatement (text : String) : Option (Parser Unit) :=
  if text == "if" then some do
    keyword text
    condition
    nested
    if ← keyword? "else" then nested
  else if text == "for" then some forStatement
  else if text == "while" then some do
    keyword text
    condition
    nested
  else if text == "do" then some do
    keyword text
    nested
    keyword "while"
    condition
    let _ ← attempt? (semicolon true)
  else if text == "with" then some do
    keyword text
    condition
    nested
  else if text == "switch" then some switchStatement
  else if text == "try" then some tryStatement
  else if text == "return" then some do
    keyword text
    unless (← sees ";") || (← here).endsStatement true do
      let _ ← expressions .outer
    semicolon true
  else if text == "throw" then some do
    keyword text
    let _ ← expressions .outer
    semicolon true
  else if text == "break" || text == "continue" then some do
    keyword text
    unless (← sees ";") || (← here).endsStatement false do
      let _ ← word
    semicolon false
  else if text == "debugger" then some do
    keyword text
    semicolon false
  else none

def declarationWords : List String :=
  ["function", "class", "interface", "enum", "const", "var", "abstract"]

def ambiguousWords : List String := ["async", "let", "type", "module", "declare"]

def expressionStatement : Parser Statement := do
  let _ ← expressions .outer
  semicolon true
  pure .other

def labelled : Parser Statement := do
  let _ ← word
  symbol ":"
  nested
  pure .other

def statementRule : Parser Statement := do
  let doc := (← here).doc?
  let declared : Parser Statement := do
    match ← declarationRule with
    | some declaration => pure (.declaring doc .none declaration)
    | none => pure .other
  let forget (p : Parser Unit) : Parser Statement := do p; pure .other
  if ← sees "\x7b" then forget block
  else if ← sees ";" then forget (take 1)
  else if ← sees "@" then (exportStatement doc) <|> forget classDeclaration <|> expressionStatement
  else
    match ← peekWord with
    | none => expressionStatement
    | some text =>
      match wordStatement text with
      | some p => forget p
      | none =>
        if text == "import" then
          if ← wouldRead (do keyword text; ensure ((← sees "(") || (← sees "."))) then
            expressionStatement
          else importStatement
        else if text == "export" then exportStatement doc
        else if declarationWords.contains text then declared
        else if text == "namespace" then
          forget (do keyword text; moduleBody; semicolon false) <|> labelled <|> expressionStatement
        else if ambiguousWords.contains text then declared <|> labelled <|> expressionStatement
        else labelled <|> expressionStatement

end DeclaredOptions.Source
