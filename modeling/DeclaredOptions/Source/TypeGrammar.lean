import DeclaredOptions.Source.Signature

/-!
Contract: the rules for types.

Owns:
- names, generic types, arrays, unions, intersections and literal types, which are kept as they nest;
- object, tuple, function, conditional, query, look-up and template types, of which the text is kept;
- the members of object types and interfaces.

Does not own: what a type means for an option.
-/

namespace DeclaredOptions.Source

open Source.Parser

/-! ## Members of object types -/

def memberSeparator : Parser Unit := do
  unless ← anySymbol? [",", ";"] do ensure ((← here).endsStatement false)

/-- A signature of keys: one key type, or keys mapped over a type. -/
def indexSignature : Parser Unit := do
  if ← anySymbol? ["+", "-"] then keyword "readonly"
  else
    let _ ← keyword? "readonly"
  symbol "["
  let _ ← word
  if ← symbol? ":" then
    let _ ← goal (.type false)
  else
    keyword "in"
    let _ ← goal (.type false)
    if ← keyword? "as" then
      let _ ← goal (.type false)
  symbol "]"
  if ← anySymbol? ["+", "-"] then symbol "?"
  else
    let _ ← symbol? "?"
  let _ ← typeAnnotation true

/-- Words that may stand before a property or a method of an object type. -/
def memberModifiers : List String :=
  ["public", "private", "protected", "static", "override", "readonly", "async", "get", "set"]

/-- Modifiers that only methods have. -/
def methodModifiers : List String := ["async", "get", "set"]

/-- A property or method; a property with a written name is kept. -/
def namedMember : Parser (Option PropertySyntax) := do
  let doc := (← here).doc?
  let modifiers ← takeModifiers memberModifiers
  let generator ← symbol? "*"
  let line := lineOf (← here)
  let (name, computed) ← memberName
  let broken ← brokenOff true
  let optional ← if broken then pure false else symbol? "?"
  if !broken && ((← sees "(") || (← sees "<")) then
    let _ ← callSignature true
    pure none
  else
    ensure (!generator && !modifiers.any methodModifiers.contains)
    let type ← typeAnnotation? true
    pure (if computed then none else some ⟨name, optional, type, doc, line⟩)

def objectMember : Parser (Option PropertySyntax) := do
  if (← sees "(") || (← sees "<") then
    let _ ← callSignature true
    pure none
  else if ← seesWord "abstract" then
    keyword "abstract"
    keyword "new"
    let _ ← callSignature true
    pure none
  else
    let construct := do
      keyword "new"
      ensure ((← sees "(") || (← sees "<"))
      let _ ← callSignature true
    (do construct; pure none) <|> (do indexSignature; pure none) <|> namedMember

def objectType : Parser (List PropertySyntax) := do
  symbol "\x7b"
  if ← anySymbol? [",", ";"] then ensure !(← sees "\x7d")
  let members ← manyUntil (sees "\x7d") (do
    let member ← objectMember
    memberSeparator
    pure member)
  symbol "\x7d"
  pure (members.filterMap id)

/-! ## Types -/

/-- Names of types that take no arguments and no dots. -/
def basicTypes : List String :=
  ["any", "number", "boolean", "string", "symbol", "void", "unknown", "never", "object"]

/-- Words for single values that stand for their own types. -/
def valueWords : List String := ["true", "false", "null", "undefined"]

/-- The raw parts of a template after its opening mark, with the rule for what stands in braces. -/
def templateParts (inside : Parser Unit) : Nat → Parser Unit
  | 0 => failure
  | fuel + 1 => do
    match (← here).rest with
    | '\x60' :: _ => take 1
    | '\\' :: _ =>
      match Lexeme.escape? (← here).rest with
      | some length => do takeRaw length; templateParts inside fuel
      | none => failure
    | '$' :: '\x7b' :: _ => do
      take 2
      inside
      ensure (← sees "\x7d")
      takeRaw 1
      templateParts inside fuel
    | _ :: _ => do takeRaw 1; templateParts inside fuel
    | [] => failure

/-- A template with the rule for what stands in braces. -/
def template (inside : Parser Unit) : Parser Unit := do
  ensure (← sees "\x60")
  takeRaw 1
  templateParts inside ((← here).rest.length + 1)

def tupleMember : Parser Unit := do
  let _ ← symbol? "..."
  let named := do
    let _ ← word
    let _ ← symbol? "?"
    typeAnnotation false
  let plain := do
    let _ ← goal (.type false)
    let _ ← symbol? "?"
  (do let _ ← named) <|> plain

/-- A value whose type is asked for: a dotted name with calls and look-ups. -/
def queriedValue : Parser Unit := do
  let _ ← word
  if ← sees "(" then arguments
  let step := do
    if (← symbol? "?.") || (← symbol? ".") then
      let _ ← symbol? "#"
      let _ ← word
    else if ← sees "[" then
      symbol "["
      let literal := quotedString <|> lexeme Lexeme.number?
      let _ ← literal
      symbol "]"
    else failure
  let _ ← many step
  if ← sees "<" then
    let _ ← typeArguments

/-- The type of an imported module or of a member of it. -/
def importedType : Parser Unit := do
  keyword "import"
  arguments
  let _ ← many (do symbol "."; word)

def functionType (breaks : Bool) : Parser Unit := do
  typeParameters?
  let _ ← parameters
  symbol "=>"
  resultType breaks

def namedType (breaks : Bool) : Parser TypeSyntax := do
  let first ← word
  if basicTypes.contains first then pure (.name first)
  else if first == "unique" then
    keyword "symbol"
    pure (.name "uniquesymbol")
  else
    let more ← many (do symbol "."; word)
    let name := Text.joined "." (first :: more)
    if (← sees "<") && !(← brokenOff breaks) then .generic name <$> typeArguments
    else pure (.name name)

/-- A type without the brackets that may follow it. -/
def typeAtom (breaks : Bool) : Parser TypeSyntax := do
  let start ← here
  let kept (p : Parser Unit) : Parser TypeSyntax := do
    p
    .other <$> textFrom start
  let literal (p : Parser Unit) : Parser TypeSyntax := do
    p
    .literal <$> textFrom start
  let number := do let _ ← lexeme Lexeme.number?
  match start.rest with
  | '(' :: _ =>
    symbol "("
    let inner ← goal (.type false)
    symbol ")"
    pure (.wrapped inner)
  | '\x7b' :: _ => kept (do let _ ← objectType)
  | '[' :: _ => kept (do symbol "["; let _ ← listTo "]" tupleMember)
  | '\'' :: _ | '"' :: _ => literal (do let _ ← quotedString)
  | '\x60' :: _ => kept (template (do let _ ← goal (.type false)))
  | '-' :: _ | '+' :: _ => literal (do take 1; number)
  | '*' :: _ => kept (take 1)
  | '?' :: _ => kept (do take 1; let _ ← goal (.type breaks))
  | c :: more =>
    if c.isDigit || (c == '.' && (more.head?.map Char.isDigit).getD false) then literal number
    else
      match ← peekWord with
      | none => failure
      | some text =>
        if text == "this" then kept (keyword text)
        else if text == "typeof" then kept (do
          keyword text
          (do keyword "import"; importTail) <|> queriedValue)
        else if valueWords.contains text then do keyword text; pure (.name text)
        else namedType breaks
  | [] => failure
where
  importTail : Parser Unit := do
    arguments
    let _ ← many (do symbol "."; word)
    if ← sees "<" then
      let _ ← typeArguments

/-- The brackets that may follow a type: arrays and look-ups. -/
def typeBrackets (breaks : Bool) (start : Cursor) (type : TypeSyntax) : Nat → Parser TypeSyntax
  | 0 => pure type
  | fuel + 1 => do
    if (← sees "[") && !(← brokenOff breaks) then
      symbol "["
      if ← symbol? "]" then typeBrackets breaks start (.array type) fuel
      else
        let _ ← goal (.type false)
        symbol "]"
        let text ← textFrom start
        typeBrackets breaks start (.other text) fuel
    else pure type

def bracketedType (breaks : Bool) : Parser TypeSyntax := do
  let start ← here
  let type ← typeAtom breaks
  typeBrackets breaks start type start.rest.length

/-- A type that binds closer than the joining marks. -/
def typeOperand (breaks : Bool) : Parser TypeSyntax := do
  let start ← here
  let kept (p : Parser Unit) : Parser TypeSyntax := do
    p
    .other <$> textFrom start
  if (← sees "<") || (← sees "(") then
    kept (functionType breaks) <|> bracketedType breaks
  else
    match ← peekWord with
    | some "readonly" => do
      keyword "readonly"
      .wrapped <$> goal (.type breaks)
    | some "keyof" => kept (do
        keyword "keyof"
        keyOperand)
    | some "infer" => kept (do
        keyword "infer"
        let _ ← word
        if ← keyword? "extends" then
          let _ ← bracketedType breaks)
    | some "new" => kept (do
        keyword "new"
        functionType breaks)
    | some "abstract" => kept (do
        keyword "abstract"
        keyword "new"
        functionType breaks)
    | some "import" => kept importedType
    | _ => bracketedType breaks
where
  keyOperand : Parser Unit := do
    if ← keyword? "keyof" then
      let _ ← many (keyword "keyof")
    let _ ← bracketedType breaks

/-- Types joined by one mark, which nest to the left; a leading mark has one side. -/
def joinedTypes (mark : String) (node : List TypeSyntax → TypeSyntax) (item : Parser TypeSyntax) :
    Parser TypeSyntax := do
  let leading ← symbol? mark
  let first ← item
  let more ← many (do
    ensure ((← peekOperator) == some mark)
    symbol mark
    item)
  let start := if leading then node [first] else first
  pure (more.foldl (fun left right => node [left, right]) start)

/-- A type. Intersections bind closer than unions, and unions closer than conditions. -/
def typeRule (breaks : Bool) : Parser TypeSyntax := do
  let start ← here
  let type ← joinedTypes "|" .union (joinedTypes "&" .intersection (typeOperand breaks))
  if (← seesWord "extends") && !(← brokenOff breaks) then
    let condition : Parser TypeSyntax := do
      keyword "extends"
      let _ ← joinedTypes "|" .union (joinedTypes "&" .intersection (typeOperand false))
      symbol "?"
      let _ ← goal (.type breaks)
      symbol ":"
      let _ ← goal (.type breaks)
      .other <$> textFrom start
    condition <|> pure type
  else pure type

end DeclaredOptions.Source
