import DeclaredOptions.Source.Cursor
import DeclaredOptions.Source.Lexeme
import DeclaredOptions.Source.Tree

/-!
Contract: parsers over cursors, and how the rules of the grammar call each other.

Owns:
- the goals that rules recur on, with the result of each;
- parsers for single tokens, repetition, lists and choices;
- the end of a statement.

Does not own: the rules themselves.
-/

namespace DeclaredOptions.Source

/-- Where an expression stands: whether `in` would end it, whether a line break may, and whether an
arrow function in it may declare its result type. -/
structure Setting where
  noIn : Bool
  breaks : Bool
  noResultType : Bool

/-- An expression between brackets of any kind. -/
def Setting.inner : Setting := ⟨false, false, false⟩

/-- An expression that a line break may end. -/
def Setting.outer : Setting := ⟨false, true, false⟩

/-- What is kept of an expression. -/
inductive ExpressionShape where
  | name (text : String)
  | function (form : FunctionSyntax)
  | other

/-- The rules that other rules recur on. -/
inductive Goal where
  /-- A type; the flag tells whether a line break may end it. -/
  | type (breaks : Bool)
  /-- An expression without a top-level comma. -/
  | expression (setting : Setting)
  | pattern
  | statement
  /-- An element of markup, from its opening mark on. -/
  | element

abbrev Goal.Result : Goal → Type
  | .type _ => TypeSyntax
  | .expression _ => ExpressionShape
  | .pattern => Binding
  | .statement => Statement
  | .element => Unit

/-- What rules may use: how goals are solved, and whether the source holds markup. -/
structure Rules where
  markup : Bool
  solve : (goal : Goal) → StateT Cursor Option goal.Result

abbrev Parser (α : Type) := ReaderT Rules (StateT Cursor Option) α

namespace Parser

def goal (g : Goal) : Parser g.Result := fun rules => rules.solve g

def here : Parser Cursor := get

def ensure (condition : Bool) : Parser Unit := if condition then pure () else failure

def take (length : Nat) : Parser Unit := modify (·.afterToken length)

/-- Takes a token of the given length and stops right behind it. -/
def takeRaw (length : Nat) : Parser Unit := modify (·.afterRaw length)

/-- Looks for the next token after raw characters. -/
def skipGap : Parser Unit := modify fun cursor => cursor.skipGap cursor.rest.length

def lexeme (length? : List Char → Option Nat) : Parser String := do
  let cursor ← here
  match length? cursor.rest with
  | some length => do
    take length
    pure (String.ofList (cursor.rest.take length))
  | none => failure

def sees (text : String) : Parser Bool := do
  pure (Text.after? text.toList (← here).rest).isSome

def symbol (text : String) : Parser Unit := do
  ensure (← sees text)
  take text.length

def symbol? (text : String) : Parser Bool := do
  if ← sees text then do take text.length; pure true else pure false

/-- Takes any of the given characters, if one of them is there. -/
def anySymbol? : List String → Parser Bool
  | [] => pure false
  | text :: more => do if ← symbol? text then pure true else anySymbol? more

/-- The next word, which is not taken. -/
def peekWord : Parser (Option String) := do
  let rest := (← here).rest
  pure ((Lexeme.word? rest).map fun length => String.ofList (rest.take length))

def word : Parser String := lexeme Lexeme.word?

def seesWord (text : String) : Parser Bool := do pure ((← peekWord) == some text)

def seesAnyWord (texts : List String) : Parser Bool := do
  match ← peekWord with
  | some text => pure (texts.contains text)
  | none => pure false

def keyword (text : String) : Parser Unit := do
  ensure (← seesWord text)
  take text.length

def keyword? (text : String) : Parser Bool := do
  if ← seesWord text then do take text.length; pure true else pure false

def quotedString : Parser String := lexeme Lexeme.string?

def peekOperator : Parser (Option String) := do pure (Lexeme.operator? (← here).rest)

/-- Takes an equals sign that is no part of a longer operator. -/
def equals : Parser Unit := do
  ensure ((← peekOperator) == some "=")
  take 1

def equals? : Parser Bool := do
  if (← peekOperator) == some "=" then do take 1; pure true else pure false

/-- What a parser gives, or nothing and no step if it fails. -/
def attempt? {α : Type} (p : Parser α) : Parser (Option α) :=
  (some <$> p) <|> pure none

def wouldRead {α : Type} (p : Parser α) : Parser Bool := fun rules cursor =>
  some (((p.run rules).run cursor).isSome, cursor)

/-- The results of a parser run as long as it succeeds and moves on, at most `fuel` times. -/
def manyFuel {α : Type} (p : Parser α) : Nat → Parser (List α)
  | 0 => pure []
  | fuel + 1 => do
    let before := (← here).index
    match ← attempt? p with
    | none => pure []
    | some first =>
      if (← here).index == before then pure [first]
      else do
        let more ← manyFuel p fuel
        pure (first :: more)

/-- The results of a parser run as long as it succeeds. -/
def many {α : Type} (p : Parser α) : Parser (List α) := do
  manyFuel p ((← here).rest.length + 1)

/-- The results of a parser run until the end of a list is in sight; a failure before that fails. -/
def manyUntilFuel {α : Type} (atEnd : Parser Bool) (p : Parser α) : Nat → Parser (List α)
  | 0 => failure
  | fuel + 1 => do
    if ← atEnd then pure []
    else do
      let before := (← here).index
      let first ← p
      ensure ((← here).index != before)
      let more ← manyUntilFuel atEnd p fuel
      pure (first :: more)

/-- The results of a parser run until the end of a list is in sight. -/
def manyUntil {α : Type} (atEnd : Parser Bool) (p : Parser α) : Parser (List α) := do
  manyUntilFuel atEnd p ((← here).rest.length + 1)

/-- Items with commas between them up to a closing mark, which is taken; the last comma may be left
without an item. -/
def listTo {α : Type} (close : String) (item : Parser α) : Parser (List α) := do
  let items ← manyUntil (sees close) (do
    let first ← item
    unless ← sees close do symbol ","
    pure first)
  symbol close
  pure items

/-- Items that may be left out, with commas between them, up to a closing mark, which is taken. -/
def sparseListTo (close : String) (item : Parser Unit) : Parser Unit := do
  let _ ← manyUntil (sees close) (do
    if ← symbol? "," then pure ()
    else do
      item
      unless ← sees close do symbol ",")
  symbol close

/-- Takes the end of a statement: a semicolon, or nothing where none is needed. Comments on the line of
a statement that ends without one stay with it. -/
def semicolon (expression : Bool) : Parser Unit := do
  if ← symbol? ";" then pure ()
  else do
    ensure ((← here).endsStatement expression)
    modify Cursor.endStatement

/-- Whether a line break before the cursor ends what stands before it. -/
def brokenOff (breaks : Bool) : Parser Bool := do
  let cursor ← here
  pure (breaks && cursor.gap.lineBreak && Cursor.breakEnds cursor.rest)

def textFrom (start : Cursor) : Parser String := do pure (start.textTo (← here))

def lineOf (cursor : Cursor) : Nat := cursor.place.row + 1

def expressions (setting : Setting) : Parser ExpressionShape := do
  let first ← goal (.expression setting)
  let more ← many (do symbol ","; goal (.expression setting))
  pure (if more.isEmpty then first else .other)

def block : Parser Unit := do
  symbol "\x7b"
  let _ ← manyUntil (sees "\x7d") (goal .statement)
  symbol "\x7d"

end Parser

end DeclaredOptions.Source
