import DeclaredOptions.Source.StatementGrammar
import DeclaredOptions.Source.Fault

/-!
Contract: reading a source text as statements.

Owns:
- the choice of the grammar by the path, and the solution of all goals;
- the refusal of a text that does not read to its end, and its report where a tree of the text shows the fault.

Does not own: what the statements declare, and how a parser builds its tree of a text that does not read.
-/

namespace DeclaredOptions.Source

def rule : (goal : Goal) → Parser goal.Result
  | .type breaks => typeRule breaks
  | .expression setting => expressionRule setting
  | .pattern => bindingPattern
  | .statement => statementRule
  | .element => elementRule

/-- Solves a goal by rules whose own goals nest at most so deep. -/
def solve (markup : Bool) : Nat → (goal : Goal) → StateT Cursor Option goal.Result
  | 0, _ => failure
  | depth + 1, goal => (rule goal).run ⟨markup, solve markup depth⟩

def interpreterLine : Parser Unit := do
  if ← Parser.sees "#!" then
    let rest := (← Parser.here).rest
    Parser.take (rest.takeWhile (· != '\n')).length

def program : Parser (List Statement) := do
  Parser.skipGap
  interpreterLine
  Parser.manyUntil (do pure (← Parser.here).rest.isEmpty) (Parser.goal .statement)

def statements? (markup : Bool) (text : List Char) : Option (List Statement) :=
  let depth := 4 * text.length + 16
  ((program.run ⟨markup, solve markup depth⟩).run (Cursor.start text)).map (·.1)

/-- Whether a source may hold markup, which its suffix tells. -/
def hasMarkup (path : String) : Bool := path.endsWith ".tsx"

def read (path text : String) : Except Failure (List Statement) :=
  match statements? (hasMarkup path) text.toList with
  | some statements => .ok statements
  | none => .error (.unreadableSource path)

/-- The statements of the source at a path, of which a parser first gives a tree, whatever the text: a tree with a
fault refuses the text. -/
def readChecked (parser : Bool → String → SyntaxNode) (path text : String) : Except Failure (List Statement) := do
  (parser (hasMarkup path) text).check path text
  read path text

end DeclaredOptions.Source
