import DeclaredOptions.Proofs.Source.Outcome
import DeclaredOptions.Proofs.Source.Word
import DeclaredOptions.Source.Reading

/-!
Contract: the names of the declarations that a source text is read as.

Owns:
- names that are words, for functions and their parameters, interfaces and enums, whichever rule of the
  grammar reads them;
- the fact that only default exports are anonymous.

Does not own: the names of properties and enum members, of imports and of export clauses.
-/

set_option autoImplicit false

namespace DeclaredOptions.Source

open Source.Parser

/-! ## Names that are words -/

/-- A name that a parameter is bound to is a word. -/
def Binding.WellNamed : Binding → Prop
  | .name text => IsWord text.toList
  | _ => True

/-- If a function form has a name, it is a word, and its parameters are bound to words. -/
structure FunctionSyntax.WellNamed (form : FunctionSyntax) : Prop where
  name : ∀ name ∈ form.name, IsWord name.toList
  parameters : ∀ p ∈ form.parameters, p.binding.WellNamed

/-- A function that is kept of an expression is well named. -/
def ExpressionShape.WellNamed : ExpressionShape → Prop
  | .function form => form.WellNamed
  | _ => True

/-- If a declaration has a name, it is a word; only functions may lack one. -/
def DeclarationSyntax.WellNamed : DeclarationSyntax → Prop
  | .function form => form.WellNamed
  | .interface name .. => IsWord name.toList
  | .enumeration name .. => IsWord name.toList

def DeclarationSyntax.IsNamed : DeclarationSyntax → Prop
  | .function form => form.name.isSome
  | _ => True

/-- What a statement declares is well named, and anonymous only as a default export. -/
def Statement.WellNamed : Statement → Prop
  | .declaring _ kind declaration =>
    declaration.WellNamed ∧ (declaration.IsNamed ∨ kind = .asDefault)
  | _ => True

/-- Rules whose statements, expressions and patterns are well named. -/
structure Rules.WellNamed (rules : Rules) : Prop where
  statement : Gives rules (goal .statement) Statement.WellNamed
  expression : ∀ setting, Gives rules (goal (.expression setting)) ExpressionShape.WellNamed
  pattern : Gives rules (goal .pattern) Binding.WellNamed

variable {rules : Rules}

theorem gives_word : Gives rules word fun text => IsWord text.toList := by
  refine gives_mono (gives_lexeme Lexeme.word?) ?_
  rintro text ⟨rest, length, cut, rfl⟩
  rw [String.toList_ofList]
  exact Lexeme.word?_isWord cut

/-! ## Parameters -/

private theorem gives_bindingPattern : Gives rules bindingPattern Binding.WellNamed := by
  refine gives_bind_any fun isObject => gives_ite ?object ?other
  case object => exact gives_bind_any fun _ => gives_pure trivial
  case other =>
      refine gives_bind_any fun isArray => gives_ite ?array ?single
      case array => exact gives_bind_any fun _ => gives_pure trivial
      case single =>
          refine gives_bind gives_word fun text isWord => gives_bind_any fun more => ?_
          refine gives_ite (gives_pure trivial) (gives_ite (gives_pure trivial) ?_)
          exact gives_pure isWord

private theorem gives_parameter (sound : rules.WellNamed) :
    Gives rules parameter fun p => p.binding.WellNamed := by
  refine gives_bind_any fun _ => gives_bind_any fun _ => gives_bind_any fun rest => ?_
  refine gives_bind_any fun place => gives_bind sound.pattern fun binding named => ?_
  refine gives_bind_any fun isOptional => gives_bind_any fun type => ?_
  exact gives_bind_any fun initializer => gives_pure named

private theorem gives_parameters (sound : rules.WellNamed) :
    Gives rules parameters fun list => ∀ p ∈ list, p.binding.WellNamed :=
  gives_bind_any fun _ => gives_listTo (gives_parameter sound)

private theorem gives_callSignature (sound : rules.WellNamed) (breaks : Bool) :
    Gives rules (callSignature breaks) fun list => ∀ p ∈ list, p.binding.WellNamed :=
  gives_bind_any fun _ => gives_bind (gives_parameters sound) fun _ allNamed =>
    gives_bind_any fun _ => gives_pure allNamed

/-! ## Declarations -/

private def NamedByWord (declaration : DeclarationSyntax) : Prop :=
  declaration.WellNamed ∧ declaration.IsNamed

private theorem gives_functionDeclaration (sound : rules.WellNamed) :
    Gives rules functionDeclaration NamedByWord := by
  refine gives_bind_any fun start => gives_bind_any fun isAsync => gives_bind_any fun _ => ?_
  refine gives_bind_any fun isGenerator => gives_bind gives_word fun name isWord => ?_
  refine gives_bind (gives_callSignature sound true) fun parameters allNamed => ?_
  refine gives_bind_any fun hasBody => ?_
  have ending (u : Unit) : Gives rules
      (pure (.function ⟨some name, parameters, lineOf start⟩) : Parser DeclarationSyntax)
      NamedByWord :=
    gives_pure ⟨⟨by rintro _ ⟨⟩; exact isWord, allNamed⟩, rfl⟩
  dsimp only
  split
  · exact gives_bind_any ending
  · exact gives_bind_any ending

private theorem gives_interfaceDeclaration : Gives rules interfaceDeclaration NamedByWord := by
  refine gives_bind_any fun start => gives_bind_any fun _ => gives_bind gives_word fun name isWord => ?_
  refine gives_bind_any fun _ => gives_bind_any fun extends? => ?_
  have ending : Gives rules
      (do let properties ← objectType; pure (.interface name properties (lineOf start)))
      NamedByWord :=
    gives_bind_any fun properties => gives_pure ⟨isWord, trivial⟩
  dsimp only
  split
  · exact gives_bind_any fun _ => gives_bind_any fun _ => ending
  · exact ending

private theorem gives_enumDeclaration : Gives rules enumDeclaration NamedByWord := by
  refine gives_bind_any fun start => gives_bind_any fun isConst => gives_bind_any fun _ => ?_
  refine gives_bind gives_word fun name isWord => gives_bind_any fun _ => ?_
  exact gives_bind_any fun members => gives_pure ⟨isWord, trivial⟩

/-- What follows a word of export or of ambience is named by a word, if it is kept. -/
private theorem gives_declarationRule (sound : rules.WellNamed) :
    Gives rules declarationRule fun kept => ∀ declaration ∈ kept, NamedByWord declaration := by
  have keeps {p : Parser DeclarationSyntax} (one : Gives rules p NamedByWord) :
      Gives rules (some <$> p) fun kept => ∀ declaration ∈ kept, NamedByWord declaration :=
    gives_map (gives_mono one fun declaration holds other member => by
      rw [← Option.mem_some_iff.mp member]
      exact holds)
  have forgets (p : Parser Unit) : Gives rules (do p; pure none)
      fun (kept : Option DeclarationSyntax) => ∀ declaration ∈ kept, NamedByWord declaration :=
    gives_bind_any fun _ => gives_pure (by simp)
  refine gives_bind_any fun _ => gives_bind_any fun first => ?_
  dsimp only
  split
  · exact keeps (gives_functionDeclaration sound)
  · exact keeps (gives_functionDeclaration sound)
  · exact keeps gives_interfaceDeclaration
  · exact keeps gives_enumDeclaration
  · refine gives_bind_any fun isEnum => ?_
    split
    · exact keeps gives_enumDeclaration
    · exact forgets _
  case h_15 =>
      refine gives_bind_any fun decorated => ?_
      split
      · exact forgets _
      · exact gives_failure
  all_goals exact forgets _

/-! ## Expressions -/

private theorem gives_functionForm (sound : rules.WellNamed) (line : Nat) :
    Gives rules (functionForm line) FunctionSyntax.WellNamed := by
  have ending (name : Option String) (named : ∀ text ∈ name, IsWord text.toList) : Gives rules
      (do let parameters ← callSignature true
          pure (⟨name, parameters, line⟩ : FunctionSyntax)) FunctionSyntax.WellNamed :=
    gives_bind (gives_callSignature sound true) fun parameters allNamed =>
      gives_pure ⟨named, allNamed⟩
  refine gives_bind_any fun _ => gives_bind_any fun isGenerator => ?_
  refine gives_bind_any fun atList => gives_bind_any fun atTypes => ?_
  dsimp only
  split
  · exact ending none (by simp)
  · split
    · exact ending none (by simp)
    · refine gives_bind (gives_map (Q := fun name => ∀ text ∈ name, IsWord text.toList)
        (gives_mono gives_word ?_)) ending
      rintro name isWord _ ⟨⟩
      exact isWord

private theorem gives_functionExpression (sound : rules.WellNamed) :
    Gives rules functionExpression FunctionSyntax.WellNamed := by
  refine gives_bind_any fun start => gives_bind_any fun isAsync => ?_
  refine gives_bind (gives_functionForm sound _) fun form named => ?_
  exact gives_bind_any fun _ => gives_pure named

private def Operand.WellNamed (operand : Operand) : Prop := operand.shape.WellNamed

private theorem gives_creation (setting : Setting) (callee : Parser Operand) :
    Gives rules (creation setting callee) Operand.WellNamed := by
  have plain (_ : Unit) : Gives rules (pure .plain) Operand.WellNamed := gives_pure trivial
  have arguments (isCall : Bool) : Gives rules
      (if isCall then do arguments; pure Operand.plain else pure .plain) Operand.WellNamed :=
    gives_ite (gives_bind_any plain) (plain ())
  refine gives_bind_any fun _ => gives_bind_any fun hasDot => ?_
  dsimp only
  refine gives_ite (gives_bind_any fun _ => gives_pure trivial) ?_
  refine gives_bind_any fun _ => gives_bind_any fun _ => gives_bind_any fun isGeneric => ?_
  refine gives_ite (gives_bind_any fun _ => gives_bind_any arguments) ?_
  exact gives_bind_any arguments

private theorem gives_yielded (setting : Setting) :
    Gives rules (yielded setting) Operand.WellNamed := by
  refine gives_bind_any fun hasStar => gives_ite ?delegated ?plain
  case delegated => exact gives_bind_any fun _ => gives_pure trivial
  case plain =>
      refine gives_bind_any fun isBroken => gives_ite (gives_pure trivial) ?_
      exact gives_bind_any fun _ => gives_pure trivial

private theorem gives_wordExpression (sound : rules.WellNamed) (setting : Setting)
    (unary callee : Parser Operand) (text : String) :
    Gives rules (wordExpression setting unary callee text) Operand.WellNamed := by
  have function : Gives rules (do let form ← functionExpression
                                  pure (⟨.function form, false⟩ : Operand)) Operand.WellNamed :=
    gives_bind (gives_functionExpression sound) fun form named => gives_pure named
  refine gives_ite function ?_
  refine gives_ite (gives_bind_any fun _ => gives_pure trivial) ?_
  refine gives_ite (gives_creation setting callee) ?_
  refine gives_ite (gives_bind_any fun _ => gives_bind_any fun _ => gives_pure trivial) ?_
  refine gives_ite (gives_bind_any fun _ => gives_yielded setting) ?_
  refine gives_ite (gives_bind_any fun _ => gives_pure trivial) ?_
  refine gives_ite ?dynamic (gives_bind_any fun isFunction => gives_ite function ?name)
  case dynamic =>
      refine gives_bind_any fun _ => gives_bind_any fun hasDot => gives_ite ?_ ?_
      · exact gives_bind_any fun _ => gives_pure trivial
      · exact gives_bind_any fun _ => gives_bind_any fun _ => gives_pure trivial
  case name => exact gives_bind_any fun _ => gives_pure trivial

private theorem gives_primary (sound : rules.WellNamed) (setting : Setting)
    (unary callee : Parser Operand) :
    Gives rules (primary setting unary callee) Operand.WellNamed := by
  refine gives_bind_any fun cursor => ?_
  split
  case h_11 =>
      split
      · exact gives_bind_any fun _ => gives_pure trivial
      · refine gives_bind_any fun first => ?_
        split
        · exact gives_wordExpression sound setting unary callee _
        · exact gives_failure
  -- of every other form nothing is kept
  all_goals
    repeat' first
      | exact gives_pure trivial
      | exact gives_failure
      | refine gives_bind_any fun _ => ?_
      | split

private theorem gives_postfixStep (setting : Setting) (operand : Operand) :
    Gives rules (postfixStep setting operand) Operand.WellNamed := by
  refine gives_bind_any fun broken => gives_bind_any fun cursor => ?_
  split
  all_goals
    repeat' first
      | exact gives_pure trivial
      | exact gives_failure
      | refine gives_bind_any fun _ => ?_
      | split

private theorem gives_postfixed (setting : Setting) (fuel : Nat) :
    ∀ operand : Operand, operand.WellNamed →
      Gives rules (postfixed setting operand fuel) Operand.WellNamed := by
  induction fuel with
  | zero => exact fun operand named => gives_pure named
  | succ fuel inductionHypothesis =>
      intro operand named
      refine gives_bind (gives_attempt? (gives_postfixStep setting operand)) fun step stepNamed => ?_
      split
      · exact inductionHypothesis _ (stepNamed _ rfl)
      · exact gives_pure named

private theorem gives_arrow? (setting : Setting) :
    Gives rules (arrow? setting) fun found => ∀ operand ∈ found, operand.WellNamed := by
  have arrow : Gives rules (arrowFunction setting) Operand.WellNamed := by
    unfold arrowFunction
    repeat' first
      | exact gives_pure trivial
      | refine gives_bind_any fun _ => ?_
      | split
  have short : Gives rules (shortArrowFunction setting) Operand.WellNamed := by
    unfold shortArrowFunction
    repeat' first
      | exact gives_pure trivial
      | refine gives_bind_any fun _ => ?_
      | split
  have reads (isOpening : Bool) : Gives rules
      (if isOpening then attempt? (arrowFunction setting)
        else do
          let next ← peekWord
          if next.isSome then attempt? (shortArrowFunction setting) else pure none)
      fun found => ∀ operand ∈ found, operand.WellNamed := by
    split
    · exact gives_attempt? arrow
    · refine gives_bind_any fun next => ?_
      split
      · exact gives_attempt? short
      · exact gives_pure (by simp)
  refine gives_bind_any fun cursor => ?_
  dsimp only
  split <;> exact gives_bind_any reads

private theorem gives_unaryExpression (sound : rules.WellNamed) (setting : Setting) (fuel : Nat) :
    Gives rules (unaryExpression setting fuel) Operand.WellNamed := by
  induction fuel with
  | zero => exact gives_failure
  | succ fuel inductionHypothesis =>
      refine gives_bind_any fun cursor => ?_
      split
      case h_7 =>
          refine gives_bind (gives_arrow? setting) fun found allNamed => ?_
          split
          · exact gives_pure (allNamed _ rfl)
          · refine gives_bind (gives_primary sound setting _ _) fun first named => ?_
            exact gives_bind_any fun after => gives_postfixed setting _ first named
      all_goals exact gives_bind_any fun _ => gives_bind_any fun operand => gives_pure trivial

private theorem gives_operatorSteps (setting : Setting) (fuel : Nat) :
    ∀ operand : Operand, operand.WellNamed →
      Gives rules (operatorSteps setting operand fuel) Operand.WellNamed := by
  induction fuel with
  | zero => exact fun operand named => gives_pure named
  | succ fuel inductionHypothesis =>
      intro operand named
      have further (assignable : Bool) :
          Gives rules (operatorSteps setting ⟨.other, assignable⟩ fuel) Operand.WellNamed :=
        inductionHypothesis _ trivial
      unfold operatorSteps
      repeat' first
        | exact gives_pure named
        | exact gives_pure trivial
        | exact further _
        | refine gives_bind_any fun _ => ?_
        | split

private theorem gives_expressionRule (sound : rules.WellNamed) (setting : Setting) :
    Gives rules (expressionRule setting) ExpressionShape.WellNamed := by
  refine gives_bind_any fun start => ?_
  refine gives_bind (gives_unaryExpression sound setting _) fun operand named => ?_
  exact gives_bind (gives_operatorSteps setting _ operand named) fun whole wholeNamed =>
    gives_pure wholeNamed

/-! ## Statements -/

private theorem gives_other (p : Parser Unit) :
    Gives rules (do p; pure Statement.other) Statement.WellNamed :=
  gives_bind_any fun _ => gives_pure trivial

private theorem gives_declared (sound : rules.WellNamed) (doc : Option DocBlock)
    (kind : ExportKind) :
    Gives rules (do
      match ← declarationRule with
      | some declaration => pure (Statement.declaring doc kind declaration)
      | none => pure .other) Statement.WellNamed := by
  refine gives_bind (gives_declarationRule sound) fun kept allNamed => ?_
  split
  · have named := allNamed _ rfl
    exact gives_pure ⟨named.1, .inl named.2⟩
  · exact gives_pure trivial

private theorem exportedValue_wellNamed (doc : Option DocBlock) {shape : ExpressionShape}
    (named : shape.WellNamed) : (exportedValue doc shape).WellNamed := by
  cases shape with
  | name text => trivial
  | function form => exact ⟨named, .inr rfl⟩
  | other => trivial

private theorem gives_importStatement : Gives rules importStatement Statement.WellNamed := by
  refine gives_bind_any fun start => gives_bind_any fun _ => ?_
  dsimp only
  refine gives_orElse ?sideEffect (gives_orElse ?plain (gives_orElse ?typed
    (gives_orElse ?required ?aliased)))
  all_goals
    repeat' first
      | exact gives_pure trivial
      | refine gives_bind_any fun _ => ?_

private theorem gives_exportStatement (sound : rules.WellNamed) (doc : Option DocBlock) :
    Gives rules (exportStatement doc) Statement.WellNamed := by
  have value : Gives rules (do
      let shape ← goal (.expression .outer)
      semicolon true
      pure (exportedValue doc shape)) Statement.WellNamed :=
    gives_bind (sound.expression .outer) fun shape named =>
      gives_bind_any fun _ => gives_pure (exportedValue_wellNamed doc named)
  have listed (source : Parser Unit) : Gives rules (do
      let pairs ← clause
      let foreign ← attempt? source
      semicolon false
      pure (if foreign.isSome then Statement.other else .exportingNames pairs))
      Statement.WellNamed := by
    refine gives_bind_any fun pairs => gives_bind_any fun foreign => gives_bind_any fun _ => ?_
    split <;> exact gives_pure trivial
  have everything (source : Parser Unit) : Gives rules (do
      symbol "*"
      if ← keyword? "as" then
        let _ ← moduleName
      source
      semicolon false
      pure Statement.other) Statement.WellNamed := by
    refine gives_bind_any fun _ => gives_bind_any fun _ => ?_
    repeat' first
      | exact gives_pure trivial
      | refine gives_bind_any fun _ => ?_
      | split
  refine gives_bind_any fun _ => gives_bind_any fun _ => ?_
  dsimp only
  refine gives_bind_any fun seesStar => gives_ite (everything _) ?_
  refine gives_bind_any fun seesBrace => gives_ite (listed _) ?_
  refine gives_bind_any fun seesEquals => gives_ite (gives_bind_any fun _ => value) ?_
  refine gives_bind_any fun seesDefault => gives_ite ?byDefault ?_
  case byDefault => exact gives_bind_any fun _ => gives_orElse (gives_declared sound doc .asDefault) value
  refine gives_orElse ?typeNames (gives_orElse ?asNamespace (gives_declared sound doc .named))
  case typeNames =>
      exact gives_bind_any fun _ => gives_bind_any fun seesStar => gives_ite (everything _) (listed _)
  case asNamespace =>
      refine gives_bind_any fun _ => gives_bind_any fun _ => gives_bind_any fun _ => ?_
      exact gives_bind_any fun _ => gives_pure trivial

private theorem gives_statementRule (sound : rules.WellNamed) :
    Gives rules statementRule Statement.WellNamed := by
  have expression : Gives rules expressionStatement Statement.WellNamed :=
    gives_bind_any fun _ => gives_bind_any fun _ => gives_pure trivial
  have label : Gives rules labelled Statement.WellNamed :=
    gives_bind_any fun _ => gives_bind_any fun _ => gives_bind_any fun _ => gives_pure trivial
  have anyOther : Gives rules (labelled <|> expressionStatement) Statement.WellNamed :=
    gives_orElse label expression
  refine gives_bind_any fun start => ?_
  dsimp only
  refine gives_bind_any fun isBlock => gives_ite (gives_other _) ?_
  refine gives_bind_any fun isEmpty => gives_ite (gives_other _) ?_
  refine gives_bind_any fun isDecorated => gives_ite ?decorated (gives_bind_any fun next => ?_)
  case decorated =>
      exact gives_orElse (gives_exportStatement sound _) (gives_orElse (gives_other _) expression)
  split
  · exact expression
  · split
    · exact gives_other _
    · refine gives_ite (gives_bind_any fun isCall => gives_ite expression gives_importStatement) ?_
      refine gives_ite (gives_exportStatement sound _) ?_
      refine gives_ite (gives_declared sound _ _) ?_
      refine gives_ite (gives_orElse (gives_other _) anyOther) ?_
      exact gives_ite (gives_orElse (gives_declared sound _ _) anyOther) anyOther

/-! ## Whole sources -/

private theorem rules_wellNamed (markup : Bool) (depth : Nat) :
    Rules.WellNamed ⟨markup, solve markup depth⟩ := by
  induction depth with
  | zero =>
      have unsolved (goal : Goal) (P : goal.Result → Prop) :
          Gives ⟨markup, solve markup 0⟩ (Parser.goal goal) P := by
        intro cursor value next ran
        have impossible : none = some (value, next) := ran
        contradiction
      exact ⟨unsolved .statement _, fun setting => unsolved (.expression setting) _,
        unsolved .pattern _⟩
  | succ depth inductionHypothesis =>
      exact ⟨gives_statementRule inductionHypothesis,
        fun setting => gives_expressionRule inductionHypothesis setting, gives_bindingPattern⟩

/-- The statements that a source text is read as are well named. -/
theorem wellNamed_of_read {path text : String} {statements : List Statement}
    (ran : read path text = .ok statements) : ∀ statement ∈ statements, statement.WellNamed := by
  unfold read at ran
  split at ran
  · rename_i found solved
    rw [← Except.ok.inj ran]
    unfold statements? at solved
    rw [Option.map_eq_some_iff] at solved
    obtain ⟨⟨result, last⟩, outcome, rfl⟩ := solved
    have sound := rules_wellNamed (hasMarkup path) (4 * text.toList.length + 16)
    have whole : Gives _ program fun statements => ∀ statement ∈ statements, statement.WellNamed :=
      gives_bind_any fun _ => gives_bind_any fun _ => gives_manyUntil sound.statement
    exact whole _ _ _ outcome
  · contradiction

end DeclaredOptions.Source
