import DeclaredOptions.Project
import DeclaredOptions.Proofs.Step

/-!
Contract: why the steps of a project fail.

Owns:
- failures of sources, which cannot be read, or be taken in as they are;
- the forming of files, and the steps of a project, which fail with such failures only.

Does not own: what resolution makes of the types that a project gives it.
-/

set_option autoImplicit false

namespace DeclaredOptions

/-- Whether a failure is that of a source that cannot be read or taken in. -/
def Failure.isOfSource : Failure → Bool
  | .unreadableSource _ => true
  | .sourceFault _ _ _ _ => true
  | .duplicateSource _ => true
  | .cannotRead _ _ => true
  | .notUtf8 _ _ _ _ => true
  | _ => false

variable {path text : String} {first next used : Nat} {failure : Failure}

/-! ## Files -/

theorem Parameter.isOfSource_ofSyntaxAll {parameters : List Source.ParameterSyntax}
    (refused : ofSyntaxAll path parameters = .error failure) : failure.isOfSource = true := by
  induction parameters with
  | nil => contradiction
  | cons parameter rest inductionHypothesis =>
      unfold ofSyntaxAll at refused
      split at refused
      · exact inductionHypothesis refused
      · cases refused
        rfl
      · cases others : ofSyntaxAll path rest with
        | ok more =>
            rw [others] at refused
            contradiction
        | error other =>
            rw [others] at refused
            cases refused
            exact inductionHypothesis others

theorem Declaration.isOfSource_add {doc : Option DocBlock} {kind : ExportKind} {declared : List Declaration}
    {d : Source.DeclarationSyntax} (refused : add path next doc kind declared d = .error failure) :
    failure.isOfSource = true := by
  cases d with
  | function form =>
      unfold add at refused
      dsimp only at refused
      split at refused
      · contradiction
      · cases parameters : Parameter.ofSyntaxAll path form.parameters with
        | ok more =>
            rw [parameters] at refused
            contradiction
        | error other =>
            rw [parameters] at refused
            cases refused
            exact Parameter.isOfSource_ofSyntaxAll parameters
  | interface name properties line => contradiction
  | enumeration name isConst members line => contradiction

theorem Declaration.isOfSource_collectFrom {statements : List Source.Statement} {declared : List Declaration}
    (refused : collectFrom path first declared statements = .error (failure, used)) :
    failure.isOfSource = true := by
  induction statements generalizing declared with
  | nil => contradiction
  | cons statement rest inductionHypothesis =>
      cases statement with
      | declaring doc kind d =>
          unfold collectFrom at refused
          split at refused
          · exact inductionHypothesis refused
          · rename_i fails
            cases refused
            exact isOfSource_add fails
      | _ => exact inductionHypothesis refused

theorem SourceFile.isOfSource_ofText (refused : SourceFile.ofText path text first = .error (failure, used)) :
    failure.isOfSource = true := by
  unfold SourceFile.ofText at refused
  split at refused
  · rename_i statements _
    unfold SourceFile.ofStatements at refused
    cases collected : Declaration.collectFrom path first [] statements with
    | ok declared =>
        rw [collected] at refused
        contradiction
    | error failed =>
        rw [collected] at refused
        cases refused
        exact Declaration.isOfSource_collectFrom collected
  · rename_i unread
    cases refused
    unfold Source.read at unread
    split at unread
    · contradiction
    · cases unread
      rfl

theorem FileTree.isOfSource_text {tree : FileTree}
    (refused : tree.text path (.cannotRead path) = .error failure) : failure.isOfSource = true := by
  unfold FileTree.text at refused
  split at refused
  · unfold textOf at refused
    split at refused
    · contradiction
    · cases refused
      rfl
  · cases refused
    rfl

/-! ## Steps -/

namespace Project

open Step (FailsOnly failsOnly_pure failsOnly_throw failsOnly_bind failsOnly_get_bind failsOnly_set_bind
  failsOnly_map)

theorem failsOnly_add (path text : String) : FailsOnly (·.isOfSource = true) (add path text) := by
  refine failsOnly_get_bind fun project => ?_
  dsimp only
  split
  · exact failsOnly_throw rfl
  · split
    · exact failsOnly_set_bind failsOnly_pure
    · rename_i failure used refused
      apply failsOnly_set_bind
      exact failsOnly_throw (SourceFile.isOfSource_ofText refused)

theorem failsOnly_load (path : String) : FailsOnly (·.isOfSource = true) (load path) := by
  refine failsOnly_get_bind fun project => ?_
  split
  · exact failsOnly_pure
  · split
    · exact failsOnly_add _ _
    · rename_i failure unread
      exact failsOnly_throw (FileTree.isOfSource_text unread)

theorem failsOnly_module? (path specifier : String) :
    FailsOnly (·.isOfSource = true) (module? path specifier) := by
  unfold module?
  split
  · exact failsOnly_pure
  · refine failsOnly_get_bind fun project => ?_
    dsimp only
    split
    · exact failsOnly_pure
    · split
      · split
        · exact failsOnly_map (failsOnly_load _)
        · exact failsOnly_pure
      · exact failsOnly_pure

theorem failsOnly_throughImport (path name : String) (clause : Import) :
    FailsOnly (·.isOfSource = true) (throughImport path name clause) := by
  unfold throughImport
  extract_lets continued
  have rest (target? : Option SourceFile) : FailsOnly (·.isOfSource = true) (continued target?) := by
    simp only [continued]
    split
    · exact failsOnly_pure
    · split
      · exact failsOnly_pure
      · refine failsOnly_bind (failsOnly_module? _ _) fun target? => ?_
        cases target? with
        | none => exact failsOnly_pure
        | some target => exact failsOnly_pure
  split
  · exact failsOnly_bind (failsOnly_module? _ _) rest
  · exact failsOnly_bind failsOnly_pure rest

theorem failsOnly_type? (file : SourceFile) (name : String) :
    FailsOnly (·.isOfSource = true) (type? file name) := by
  have imports (clauses : List Import) :
      FailsOnly (·.isOfSource = true) (throughImports file.path name clauses) := by
    induction clauses with
    | nil => exact failsOnly_pure
    | cons clause rest inductionHypothesis =>
        refine failsOnly_bind (failsOnly_throughImport _ _ _) fun found => ?_
        cases found with
        | none => exact inductionHypothesis
        | some d => exact failsOnly_pure
  unfold type?
  split
  · exact failsOnly_pure
  · exact imports _

end Project

end DeclaredOptions
