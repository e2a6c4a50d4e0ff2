import DeclaredOptions.Proofs.Declaration.Numbering

/-!
Contract: the declarations of a text in the order in which they first appear, and the numbers they take.

Owns:
- headings, which are what a text says of a declaration where it first appears;
- a file's declarations, one for each heading that is no later form of a function;
- the numbers that a text takes, also where it is refused.

Does not own: the numbers of other files.
-/

set_option autoImplicit false

namespace DeclaredOptions

open Source

/-! ## Headings -/

/-- What is declared, and its name. -/
abbrev Heading := String × Option String

def Declaration.heading (d : Declaration) : Heading := (d.kind, d.name)

def Source.DeclarationSyntax.heading : DeclarationSyntax → Heading
  | .function form => ("function", form.name)
  | .interface name _ _ => ("interface", some name)
  | .enumeration name _ _ _ => ("enum", some name)

def Source.Statement.heading? : Statement → Option Heading
  | .declaring _ _ form => some form.heading
  | _ => none

/-- A heading is a later form of an earlier one if both are of functions of one name. -/
def Heading.isLaterForm (later earlier : Heading) : Bool :=
  later.1 == "function" && later.2.isSome && later == earlier

/-- The headings in statements, later forms of functions left out. -/
def headings (statements : List Statement) : List Heading :=
  (statements.filterMap (·.heading?)).eraseDupsBy Heading.isLaterForm

namespace Declaration

variable {path : String} {first : Nat} {declared : List Declaration}

theorem heading_absorb (d : Declaration) (doc : Option DocBlock) (kind : ExportKind) :
    (d.absorb doc kind).heading = d.heading := rfl

theorem heading_withExports (default? : Option String) (pairs : List (String × String))
    (d : Declaration) : (d.withExports default? pairs).heading = d.heading := by
  obtain ⟨kind, name, equal⟩ := withExports_eq default? pairs d
  rw [equal]
  rfl

theorem kind_eq_function_iff {d : Declaration} : d.kind = "function" ↔ d.isFunction := by
  unfold kind isFunction
  cases d.body <;> simp

/-- A later form is absorbed exactly if its heading is one of a later form. -/
theorem isSome_absorbInto?_iff {name : String} {doc : Option DocBlock} {kind : ExportKind} :
    (absorbInto? name doc kind declared).isSome ↔
      (declared.map heading).any (Heading.isLaterForm ("function", some name)) := by
  induction declared with
  | nil => simp [absorbInto?]
  | cons d rest inductionHypothesis =>
      have sameHeading : Heading.isLaterForm ("function", some name) d.heading =
          (d.isFunction && d.name == some name) := by
        rw [Bool.eq_iff_iff, Bool.and_eq_true, ← kind_eq_function_iff, beq_iff_eq]
        simp only [Heading.isLaterForm, beq_self_eq_true, Option.isSome_some, Bool.and_self,
          Bool.true_and, beq_iff_eq, heading, Prod.mk.injEq]
        exact and_congr eq_comm eq_comm
      unfold absorbInto?
      rw [List.map_cons, List.any_cons, sameHeading]
      split
      · rename_i isFirst
        simp [isFirst]
      · rename_i notFirst
        simpa [notFirst] using inductionHypothesis

/-- One more declaration adds its heading, unless it is a later form. -/
theorem heading_add {doc : Option DocBlock} {kind : ExportKind} {form : DeclarationSyntax} {next : Nat}
    {result : List Declaration} (added : add path next doc kind declared form = .ok result) :
    result.map heading =
      if (declared.map heading).any (Heading.isLaterForm form.heading) then declared.map heading
      else declared.map heading ++ [form.heading] := by
  cases form with
  | interface name properties line =>
      have noFunction : (declared.map heading).any
          (Heading.isLaterForm ("interface", some name)) = false := by
        simp [Heading.isLaterForm]
      rw [← Except.ok.inj added, DeclarationSyntax.heading, noFunction, List.map_append]
      rfl
  | enumeration name isConst members line =>
      have noFunction : (declared.map heading).any
          (Heading.isLaterForm ("enum", some name)) = false := by
        simp [Heading.isLaterForm]
      rw [← Except.ok.inj added, DeclarationSyntax.heading, noFunction, List.map_append]
      rfl
  | function form =>
      simp only [add] at added
      split at added
      · rename_i merged absorbed
        obtain ⟨name, isNamed, absorbedName⟩ := Option.bind_eq_some_iff.mp absorbed
        have isLater := isSome_absorbInto?_iff.mp (Option.isSome_of_eq_some absorbedName)
        rw [DeclarationSyntax.heading, isNamed, if_pos isLater, ← Except.ok.inj added]
        obtain ⟨before, d, after, rfl, rfl, -, -, -⟩ := absorbInto?_eq_some absorbedName
        simp [heading_absorb]
      · rename_i notAbsorbed
        have notLater : ¬(declared.map heading).any
            (Heading.isLaterForm ("function", form.name)) = true := by
          cases isNamed : form.name with
          | none => simp [Heading.isLaterForm]
          | some name =>
              rw [isNamed, Option.bind_some] at notAbsorbed
              rw [← @isSome_absorbInto?_iff declared name doc kind, notAbsorbed]
              exact Bool.false_ne_true
        cases read : Parameter.ofSyntaxAll path form.parameters with
        | error failure =>
            rw [read] at added
            contradiction
        | ok parameters =>
            rw [read] at added
            rw [DeclarationSyntax.heading, if_neg notLater, ← Except.ok.inj added, List.map_append]
            rfl

/-- Collecting keeps the headings in order, and leaves out those of later forms. -/
theorem heading_collectFrom {statements : List Statement} {collected : List Declaration}
    (ran : collectFrom path first declared statements = .ok collected) :
    collected.map heading =
      List.eraseDupsBy.loop Heading.isLaterForm (statements.filterMap (·.heading?))
        (declared.map heading).reverse := by
  induction statements generalizing declared with
  | nil =>
      rw [← Except.ok.inj ran]
      exact (List.reverse_reverse _).symm
  | cons statement rest inductionHypothesis =>
      cases statement with
      | declaring doc kind form =>
          unfold collectFrom at ran
          split at ran
          · rename_i next added
            have opened : (Statement.declaring doc kind form :: rest).filterMap (·.heading?) =
                form.heading :: rest.filterMap (·.heading?) := rfl
            rw [inductionHypothesis ran, heading_add added, opened, List.eraseDupsBy.loop,
              List.any_reverse]
            cases (declared.map heading).any (Heading.isLaterForm form.heading) with
            | true => rfl
            | false =>
                rw [if_neg Bool.false_ne_true, List.reverse_append]
                rfl
          · contradiction
      | _ => exact inductionHypothesis ran

end Declaration

/-! ## Files -/

namespace SourceFile

variable {path text : String} {first : Nat}

/-- The declarations of a file are those of its text, in order of their first appearance. -/
theorem headings_ofText {file : SourceFile} (formed : ofText path text first = .ok file) :
    ∃ statements, Source.read path text = .ok statements ∧
      file.declarations.map (·.heading) = headings statements := by
  unfold ofText at formed
  split at formed
  · rename_i statements ran
    refine ⟨statements, ran, ?_⟩
    unfold ofStatements at formed
    cases collected : Declaration.collectFrom path first [] statements with
    | error failure =>
        rw [collected] at formed
        contradiction
    | ok declared =>
        rw [collected] at formed
        rw [← Except.ok.inj formed, List.map_map]
        have kept : Declaration.heading ∘ Declaration.withExports
            (Declaration.defaultName? statements) (Declaration.namedPairs statements) =
            Declaration.heading := funext fun d => Declaration.heading_withExports _ _ d
        rw [kept]
        exact Declaration.heading_collectFrom collected
  · contradiction

/-- The numbers that the declarations of a text take, up to its end or its first refused statement. -/
def numbersOf (path text : String) (first : Nat) : List Nat :=
  match Source.read path text with
  | .ok statements => (Declaration.made path first [] statements).map (·.id)
  | .error _ => []

theorem numbersOf_of_read {statements : List Statement}
    (ran : Source.read path text = .ok statements) :
    numbersOf path text first = (Declaration.made path first [] statements).map (·.id) := by
  unfold numbersOf
  rw [ran]

theorem numbersOf_of_error {failure : Failure} (failed : Source.read path text = .error failure) :
    numbersOf path text first = [] := by
  unfold numbersOf
  rw [failed]

theorem numbersOf_eq (path text : String) (first : Nat) :
    numbersOf path text first = List.range' first (numbersOf path text first).length := by
  cases ran : Source.read path text with
  | ok statements =>
      have none : Declaration.Numbered path first [] := ⟨rfl, by simp, by simp⟩
      have numbered := Declaration.numbered_made (wellNamed_of_read ran) none
      rw [numbersOf_of_read ran, List.length_map]
      exact numbered.ids
  | error failure =>
      rw [numbersOf_of_error ran]
      rfl

/-- A file holds the numbers that its text takes. -/
theorem numbersOf_ofText {file : SourceFile} (formed : ofText path text first = .ok file) :
    file.declarations.map (·.id) = numbersOf path text first := by
  unfold ofText at formed
  split at formed
  · rename_i statements ran
    rw [numbersOf_of_read ran]
    unfold ofStatements at formed
    rcases Declaration.collectFrom_eq_or statements with collected | ⟨failure, refused⟩
    · rw [collected] at formed
      rw [← Except.ok.inj formed, List.map_map]
      exact List.map_congr_left fun d _ => Declaration.withExports_id _ _ d
    · rw [refused] at formed
      contradiction
  · contradiction

/-- A refused text counts the numbers that it takes. -/
theorem length_numbersOf_of_error {failure : Failure} {used : Nat}
    (refused : ofText path text first = .error (failure, used)) :
    used = (numbersOf path text first).length := by
  unfold ofText at refused
  split at refused
  · rename_i statements ran
    rw [numbersOf_of_read ran]
    unfold ofStatements at refused
    rcases Declaration.collectFrom_eq_or statements with collected | ⟨_, counted⟩
    · rw [collected] at refused
      contradiction
    · rw [counted] at refused
      cases refused
      exact (List.length_map ..).symm
  · rename_i failed ran
    cases refused
    rw [numbersOf_of_error ran]
    rfl

end SourceFile

end DeclaredOptions
