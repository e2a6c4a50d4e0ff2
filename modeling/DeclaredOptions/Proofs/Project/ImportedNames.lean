import DeclaredOptions.Proofs.Project.History

/-!
Contract: what a name means in a file that does not declare it.

Owns:
- the import that binds a local name first, and the name it is taken from there;
- the look-up through one import and through all of them, taken apart;
- the declarations that look-up brings in: exported ones of the file that the import leads to.

Does not own: what references are made of them.

## Which import counts

Look-up goes on to the next import in two cases only: the name is not bound, or it is the default name of a module
that is not found. Both leave the project as it was, so that the import that answers is asked in the project that
the look-up began in.
-/

set_option autoImplicit false

namespace DeclaredOptions

open Project

/-- The name that an import takes a local name from; the default part takes it from `default`. -/
def Import.binds? (clause : Import) (name : String) : Option String :=
  if clause.defaultName = some name then some "default"
  else (clause.named.find? fun pair => pair.2 == name).map (·.1)

/-- The first import of a file that binds a local name, and the name it takes it from. -/
def SourceFile.import? (file : SourceFile) (name : String) : Option (Import × String) :=
  file.imports.findSome? fun clause => (clause.binds? name).map (clause, ·)

namespace Project

variable {start final : Project} {path name exported : String} {clause : Import}

/-! ## One import -/

/-- A look-up through one import finds no binding, or it asks for the module of the import. Where the module is
not found, only a default name is passed over. -/
theorem throughImport_cases {outcome : Option (Option Declaration)}
    (ends : Step.Ends (throughImport path name clause) start (.ok outcome) final) :
    (clause.binds? name = none ∧ outcome = none ∧ final = start) ∨
    ∃ exported, clause.binds? name = some exported ∧
      ((∃ target, Step.Ends (module? path clause.module) start (.ok (some target)) final ∧
          outcome = some (importedPart? exported target)) ∨
        (Step.Ends (module? path clause.module) start (.ok none) final ∧ final = start ∧
          (outcome = some none ∨ (outcome = none ∧ clause.defaultName = some name)))) := by
  unfold throughImport at ends
  extract_lets continued at ends
  unfold Import.binds?
  by_cases isDefault : clause.defaultName = some name
  · rw [if_pos (by simp [isDefault])] at ends
    obtain ⟨found, middle, looked, rest⟩ := Step.ends_bind_ok.mp ends
    right
    refine ⟨"default", by rw [if_pos isDefault], ?_⟩
    cases found with
    | some target =>
        obtain ⟨same, rfl⟩ := Step.ends_pure.mp rest
        exact .inl ⟨target, looked, Except.ok.inj same⟩
    | none =>
        obtain rfl := (attempt_module? looked).2 rfl
        right
        simp only [continued] at rest
        split at rest
        · obtain ⟨same, rfl⟩ := Step.ends_pure.mp rest
          exact ⟨looked, rfl, .inr ⟨Except.ok.inj same, isDefault⟩⟩
        · obtain ⟨again, last, lookedAgain, ending⟩ := Step.ends_bind_ok.mp rest
          obtain ⟨same, rfl⟩ := Step.ends_unique looked lookedAgain
          cases same
          obtain ⟨same, rfl⟩ := Step.ends_pure.mp ending
          exact ⟨looked, rfl, .inl (Except.ok.inj same)⟩
  · rw [if_neg (by simp [isDefault])] at ends
    rw [if_neg isDefault]
    have rest : Step.Ends (continued none) start (.ok outcome) final := ends
    simp only [continued] at rest
    split at rest
    · rename_i notNamed
      obtain ⟨same, rfl⟩ := Step.ends_pure.mp rest
      exact .inl ⟨by rw [notNamed]; rfl, Except.ok.inj same, rfl⟩
    · rename_i imported _ isNamed
      right
      refine ⟨imported, by rw [isNamed]; rfl, ?_⟩
      obtain ⟨found, last, looked, ending⟩ := Step.ends_bind_ok.mp rest
      cases found with
      | some target =>
          obtain ⟨same, rfl⟩ := Step.ends_pure.mp ending
          exact .inl ⟨target, looked, Except.ok.inj same⟩
      | none =>
          obtain ⟨same, rfl⟩ := Step.ends_pure.mp ending
          exact .inr ⟨looked, (attempt_module? looked).2 rfl, .inl (Except.ok.inj same)⟩

/-! ## Imports in a row -/

/-- What a look-up brings in comes through an import that binds the name, from the file of its module. -/
theorem throughImports_cases {clauses : List Import} {d : Declaration}
    (ends : Step.Ends (throughImports path name clauses) start (.ok (some d)) final) :
    ∃ clause ∈ clauses, ∃ exported target, clause.binds? name = some exported ∧
      Step.Ends (module? path clause.module) start (.ok (some target)) final ∧
      importedPart? exported target = some d := by
  induction clauses with
  | nil => exact nomatch (Step.ends_pure.mp ends).1
  | cons clause rest inductionHypothesis =>
      obtain ⟨outcome, middle, first, others⟩ := Step.ends_bind_ok.mp ends
      have goesOn (isNone : outcome = none) (unchanged : middle = start) :
          ∃ later ∈ clause :: rest, ∃ exported target, later.binds? name = some exported ∧
            Step.Ends (module? path later.module) start (.ok (some target)) final ∧
            importedPart? exported target = some d := by
        subst isNone unchanged
        obtain ⟨later, member, found⟩ := inductionHypothesis others
        exact ⟨later, List.mem_cons_of_mem _ member, found⟩
      rcases throughImport_cases first with ⟨-, isNone, unchanged⟩ |
        ⟨exported, binds, ⟨target, looked, found⟩ | ⟨-, unchanged, nothing | ⟨isNone, -⟩⟩⟩
      · exact goesOn isNone unchanged
      · subst found
        obtain ⟨same, rfl⟩ := Step.ends_pure.mp others
        exact ⟨clause, List.mem_cons_self, exported, target, binds, looked, (Except.ok.inj same).symm⟩
      · subst nothing
        exact nomatch (Step.ends_pure.mp others).1
      · exact goesOn isNone unchanged

/-- The first import that binds a name is the one that answers, unless it does so by a default name whose module
is not found. -/
theorem throughImports_of_first {clauses : List Import} {d : Declaration}
    (first : (clauses.findSome? fun clause => (clause.binds? name).map (clause, ·)) =
      some (clause, exported))
    (answers : clause.defaultName = some name →
      ∃ target next, Step.Ends (module? path clause.module) start (.ok (some target)) next)
    (ends : Step.Ends (throughImports path name clauses) start (.ok (some d)) final) :
    ∃ target, Step.Ends (module? path clause.module) start (.ok (some target)) final ∧
      importedPart? exported target = some d := by
  induction clauses with
  | nil => contradiction
  | cons head rest inductionHypothesis =>
      obtain ⟨outcome, middle, asked, others⟩ := Step.ends_bind_ok.mp ends
      rw [List.findSome?_cons] at first
      rcases throughImport_cases asked with ⟨unbound, isNone, unchanged⟩ | ⟨taken, binds, asksModule⟩
      · subst isNone unchanged
        rw [unbound] at first
        exact inductionHypothesis first others
      · rw [binds] at first
        cases first
        rcases asksModule with ⟨target, looked, found⟩ | ⟨missing, unchanged, nothing | ⟨-, isDefault⟩⟩
        · subst found
          obtain ⟨same, rfl⟩ := Step.ends_pure.mp others
          exact ⟨target, looked, (Except.ok.inj same).symm⟩
        · subst nothing
          exact nomatch (Step.ends_pure.mp others).1
        · obtain ⟨target, next, looked⟩ := answers isDefault
          exact nomatch (Step.ends_unique missing looked).1

theorem ends_throughImports_of_type? {file : SourceFile} {outcome : Except Failure (Option Declaration)}
    (foreign : file.type? name = none) (ends : Step.Ends (type? file name) start outcome final) :
    Step.Ends (throughImports file.path name file.imports) start outcome final := by
  unfold type? at ends
  rw [foreign] at ends
  exact ends

/-! ## Declarations that come in -/

/-- An import brings in a declaration as its file exports it: the default one, or one that is exported under the
name that the import asks for. -/
theorem exported_of_importedPart? {target : SourceFile} {d : Declaration}
    (found : importedPart? exported target = some d) :
    d.exportKind ≠ .none ∧ (exported = "default" → d.exportKind = .asDefault) ∧
      (exported ≠ "default" → d.exportedName = some exported) := by
  unfold importedPart? at found
  split at found
  · rename_i isDefault
    have kind : d.exportKind = .asDefault := by simpa using List.find?_some found
    simp [kind, beq_iff_eq.mp isDefault]
  · rename_i notDefault
    have holds := List.find?_some found
    rw [Bool.and_eq_true, beq_iff_eq, bne_iff_ne] at holds
    refine ⟨holds.2, fun isDefault => ?_, fun _ => holds.1⟩
    simp [isDefault] at notDefault

/-- The file that a specifier leads to is one of the project after the look-up, and holds its own declarations. -/
theorem target_of_module? (reachable : start.Reachable) {specifier : String} {target : SourceFile}
    (looked : Step.Ends (module? path specifier) start (.ok (some target)) final) :
    target ∈ final.files ∧ ∀ d ∈ target.declarations, d.source = some target.path := by
  obtain ⟨led, registered⟩ := @keeps_module? (fun _ => True) path specifier _ _ _ trivial looked
  have isFile := registered _ rfl target rfl
  exact ⟨isFile, (reachable.leads led).sound.sources target isFile⟩

end Project

end DeclaredOptions
