import DeclaredOptions.Declaration.Collection
import DeclaredOptions.Proofs.Source.Naming

/-!
Contract: the declarations that the statements of a file form.

Owns:
- their numbers, which follow one another from the first on, and their source;
- their names and those of their parameters, which are words, and the fact that only default exports are
  anonymous;
- what merging and exports that stand apart leave unchanged.

Does not own: properties, enum members and documentation.
-/

set_option autoImplicit false

namespace DeclaredOptions

open Source

namespace Declaration

/-- If a declaration has a name, it is a word; only functions that are default exports may lack one. The
names of parameters are words. -/
structure WellNamed (d : Declaration) : Prop where
  word : ∀ name ∈ d.name, IsWord name.toList
  named : d.name.isSome ∨ (d.isFunction ∧ d.exportKind = .asDefault)
  parameters : ∀ p ∈ d.parameters, IsWord p.name.toList

theorem isFunction_of_isEnum {d : Declaration} (isEnum : d.isEnum) : d.isFunction = false := by
  cases body : d.body with
  | enumeration isConst members => simp [isFunction, body]
  | _ => simp [Declaration.isEnum, body] at isEnum

/-- An enum has a name, and it is a word. -/
theorem WellNamed.enum {d : Declaration} (named : d.WellNamed) (isEnum : d.isEnum) :
    ∃ name, d.name = some name ∧ IsWord name.toList := by
  rcases named.named with isNamed | ⟨isFunction, -⟩
  · obtain ⟨name, nameEq⟩ := Option.isSome_iff_exists.mp isNamed
    exact ⟨name, nameEq, named.word name nameEq⟩
  · rw [isFunction_of_isEnum isEnum] at isFunction
    contradiction

/-- The name of a well named declaration is bound as it is. -/
theorem WellNamed.bindingName_eq {d : Declaration} (wellNamed : d.WellNamed) {name : String}
    (named : d.name = some name) : d.bindingName = name := by
  have notEmpty : name.isEmpty = false := by
    have nonempty := (wellNamed.word name named).nonempty
    simpa [String.isEmpty_iff, ← String.toList_eq_nil_iff] using nonempty
  simp [bindingName, present, named, Option.filter, notEmpty]

/-- The declarations of a file so far: numbered in a row from a first number on, all of one source, and
well named. -/
structure Numbered (path : String) (first : Nat) (declared : List Declaration) : Prop where
  ids : declared.map (·.id) = List.range' first declared.length
  source : ∀ d ∈ declared, d.source = some path
  wellNamed : ∀ d ∈ declared, d.WellNamed

variable {path : String} {first : Nat} {declared : List Declaration}

/-! ## New declarations -/

/-- The parameters that a file keeps are named as they are written. -/
private theorem word_ofSyntaxAll {list : List ParameterSyntax} {parameters : List Parameter}
    (allNamed : ∀ p ∈ list, p.binding.WellNamed)
    (read : Parameter.ofSyntaxAll path list = .ok parameters) :
    ∀ p ∈ parameters, IsWord p.name.toList := by
  induction list generalizing parameters with
  | nil =>
      rw [← Except.ok.inj read]
      simp
  | cons p rest inductionHypothesis =>
      obtain ⟨named, namedRest⟩ := List.forall_mem_cons.mp allNamed
      unfold Parameter.ofSyntaxAll at read
      split at read
      · exact inductionHypothesis namedRest read
      · contradiction
      · rename_i text isName
        rw [isName] at named
        cases readRest : Parameter.ofSyntaxAll path rest with
        | error failure =>
            rw [readRest] at read
            contradiction
        | ok more =>
            rw [readRest] at read
            rw [← Except.ok.inj read]
            exact List.forall_mem_cons.mpr ⟨named, inductionHypothesis namedRest readRest⟩

private theorem numbered_append (numbered : Numbered path first declared) {d : Declaration}
    (id : d.id = first + declared.length) (source : d.source = some path) (named : d.WellNamed) :
    Numbered path first (declared ++ [d]) where
  ids := by
    rw [List.map_append, numbered.ids, List.length_append, List.length_singleton,
      List.range'_concat]
    simp [id]
  source := by
    intro e member
    rcases List.mem_append.mp member with earlier | last
    · exact numbered.source e earlier
    · rw [List.mem_singleton.mp last]
      exact source
  wellNamed := by
    intro e member
    rcases List.mem_append.mp member with earlier | last
    · exact numbered.wellNamed e earlier
    · rw [List.mem_singleton.mp last]
      exact named

/-! ## Later forms of a function -/

/-- A later form is absorbed by the first function of its name, and all other declarations stay. -/
theorem absorbInto?_eq_some {name : String} {doc : Option DocBlock} {kind : ExportKind}
    {merged : List Declaration} (absorbed : absorbInto? name doc kind declared = some merged) :
    ∃ before d after, declared = before ++ d :: after ∧ merged = before ++ d.absorb doc kind :: after ∧
      d.isFunction ∧ d.name = some name ∧
      ∀ e ∈ before, ¬(e.isFunction ∧ e.name = some name) := by
  induction declared generalizing merged with
  | nil => contradiction
  | cons head rest inductionHypothesis =>
      unfold absorbInto? at absorbed
      split at absorbed
      · rename_i isFirst
        simp only [Bool.and_eq_true, beq_iff_eq] at isFirst
        refine ⟨[], head, rest, rfl, (Option.some.inj absorbed).symm, isFirst.1, isFirst.2, ?_⟩
        simp
      · rename_i notFirst
        rw [Option.map_eq_some_iff] at absorbed
        obtain ⟨mergedRest, absorbedRest, rfl⟩ := absorbed
        obtain ⟨before, d, after, rfl, rfl, isFunction, named, noneBefore⟩ :=
          inductionHypothesis absorbedRest
        refine ⟨head :: before, d, after, rfl, rfl, isFunction, named, ?_⟩
        refine List.forall_mem_cons.mpr ⟨?_, noneBefore⟩
        simpa using notFirst

private theorem wellNamed_absorb {d : Declaration} (named : d.WellNamed) (hasName : d.name.isSome)
    (doc : Option DocBlock) (kind : ExportKind) : (d.absorb doc kind).WellNamed :=
  ⟨named.word, .inl hasName, named.parameters⟩

private theorem numbered_absorbInto? (numbered : Numbered path first declared) {name : String}
    {doc : Option DocBlock} {kind : ExportKind} {merged : List Declaration}
    (absorbed : absorbInto? name doc kind declared = some merged) :
    Numbered path first merged := by
  obtain ⟨before, d, after, rfl, rfl, -, named, -⟩ := absorbInto?_eq_some absorbed
  obtain ⟨ids, source, wellNamed⟩ := numbered
  rw [List.forall_mem_append, List.forall_mem_cons] at source wellNamed
  refine ⟨?_, ?_, ?_⟩
  · simpa [absorb] using ids
  · rw [List.forall_mem_append, List.forall_mem_cons]
    exact source
  · rw [List.forall_mem_append, List.forall_mem_cons]
    have hasName : d.name.isSome := by simp [named]
    exact ⟨wellNamed.1, wellNamed_absorb wellNamed.2.1 hasName doc kind, wellNamed.2.2⟩

/-! ## Statements -/

/-- One more declaration of a file keeps the numbering, whether it is new or a later form. -/
theorem numbered_add (numbered : Numbered path first declared) {doc : Option DocBlock}
    {kind : ExportKind} {form : DeclarationSyntax}
    (formNamed : form.WellNamed ∧ (form.IsNamed ∨ kind = .asDefault)) {next : List Declaration}
    (added : add path (first + declared.length) doc kind declared form = .ok next) :
    Numbered path first next := by
  cases form with
  | function form =>
      simp only [add] at added
      split at added
      · rename_i merged absorbed
        rw [← Except.ok.inj added]
        obtain ⟨name, -, absorbedName⟩ := Option.bind_eq_some_iff.mp absorbed
        exact numbered_absorbInto? numbered absorbedName
      · cases read : Parameter.ofSyntaxAll path form.parameters with
        | error failure =>
            rw [read] at added
            contradiction
        | ok parameters =>
            rw [read] at added
            rw [← Except.ok.inj added]
            refine numbered_append numbered rfl rfl
              ⟨formNamed.1.name, ?_, word_ofSyntaxAll formNamed.1.parameters read⟩
            rcases formNamed.2 with named | isDefault
            · exact .inl named
            · exact .inr ⟨rfl, isDefault⟩
  | interface name properties line =>
      rw [← Except.ok.inj added]
      exact numbered_append numbered rfl rfl
        ⟨by rintro _ ⟨⟩; exact formNamed.1, .inl rfl, by simp [Declaration.parameters]⟩
  | enumeration name isConst members line =>
      rw [← Except.ok.inj added]
      exact numbered_append numbered rfl rfl
        ⟨by rintro _ ⟨⟩; exact formNamed.1, .inl rfl, by simp [Declaration.parameters]⟩

/-- The declarations that statements make up to their end, or up to the first one that is refused. -/
def made (path : String) (first : Nat) (declared : List Declaration) :
    List Statement → List Declaration
  | [] => declared
  | .declaring doc kind form :: rest =>
    match add path (first + declared.length) doc kind declared form with
    | .ok next => made path first next rest
    | .error _ => declared
  | _ :: rest => made path first declared rest

theorem numbered_made {statements : List Statement}
    (wellNamed : ∀ statement ∈ statements, statement.WellNamed)
    (numbered : Numbered path first declared) :
    Numbered path first (made path first declared statements) := by
  induction statements generalizing declared with
  | nil => exact numbered
  | cons statement rest inductionHypothesis =>
      rw [List.forall_mem_cons] at wellNamed
      cases statement with
      | declaring doc kind form =>
          unfold made
          split
          · rename_i next added
            exact inductionHypothesis wellNamed.2 (numbered_add numbered wellNamed.1 added)
          · exact numbered
      | _ => exact inductionHypothesis wellNamed.2 numbered

/-- Collecting ends with the declarations that are made, or counts those before a refusal. -/
theorem collectFrom_eq_or (statements : List Statement) :
    collectFrom path first declared statements = .ok (made path first declared statements) ∨
      ∃ failure, collectFrom path first declared statements =
        .error (failure, (made path first declared statements).length) := by
  induction statements generalizing declared with
  | nil => exact .inl rfl
  | cons statement rest inductionHypothesis =>
      cases statement with
      | declaring doc kind form =>
          unfold collectFrom made
          cases add path (first + declared.length) doc kind declared form with
          | ok next => exact inductionHypothesis
          | error failure => exact .inr ⟨failure, rfl⟩
      | _ => exact inductionHypothesis

theorem numbered_collectFrom {statements : List Statement}
    (wellNamed : ∀ statement ∈ statements, statement.WellNamed)
    (numbered : Numbered path first declared) {collected : List Declaration}
    (ran : collectFrom path first declared statements = .ok collected) :
    Numbered path first collected := by
  rcases collectFrom_eq_or statements with made | ⟨failure, refused⟩
  · rw [← Except.ok.inj (made.symm.trans ran)]
    exact numbered_made wellNamed numbered
  · rw [refused] at ran
    contradiction

/-! ## Exports that stand apart -/

section

variable (default? : Option String) (pairs : List (String × String)) (d : Declaration)

/-- Exports that stand apart change nothing but the export of a declaration. -/
theorem withExports_eq : ∃ kind name, d.withExports default? pairs =
    { d with exportKind := kind, exportName := name } := by
  unfold withExports
  split
  · exact ⟨d.exportKind, d.exportName, rfl⟩
  · split
    · exact ⟨.asDefault, d.exportName, rfl⟩
    · split
      · exact ⟨d.exportKind, d.exportName, rfl⟩
      · split
        · exact ⟨.named, _, rfl⟩
        · exact ⟨d.exportKind, d.exportName, rfl⟩

@[simp] theorem withExports_id : (d.withExports default? pairs).id = d.id := by
  obtain ⟨kind, name, equal⟩ := withExports_eq default? pairs d
  rw [equal]

@[simp] theorem withExports_source : (d.withExports default? pairs).source = d.source := by
  obtain ⟨kind, name, equal⟩ := withExports_eq default? pairs d
  rw [equal]

/-- An anonymous declaration stays as it is exported, and any other keeps its name. -/
theorem wellNamed_withExports {d : Declaration} (named : d.WellNamed) :
    (d.withExports default? pairs).WellNamed := by
  cases hasName : d.name with
  | none =>
      have unchanged : d.withExports default? pairs = d := by
        unfold withExports
        rw [hasName]
      rw [unchanged]
      exact named
  | some name =>
      obtain ⟨kind, exported, equal⟩ := withExports_eq default? pairs d
      rw [equal]
      exact ⟨named.word, .inl (by simp [hasName]), named.parameters⟩

end

end Declaration

/-! ## Files -/

/-- A file keeps the path it is formed under, and its declarations are numbered from the given number on. -/
theorem SourceFile.numbered_ofText {path text : String} {first : Nat} {file : SourceFile}
    (formed : SourceFile.ofText path text first = .ok file) :
    file.path = path ∧ Declaration.Numbered path first file.declarations := by
  unfold SourceFile.ofText at formed
  split at formed
  · rename_i statements ran
    unfold SourceFile.ofStatements at formed
    cases collected : Declaration.collectFrom path first [] statements with
    | error failure =>
        rw [collected] at formed
        contradiction
    | ok declared =>
        rw [collected] at formed
        rw [← Except.ok.inj formed]
        have none : Declaration.Numbered path first [] := ⟨rfl, by simp, by simp⟩
        obtain ⟨ids, source, wellNamed⟩ :=
          Declaration.numbered_collectFrom (wellNamed_of_read ran) none collected
        refine ⟨rfl, ?_, ?_, ?_⟩
        · have sameIds : (Declaration.id ∘ Declaration.withExports
              (Declaration.defaultName? statements) (Declaration.namedPairs statements)) =
              Declaration.id := funext fun d => Declaration.withExports_id _ _ d
          rw [List.map_map, List.length_map, sameIds, ids]
        · simpa using source
        · rw [List.forall_mem_map]
          exact fun d member => Declaration.wellNamed_withExports _ _ (wellNamed d member)
  · contradiction

end DeclaredOptions
