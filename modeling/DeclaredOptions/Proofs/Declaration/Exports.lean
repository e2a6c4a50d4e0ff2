import DeclaredOptions.Proofs.Declaration.Appearance
import Mathlib.Data.List.Find

/-!
Contract: the names that a file exports its declarations under, and those that it finds them by.

Owns:
- the names that the statements of a text export a declaration under, in line and by clauses;
- the one name that a declaration is found by, if its name is no other's;
- look-up in a file, by the names that are found and by those that are exported.

Does not own: default exports, which are looked up without a name.

## Why two sets of names

A declaration keeps one export kind and one alias. Of several exports only one is therefore found: a default one
before all others, one in line before a clause, and the first clause before the others. The name of a declaration
is found where its export gives no other, also where it is exported as the default.
-/

set_option autoImplicit false

namespace DeclaredOptions

open Source

theorem present_of_ne {name : String} (nonempty : name ≠ "") : present (some name) = some name := by
  simp [present, nonempty]

/-! ## What a text exports -/

/-- How the statements that declare a name export it in line. -/
def inlineKinds (statements : List Statement) (own : String) : List ExportKind :=
  statements.filterMap fun
    | .declaring _ kind form => if form.heading.2 = some own then some kind else none
    | _ => none

/-- The name that a declaration is exported under in line. -/
def inlineName? (own : String) : ExportKind → Option String
  | .asDefault => some "default"
  | .named => some own
  | .none => none

/-- The names that the declaration of a name is exported under, in line and by clauses. -/
def exportedNames (statements : List Statement) (own : String) : List String :=
  (inlineKinds statements own).filterMap (inlineName? own) ++
    ((statements.flatMap Declaration.exportPairs).filter (·.1 == own)).map (·.2)

/-- The first kind in a row that is an export. -/
def firstExport (kinds : List ExportKind) : ExportKind := (kinds.find? (· != .none)).getD .none

/-- The name that the declaration of a name is found by, if it is found at all. -/
def foundName? (statements : List Statement) (own : String) : Option String :=
  if Declaration.defaultName? statements = some own then some own
  else if firstExport (inlineKinds statements own) != .none then some own
  else
    ((Declaration.namedPairs statements).find? (·.1 == own)).map fun pair =>
      (present (some pair.2)).getD own

namespace Declaration

variable {path : String} {first : Nat} {declared collected : List Declaration}

/-! ## Distinct names -/

/-- No two declarations have one name. -/
def Distinct (declared : List Declaration) : Prop := (declared.filterMap (·.name)).Nodup

theorem distinct_iff :
    Distinct declared ↔ ((declared.map (·.name)).filterMap fun name => name).Nodup := by
  rw [List.filterMap_map]
  rfl

theorem Distinct.others {own : String} {before after : List Declaration} {d : Declaration}
    (distinct : Distinct (before ++ d :: after)) (named : d.name = some own) :
    (∀ e ∈ before, e.name ≠ some own) ∧ ∀ e ∈ after, e.name ≠ some own := by
  unfold Distinct at distinct
  rw [List.filterMap_append, List.filterMap_cons, named, List.nodup_append] at distinct
  obtain ⟨-, ⟨ownOnce, apart⟩⟩ := distinct
  constructor
  · intro e member sameName
    exact apart own (List.mem_filterMap.mpr ⟨e, member, sameName⟩) own List.mem_cons_self rfl
  · intro e member sameName
    exact (List.nodup_cons.mp ownOnce).1 (List.mem_filterMap.mpr ⟨e, member, sameName⟩)

theorem Distinct.eq_of_name {own : String} {d e : Declaration} (distinct : Distinct declared)
    (member : d ∈ declared) (named : d.name = some own) (other : e ∈ declared)
    (sameName : e.name = some own) : e = d := by
  obtain ⟨before, after, rfl⟩ := List.append_of_mem member
  obtain ⟨noneBefore, noneAfter⟩ := distinct.others named
  rcases List.mem_append.mp other with early | late
  · exact absurd sameName (noneBefore e early)
  · rcases List.mem_cons.mp late with rfl | after
    · rfl
    · exact absurd sameName (noneAfter e after)

/-- One more declaration of a file is absorbed by an earlier one of its name, or comes last, exported as its
statement says and without an alias. -/
theorem add_cases {doc : Option DocBlock} {kind : ExportKind} {form : DeclarationSyntax} {next : Nat}
    {result : List Declaration} (added : add path next doc kind declared form = .ok result) :
    (∃ before d after name, declared = before ++ d :: after ∧
      result = before ++ d.absorb doc kind :: after ∧ d.name = some name ∧
      form.heading.2 = some name) ∨
    ∃ d, result = declared ++ [d] ∧ d.name = form.heading.2 ∧ d.exportKind = kind ∧
      d.exportName = none := by
  cases form with
  | interface name properties line =>
      exact .inr ⟨_, (Except.ok.inj added).symm, rfl, rfl, rfl⟩
  | enumeration name isConst members line =>
      exact .inr ⟨_, (Except.ok.inj added).symm, rfl, rfl, rfl⟩
  | function form =>
      simp only [add] at added
      split at added
      · rename_i merged absorbed
        obtain ⟨name, isNamed, absorbedName⟩ := Option.bind_eq_some_iff.mp absorbed
        obtain ⟨before, d, after, shape, mergedShape, -, named, -⟩ := absorbInto?_eq_some absorbedName
        rw [← Except.ok.inj added]
        exact .inl ⟨before, d, after, name, shape, mergedShape, named, isNamed⟩
      · cases read : Parameter.ofSyntaxAll path form.parameters with
        | error failure =>
            rw [read] at added
            contradiction
        | ok parameters =>
            rw [read] at added
            exact .inr ⟨_, (Except.ok.inj added).symm, rfl, rfl, rfl⟩

/-- The declarations so far stay in front of those that follow, as far as their names go. -/
theorem names_prefix_add {doc : Option DocBlock} {kind : ExportKind} {form : DeclarationSyntax}
    {next : Nat} {result : List Declaration}
    (added : add path next doc kind declared form = .ok result) :
    declared.map (·.name) <+: result.map (·.name) := by
  rcases add_cases added with ⟨before, d, after, name, rfl, rfl, -, -⟩ | ⟨d, rfl, -, -, -⟩
  · rw [List.map_append, List.map_append]
    exact List.prefix_rfl
  · rw [List.map_append]
    exact List.prefix_append _ _

theorem names_prefix_collectFrom {statements : List Statement}
    (ran : collectFrom path first declared statements = .ok collected) :
    declared.map (·.name) <+: collected.map (·.name) := by
  induction statements generalizing declared with
  | nil =>
      obtain rfl := Except.ok.inj ran
      exact List.prefix_rfl
  | cons statement rest inductionHypothesis =>
      cases statement with
      | declaring doc kind form =>
          unfold collectFrom at ran
          split at ran
          · rename_i next added
            exact (names_prefix_add added).trans (inductionHypothesis ran)
          · contradiction
      | _ => exact inductionHypothesis ran

theorem Distinct.of_prefix {more : List Declaration} (distinct : Distinct more)
    (grows : declared.map (·.name) <+: more.map (·.name)) : Distinct declared := by
  rw [distinct_iff] at distinct ⊢
  obtain ⟨last, isMore⟩ := grows
  rw [← isMore, List.filterMap_append] at distinct
  exact (List.nodup_append.mp distinct).1

/-! ## Kinds of exports in line -/

theorem firstExport_absorb (kind later : ExportKind) (rest : List ExportKind) :
    firstExport ((if kind == .none then later else kind) :: rest) =
      firstExport (kind :: later :: rest) := by
  cases kind <;> rfl

theorem firstExport_singleton (kind : ExportKind) : firstExport [kind] = kind := by
  cases kind <;> rfl

/-- The kinds that the declarations of a name have. -/
def kindsOf (own : String) (declared : List Declaration) : List ExportKind :=
  declared.filterMap fun d => if d.name = some own then some d.exportKind else none

theorem kindsOf_append (own : String) (declared more : List Declaration) :
    kindsOf own (declared ++ more) = kindsOf own declared ++ kindsOf own more :=
  List.filterMap_append

theorem kindsOf_of_forall_ne {own : String} (others : ∀ d ∈ declared, d.name ≠ some own) :
    kindsOf own declared = [] := by
  rw [kindsOf, List.filterMap_eq_nil_iff]
  intro d member
  rw [if_neg (others d member)]

theorem kindsOf_cons_of_eq {own : String} {d : Declaration} (named : d.name = some own) :
    kindsOf own (d :: declared) = d.exportKind :: kindsOf own declared := by
  simp [kindsOf, named]

theorem kindsOf_cons_of_ne {own : String} {d : Declaration} (other : d.name ≠ some own) :
    kindsOf own (d :: declared) = kindsOf own declared := by
  simp [kindsOf, other]

theorem kindsOf_of_mem {own : String} (distinct : Distinct declared) {d : Declaration}
    (member : d ∈ declared) (named : d.name = some own) : kindsOf own declared = [d.exportKind] := by
  obtain ⟨before, after, rfl⟩ := List.append_of_mem member
  obtain ⟨noneBefore, noneAfter⟩ := distinct.others named
  rw [kindsOf_append, kindsOf_cons_of_eq named, kindsOf_of_forall_ne noneBefore,
    kindsOf_of_forall_ne noneAfter]
  rfl

theorem kindsOf_singleton (own : String) (d : Declaration) :
    kindsOf own [d] = if d.name = some own then [d.exportKind] else [] := by
  split
  · rename_i named
    exact kindsOf_cons_of_eq named
  · rename_i other
    exact kindsOf_cons_of_ne other

/-- The kind of a statement that declares a name counts behind the kinds there are. -/
theorem firstExport_add {doc : Option DocBlock} {kind : ExportKind} {form : DeclarationSyntax}
    {next : Nat} {result : List Declaration}
    (added : add path next doc kind declared form = .ok result) (distinct : Distinct result)
    (own : String) (rest : List ExportKind) :
    firstExport (kindsOf own result ++ rest) =
      firstExport (kindsOf own declared ++
        ((if form.heading.2 = some own then [kind] else []) ++ rest)) := by
  rcases add_cases added with ⟨before, d, after, name, rfl, rfl, named, heading⟩ |
    ⟨d, rfl, sameName, sameKind, -⟩
  · have namedStill : (d.absorb doc kind).name = some name := named
    obtain ⟨noneBefore, noneAfter⟩ := distinct.others namedStill
    rw [heading, kindsOf_append, kindsOf_append]
    by_cases isOwn : some name = some own
    · cases isOwn
      rw [kindsOf_of_forall_ne noneBefore, kindsOf_cons_of_eq namedStill,
        kindsOf_cons_of_eq named, kindsOf_of_forall_ne noneAfter, if_pos rfl]
      exact firstExport_absorb d.exportKind kind rest
    · rw [kindsOf_cons_of_ne (namedStill ▸ isOwn), kindsOf_cons_of_ne (named ▸ isOwn), if_neg isOwn,
        List.nil_append]
  · rw [kindsOf_append, List.append_assoc, kindsOf_singleton, sameName, sameKind]

theorem inlineKinds_cons (statement : Statement) (rest : List Statement) (own : String) :
    inlineKinds (statement :: rest) own = inlineKinds [statement] own ++ inlineKinds rest own :=
  List.filterMap_append (l := [statement])

/-- A collected declaration is exported in line as the first statement says that exports it. -/
theorem exportKind_collectFrom {statements : List Statement}
    (ran : collectFrom path first declared statements = .ok collected) (distinct : Distinct collected)
    {own : String} {d : Declaration} (member : d ∈ collected) (named : d.name = some own) :
    d.exportKind = firstExport (kindsOf own declared ++ inlineKinds statements own) := by
  induction statements generalizing declared with
  | nil =>
      have all : declared = collected := Except.ok.inj ran
      rw [all, kindsOf_of_mem distinct member named]
      exact (firstExport_singleton d.exportKind).symm
  | cons statement rest inductionHypothesis =>
      cases statement with
      | declaring doc kind form =>
          unfold collectFrom at ran
          split at ran
          · rename_i next added
            have distinctNext := distinct.of_prefix (names_prefix_collectFrom ran)
            have opened : inlineKinds [.declaring doc kind form] own =
                if form.heading.2 = some own then [kind] else [] := by
              unfold inlineKinds
              split <;> rename_i isOwn <;> simp [isOwn]
            rw [inductionHypothesis ran, firstExport_add added distinctNext, inlineKinds_cons, opened]
          · contradiction
      | _ => exact inductionHypothesis ran

theorem exportName_add {doc : Option DocBlock} {kind : ExportKind} {form : DeclarationSyntax}
    {next : Nat} {result : List Declaration}
    (added : add path next doc kind declared form = .ok result)
    (noAlias : ∀ d ∈ declared, d.exportName = none) : ∀ d ∈ result, d.exportName = none := by
  rcases add_cases added with ⟨before, d, after, name, rfl, rfl, -, -⟩ | ⟨d, rfl, -, -, none⟩
  · rw [List.forall_mem_append, List.forall_mem_cons] at noAlias ⊢
    exact noAlias
  · rw [List.forall_mem_append, List.forall_mem_singleton]
    exact ⟨noAlias, none⟩

theorem exportName_collectFrom {statements : List Statement}
    (ran : collectFrom path first declared statements = .ok collected)
    (noAlias : ∀ d ∈ declared, d.exportName = none) : ∀ d ∈ collected, d.exportName = none := by
  induction statements generalizing declared with
  | nil =>
      rw [← Except.ok.inj ran]
      exact noAlias
  | cons statement rest inductionHypothesis =>
      cases statement with
      | declaring doc kind form =>
          unfold collectFrom at ran
          split at ran
          · rename_i next added
            exact inductionHypothesis ran (exportName_add added noAlias)
          · contradiction
      | _ => exact inductionHypothesis ran noAlias

/-! ## Exports that stand apart -/

@[simp] theorem withExports_name (default? : Option String) (pairs : List (String × String))
    (d : Declaration) : (d.withExports default? pairs).name = d.name := by
  obtain ⟨kind, name, equal⟩ := withExports_eq default? pairs d
  rw [equal]

theorem present_getD_self (own : String) : (present (some own)).getD own = own := by
  unfold present
  rw [Option.filter_some]
  split <;> rfl

/-- A declaration is found by its export name, where it has one, and by its own name otherwise. -/
theorem exportedName_eq {own : String} {d : Declaration} (named : d.name = some own) :
    d.exportedName = some ((present d.exportName).getD own) := by
  unfold exportedName
  rw [named, Option.or_some]

/-- An exported declaration goes by the name that the statements let it be found by. -/
theorem exportedName_withExports {statements : List Statement} {d : Declaration}
    (noAlias : d.exportName = none)
    (inLine : ∀ own, d.name = some own → d.exportKind = firstExport (inlineKinds statements own))
    (name : String) :
    ((d.withExports (defaultName? statements) (namedPairs statements)).exportedName = some name ∧
      (d.withExports (defaultName? statements) (namedPairs statements)).exportKind ≠ .none) ↔
      d.name.bind (foundName? statements) = some name := by
  cases named : d.name with
  | none => simp [withExports, named, exportedName, noAlias, present]
  | some own =>
      have sameName := (withExports_name (defaultName? statements) (namedPairs statements) d).trans named
      rw [exportedName_eq sameName, Option.bind_some]
      have ownName : (present none).getD own = own := rfl
      unfold withExports foundName?
      rw [named]
      dsimp only
      by_cases isDefault : defaultName? statements = some own
      · rw [if_pos (by simp [isDefault]), if_pos isDefault, noAlias, ownName]
        simp
      · rw [if_neg (by simpa using isDefault), if_neg isDefault, ← inLine own named]
        by_cases inline : d.exportKind = .none
        · rw [if_neg (by simp [inline]), if_neg (by simp [inline])]
          cases found : (namedPairs statements).find? (·.1 == own) with
          | none => simp [inline]
          | some pair =>
              dsimp only [Option.map_some]
              by_cases same : pair.2 = own
              · rw [if_pos (by simp [same]), noAlias, ownName, same, present_getD_self]
                simp
              · rw [if_neg (by simp [same])]
                simp
        · rw [if_pos (by simp [inline]), if_pos (by simp [inline]), noAlias, ownName]
          simp [inline]

end Declaration

namespace SourceFile

variable {path text : String} {first : Nat} {file : SourceFile} {statements : List Statement}

/-- A file finds the first declaration that is found by a name. -/
theorem exported?_eq (ran : Source.read path text = .ok statements)
    (formed : ofText path text first = .ok file) (distinct : Declaration.Distinct file.declarations)
    (name : String) :
    file.exported? name =
      file.declarations.find? fun d => d.name.bind (foundName? statements) == some name := by
  unfold ofText at formed
  rw [ran] at formed
  simp only [ofStatements] at formed
  cases collected : Declaration.collectFrom path first [] statements with
  | error failure =>
      rw [collected] at formed
      contradiction
  | ok declared =>
      rw [collected] at formed
      have isFile : file.declarations = declared.map (Declaration.withExports
          (Declaration.defaultName? statements) (Declaration.namedPairs statements)) := by
        rw [← Except.ok.inj formed]
      have distinctBefore : Declaration.Distinct declared := by
        rw [Declaration.distinct_iff] at distinct ⊢
        rw [isFile, List.map_map] at distinct
        simpa [Function.comp_def] using distinct
      unfold exported?
      rw [isFile, List.find?_map, List.find?_map]
      congr 1
      apply List.find?_congr
      intro d member
      have noAlias := Declaration.exportName_collectFrom collected (by simp) d member
      have inLine : ∀ own, d.name = some own →
          d.exportKind = firstExport (inlineKinds statements own) :=
        fun own named => Declaration.exportKind_collectFrom collected distinctBefore member named
      have found := Declaration.exportedName_withExports noAlias inLine name
      rw [Bool.eq_iff_iff]
      simpa using found

/-! ## Names that are exported once -/

/-- A declaration is exported under a name, in line or by a clause. -/
def Exports (statements : List Statement) (d : Declaration) (name : String) : Prop :=
  ∃ own, d.name = some own ∧ name ∈ exportedNames statements own

/-- A name is exported clearly if what it exports is exported under no other name, if it exports no two
declarations, and if no declaration of this name is exported as the default or without a name. -/
structure Clear (file : SourceFile) (statements : List Statement) (name : String) : Prop where
  nonempty : name ≠ ""
  alone : ∀ d ∈ file.declarations, Exports statements d name → ∀ other,
    Exports statements d other → other = name
  once : ∀ d ∈ file.declarations, ∀ e ∈ file.declarations, Exports statements d name →
    Exports statements e name → d.name = e.name
  noDefault : "default" ∉ exportedNames statements name
  noBlank : "" ∉ exportedNames statements name

end SourceFile

theorem mem_exportedNames_of_defaultName? {statements : List Statement} {own : String}
    (isDefault : Declaration.defaultName? statements = some own) :
    "default" ∈ exportedNames statements own := by
  obtain ⟨pair, isLast, rfl⟩ := Option.map_eq_some_iff.mp isDefault
  obtain ⟨listed, exported⟩ := List.mem_filter.mp (List.mem_of_getLast? isLast)
  have isDefault := beq_iff_eq.mp exported
  apply List.mem_append_right
  rw [List.mem_map]
  exact ⟨pair, List.mem_filter.mpr ⟨listed, by simp⟩, isDefault⟩

theorem mem_exportedNames_of_find? {statements : List Statement} {own : String}
    {pair : String × String}
    (found : (Declaration.namedPairs statements).find? (·.1 == own) = some pair) :
    pair.2 ∈ exportedNames statements own := by
  have isOwn := List.find?_some found
  obtain ⟨listed, -⟩ := List.mem_filter.mp (List.mem_of_find?_eq_some found)
  apply List.mem_append_right
  exact List.mem_map.mpr ⟨pair, List.mem_filter.mpr ⟨listed, isOwn⟩, rfl⟩

theorem eq_none_of_firstExport {kinds : List ExportKind} (none : firstExport kinds = .none) :
    ∀ kind ∈ kinds, kind = .none := by
  intro kind member
  unfold firstExport at none
  cases found : kinds.find? (· != .none) with
  | none => simpa using List.find?_eq_none.mp found kind member
  | some other =>
      have isExport := List.find?_some found
      rw [found, Option.getD_some] at none
      rw [none] at isExport
      contradiction

/-- A name in line stands among the exported names. -/
theorem mem_exportedNames_of_inline {statements : List Statement} {own : String}
    (inline : firstExport (inlineKinds statements own) ≠ .none) :
    ∃ name, inlineName? own (firstExport (inlineKinds statements own)) = some name ∧
      name ∈ exportedNames statements own := by
  unfold firstExport at inline ⊢
  cases found : (inlineKinds statements own).find? (· != .none) with
  | none =>
      rw [found] at inline
      exact absurd rfl inline
  | some kind =>
      rw [found] at inline
      have listed := List.mem_of_find?_eq_some found
      have isExport : ∃ name, inlineName? own kind = some name := by
        cases kind with
        | none => exact absurd rfl inline
        | named => exact ⟨own, rfl⟩
        | asDefault => exact ⟨"default", rfl⟩
      obtain ⟨name, isName⟩ := isExport
      refine ⟨name, isName, ?_⟩
      exact List.mem_append_left _ (List.mem_filterMap.mpr ⟨kind, listed, isName⟩)

/-- What a declaration is found by is exported, or is its own name in place of another export. -/
theorem exported_of_foundName? {statements : List Statement} {own name : String}
    (found : foundName? statements own = some name) :
    name ∈ exportedNames statements own ∨
      name = own ∧ ("default" ∈ exportedNames statements own ∨ "" ∈ exportedNames statements own) := by
  unfold foundName? at found
  split at found
  · rename_i isDefault
    rw [← Option.some.inj found]
    exact .inr ⟨rfl, .inl (mem_exportedNames_of_defaultName? isDefault)⟩
  · split at found
    · rename_i inline
      obtain ⟨exported, isName, listed⟩ := mem_exportedNames_of_inline (by simpa using inline)
      rw [← Option.some.inj found]
      cases kind : firstExport (inlineKinds statements own) with
      | none =>
          rw [kind] at isName
          contradiction
      | named =>
          rw [kind] at isName
          rw [← Option.some.inj isName] at listed
          exact .inl listed
      | asDefault =>
          rw [kind] at isName
          rw [← Option.some.inj isName] at listed
          exact .inr ⟨rfl, .inl listed⟩
    · obtain ⟨pair, isFirst, rfl⟩ := Option.map_eq_some_iff.mp found
      have listed := mem_exportedNames_of_find? isFirst
      by_cases blank : pair.2 = ""
      · rw [blank] at listed ⊢
        exact .inr ⟨rfl, .inr listed⟩
      · rw [present_of_ne blank]
        exact .inl listed

theorem foundName?_of_alone {statements : List Statement} {own name : String}
    (exported : name ∈ exportedNames statements own)
    (alone : ∀ other ∈ exportedNames statements own, other = name) (notDefault : name ≠ "default")
    (nonempty : name ≠ "") : foundName? statements own = some name := by
  unfold foundName?
  split
  · rename_i isDefault
    exact absurd (alone _ (mem_exportedNames_of_defaultName? isDefault)).symm notDefault
  · split
    · rename_i inline
      obtain ⟨other, isName, listed⟩ := mem_exportedNames_of_inline (by simpa using inline)
      have isOnly := alone other listed
      cases kind : firstExport (inlineKinds statements own) with
      | none =>
          rw [kind] at isName
          contradiction
      | named =>
          rw [kind] at isName
          rw [Option.some.inj isName, isOnly]
      | asDefault =>
          rw [kind] at isName
          rw [← Option.some.inj isName] at isOnly
          exact absurd isOnly.symm notDefault
    · rename_i isNotDefault notInline
      cases found : (Declaration.namedPairs statements).find? (·.1 == own) with
      | some pair =>
          have isOnly := alone _ (mem_exportedNames_of_find? found)
          rw [Option.map_some, isOnly, present_of_ne nonempty]
          rfl
      | none =>
          -- what is exported neither in line nor by a clause is not exported at all
          rcases List.mem_append.mp exported with inName | byClause
          · obtain ⟨kind, listed, isName⟩ := List.mem_filterMap.mp inName
            have noKind : kind = .none := by
              have none : firstExport (inlineKinds statements own) = .none := by
                simpa using notInline
              exact eq_none_of_firstExport none kind listed
            rw [noKind] at isName
            contradiction
          · obtain ⟨pair, listed, rfl⟩ := List.mem_map.mp byClause
            obtain ⟨stated, isOwn⟩ := List.mem_filter.mp listed
            have isNamed : pair ∈ Declaration.namedPairs statements :=
              List.mem_filter.mpr ⟨stated, by simpa using notDefault⟩
            exact absurd isOwn (List.find?_eq_none.mp found pair isNamed)

namespace SourceFile

variable {path text : String} {first : Nat} {file : SourceFile} {statements : List Statement}

/-- A file finds the first declaration that goes by a name. A name that is exported clearly finds the very
declaration that is exported under it. -/
theorem exported?_iff_exports (ran : Source.read path text = .ok statements)
    (formed : ofText path text first = .ok file) (distinct : Declaration.Distinct file.declarations)
    (name : String) (notDefault : name ≠ "default") :
    (file.exported? name =
      file.declarations.find? fun d => d.name.bind (foundName? statements) == some name) ∧
    (file.Clear statements name → ∀ d ∈ file.declarations,
      file.exported? name = some d ↔ Exports statements d name) := by
  have asFound := exported?_eq ran formed distinct name
  refine ⟨asFound, fun clear d member => ?_⟩
  have goesBy : ∀ e ∈ file.declarations,
      (e.name.bind (foundName? statements) == some name) = true ↔ Exports statements e name := by
    intro e isDeclared
    rw [beq_iff_eq, Option.bind_eq_some_iff]
    constructor
    · rintro ⟨own, named, found⟩
      rcases exported_of_foundName? found with exported | ⟨rfl, default | blank⟩
      · exact ⟨own, named, exported⟩
      · exact absurd default clear.noDefault
      · exact absurd blank clear.noBlank
    · rintro ⟨own, named, exported⟩
      refine ⟨own, named, foundName?_of_alone exported ?_ notDefault clear.nonempty⟩
      intro other alsoExported
      exact clear.alone e isDeclared ⟨own, named, exported⟩ other ⟨own, named, alsoExported⟩
  rw [asFound]
  constructor
  · intro found
    have holds := List.find?_some found
    exact (goesBy d member).mp holds
  · intro exported
    cases found : file.declarations.find?
        (fun e => e.name.bind (foundName? statements) == some name) with
    | none =>
        exact absurd ((goesBy d member).mpr exported) (List.find?_eq_none.mp found d member)
    | some e =>
        have isDeclared := List.mem_of_find?_eq_some found
        have holds := List.find?_some found
        have alsoExported := (goesBy e isDeclared).mp holds
        have sameName := clear.once d member e isDeclared exported alsoExported
        obtain ⟨own, named, -⟩ := exported
        rw [distinct.eq_of_name member named isDeclared (sameName.symm.trans named)]

/-! ## Two files -/

theorem exists_of_check (check : List Statement → SourceFile → Bool)
    (passes : (match Source.read path text, ofText path text first with
      | .ok statements, .ok file => check statements file
      | _, _ => false) = true) :
    ∃ statements file, Source.read path text = .ok statements ∧
      ofText path text first = .ok file ∧ check statements file = true := by
  split at passes
  · rename_i statements file ran formed
    exact ⟨statements, file, ran, formed, passes⟩
  · contradiction

def toneText : String := "enum Hue{Red}
enum Size{S}
export{Hue as Tone,Size}"

/-- An enum that is exported under an alias alone is found by it. -/
theorem exported?_iff_exports_tone :
    ∃ statements file d, Source.read "hue.ts" toneText = .ok statements ∧
      ofText "hue.ts" toneText 0 = .ok file ∧ Declaration.Distinct file.declarations ∧
      "Tone" ≠ "default" ∧ file.Clear statements "Tone" ∧ d ∈ file.declarations ∧
      d.name = some "Hue" ∧ file.exported? "Tone" = some d := by
  obtain ⟨statements, file, ran, formed, checked⟩ :=
    @exists_of_check "hue.ts" toneText 0 (fun statements file =>
      decide (file.declarations.map (·.name) = [some "Hue", some "Size"]) &&
        decide (exportedNames statements "Hue" = ["Tone"]) &&
        decide (exportedNames statements "Size" = ["Size"]) &&
        decide (exportedNames statements "Tone" = [])) (by decide +kernel)
  simp only [Bool.and_eq_true, decide_eq_true_eq] at checked
  obtain ⟨⟨⟨names, hue⟩, size⟩, tone⟩ := checked
  have distinct : Declaration.Distinct file.declarations := by
    rw [Declaration.distinct_iff, names]
    decide
  have isHue : ∀ d ∈ file.declarations, Exports statements d "Tone" → d.name = some "Hue" := by
    rintro d member ⟨own, named, exported⟩
    have listed : d.name ∈ file.declarations.map (·.name) := List.mem_map_of_mem member
    rw [names] at listed
    rcases List.mem_cons.mp listed with isHue | isSize
    · exact isHue
    · rw [List.mem_singleton.mp isSize] at named
      rw [← Option.some.inj named, size] at exported
      exact absurd exported (by decide)
  have clear : file.Clear statements "Tone" := by
    refine ⟨by decide, ?_, ?_, by simp [tone], by simp [tone]⟩
    · rintro d member exported other ⟨own, named, alsoExported⟩
      rw [isHue d member exported] at named
      rw [← Option.some.inj named, hue] at alsoExported
      exact List.mem_singleton.mp alsoExported
    · intro d member e isDeclared exported alsoExported
      rw [isHue d member exported, isHue e isDeclared alsoExported]
  have hueListed : some "Hue" ∈ file.declarations.map (·.name) := by
    rw [names]
    exact List.mem_cons_self
  obtain ⟨d, member, named⟩ := List.mem_map.mp hueListed
  have exported : Exports statements d "Tone" := ⟨"Hue", named, by simp [hue]⟩
  have found := ((exported?_iff_exports ran formed distinct "Tone" (by decide)).2 clear d member).mpr
    exported
  exact ⟨statements, file, d, ran, formed, distinct, by decide, clear, member, named, found⟩

def clashText : String := "enum N{A}
export default N
enum B{X}
export{B as N,B as M}"

/-- An enum that is exported under two names is found by neither: a default export of the first name comes before
it, and the second name is dropped. -/
theorem exported?_clash :
    ∃ statements file shadow d, Source.read "clash.ts" clashText = .ok statements ∧
      ofText "clash.ts" clashText 0 = .ok file ∧ Declaration.Distinct file.declarations ∧
      d ∈ file.declarations ∧ d.name = some "B" ∧
      Exports statements d "N" ∧ shadow.name = some "N" ∧ file.exported? "N" = some shadow ∧
      Exports statements d "M" ∧ (file.exported? "M").isNone := by
  obtain ⟨statements, file, ran, formed, checked⟩ :=
    @exists_of_check "clash.ts" clashText 0 (fun statements file =>
      decide (file.declarations.map (·.name) = [some "N", some "B"]) &&
        decide ("N" ∈ exportedNames statements "B") && decide ("M" ∈ exportedNames statements "B") &&
        (file.exported? "N").any (·.name == some "N") && (file.exported? "M").isNone)
      (by decide +kernel)
  simp only [Bool.and_eq_true, decide_eq_true_eq, Option.any_eq_true, beq_iff_eq] at checked
  obtain ⟨⟨⟨⟨names, first⟩, second⟩, shadow, found, shadowName⟩, dropped⟩ := checked
  have distinct : Declaration.Distinct file.declarations := by
    rw [Declaration.distinct_iff, names]
    decide
  have listed : some "B" ∈ file.declarations.map (·.name) := by
    rw [names]
    decide
  obtain ⟨d, member, named⟩ := List.mem_map.mp listed
  exact ⟨statements, file, shadow, d, ran, formed, distinct, member, named, ⟨"B", named, first⟩,
    shadowName, found, ⟨"B", named, second⟩, dropped⟩

end SourceFile

end DeclaredOptions
