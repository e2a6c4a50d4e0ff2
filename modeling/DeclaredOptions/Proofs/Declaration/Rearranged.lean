import DeclaredOptions.Proofs.Declaration.Overloads

/-!
Contract: files whose exports stand apart from what they export, in whatever place among the declarations.

Owns:
- declarations without their places, which are lines, columns and paths;
- statements that have the same forms and the same exports apart, each in the same order;
- the equality of what two such texts declare, and of what they find under each name.

Does not own: which declaration an export applies to.

## Why places are left out of forms first

A file is what its forms make together. Places are carried along without being looked at, so a form without places
makes the declaration without places, and two texts of the same such forms make the same declarations.
-/

set_option autoImplicit false

namespace DeclaredOptions

open Source

/-! ## Places -/

def DocTag.unplaced (tag : DocTag) : DocTag := { tag with line := 0 }

def DocBlock.unplaced (doc : DocBlock) : DocBlock :=
  { doc with tags := doc.tags.map .unplaced, line := 0 }

def Parameter.unplaced (p : Parameter) : Parameter := { p with line := 0 }

def Property.unplaced (p : Property) : Property :=
  { p with doc := p.doc.map .unplaced, line := 0 }

def EnumMember.unplaced (m : EnumMember) : EnumMember :=
  { m with doc := m.doc.map .unplaced, line := 0 }

def DeclarationBody.unplaced : DeclarationBody → DeclarationBody
  | .function parameters => .function (parameters.map .unplaced)
  | .interface properties => .interface (properties.map .unplaced)
  | .enumeration isConst members => .enumeration isConst (members.map .unplaced)

/-- A declaration without the path of its file and without lines, those of its members and its documentation
included. -/
def Declaration.unplaced (d : Declaration) : Declaration :=
  { d with doc := d.doc.map .unplaced, line := 0, source := none, body := d.body.unplaced }

namespace Source

def ParameterSyntax.unplaced (p : ParameterSyntax) : ParameterSyntax := { p with place := ⟨0, 0⟩ }

def PropertySyntax.unplaced (p : PropertySyntax) : PropertySyntax :=
  { p with doc := p.doc.map .unplaced, line := 0 }

def EnumMemberSyntax.unplaced (m : EnumMemberSyntax) : EnumMemberSyntax :=
  { m with doc := m.doc.map .unplaced, line := 0 }

def DeclarationSyntax.unplaced : DeclarationSyntax → DeclarationSyntax
  | .function form => .function ⟨form.name, form.parameters.map .unplaced, 0⟩
  | .interface name properties _ => .interface name (properties.map .unplaced) 0
  | .enumeration name isConst members _ => .enumeration name isConst (members.map .unplaced) 0

def Form.unplaced (f : Form) : Form :=
  ⟨f.doc.map .unplaced, f.kind, f.declares.unplaced⟩

/-- Statements have the same forms but for their places, and the same exports apart. Where the exports stand among
the forms makes no difference, nor do statements of other kinds. -/
structure Rearranged (statements statements' : List Statement) : Prop where
  forms : (forms statements).map Form.unplaced = (Source.forms statements').map Form.unplaced
  exports : statements.flatMap Declaration.exportPairs = statements'.flatMap Declaration.exportPairs

end Source

/-! ## Members -/

@[simp] theorem DocBlock.unplaced_unplaced (doc : DocBlock) : doc.unplaced.unplaced = doc.unplaced := by
  simp [unplaced, Function.comp_def, DocTag.unplaced]

@[simp] theorem DocBlock.map_unplaced_unplaced (doc : Option DocBlock) :
    (doc.map unplaced).map unplaced = doc.map unplaced := by
  cases doc <;> simp

theorem Parameter.ofSyntax?_unplaced (p : ParameterSyntax) :
    (ofSyntax? p.unplaced).map unplaced = (ofSyntax? p).map unplaced := by
  have same : p.unplaced.binding = p.binding := rfl
  unfold ofSyntax?
  rw [same]
  cases p.binding <;> rfl

theorem Property.ofSyntax_unplaced (p : PropertySyntax) :
    (ofSyntax p.unplaced).unplaced = (ofSyntax p).unplaced := by
  unfold ofSyntax unplaced PropertySyntax.unplaced
  dsimp only
  rw [DocBlock.map_unplaced_unplaced]

theorem EnumMember.ofSyntax_unplaced (m : EnumMemberSyntax) :
    (ofSyntax m.unplaced).unplaced = (ofSyntax m).unplaced := by
  unfold ofSyntax unplaced EnumMemberSyntax.unplaced
  dsimp only
  rw [DocBlock.map_unplaced_unplaced]

namespace Source

theorem DeclarationSyntax.body_unplaced (d : DeclarationSyntax) :
    d.unplaced.body.unplaced = d.body.unplaced := by
  cases d with
  | function form =>
      simp only [unplaced, body, DeclarationBody.unplaced, List.map_filterMap, List.filterMap_map]
      congr 2
      funext p
      exact Parameter.ofSyntax?_unplaced p
  | interface name properties line =>
      simp only [unplaced, body, DeclarationBody.unplaced, List.map_map]
      congr 2
      funext p
      exact Property.ofSyntax_unplaced p
  | enumeration name isConst members line =>
      simp only [unplaced, body, DeclarationBody.unplaced, List.map_map]
      congr 2
      funext m
      exact EnumMember.ofSyntax_unplaced m

/-! ## Forms -/

namespace Form

variable {all : List Form}

@[simp] theorem functionName?_unplaced (f : Form) : f.unplaced.functionName? = f.functionName? := by
  unfold functionName? unplaced
  cases f.declares <;> rfl

theorem isLater_unplaced (later earlier : Form) :
    later.unplaced.isLater earlier.unplaced = later.isLater earlier := by
  simp [isLater]

theorem together_unplaced (f : Form) :
    f.unplaced.together (all.map unplaced) = (f.together all).map unplaced := by
  unfold together
  rw [functionName?_unplaced]
  cases f.functionName? with
  | none => rfl
  | some name =>
      dsimp only
      rw [List.filter_map]
      congr 2
      funext g
      simp

/-- A form without places makes what the form makes, but for the places. -/
theorem merged_unplaced (path path' : String) (f : Form) (id : Nat) :
    (f.unplaced.merged path' (all.map unplaced) id).unplaced = (f.merged path all id).unplaced := by
  have heading : f.unplaced.declares.heading.2 = f.declares.heading.2 := by
    unfold unplaced
    cases f.declares <;> rfl
  have doc : (((f.together all).map unplaced).findSome? (·.doc)).map DocBlock.unplaced =
      ((f.together all).findSome? (·.doc)).map DocBlock.unplaced := by
    rw [List.findSome?_map, List.map_findSome?, List.map_findSome?]
    congr 1
    funext g
    exact DocBlock.map_unplaced_unplaced g.doc
  have kinds : ((f.together all).map unplaced).map (·.kind) = (f.together all).map (·.kind) := by
    rw [List.map_map]
    rfl
  unfold merged Declaration.unplaced
  dsimp only
  rw [together_unplaced, heading, doc, kinds]
  congr 1
  exact DeclarationSyntax.body_unplaced f.declares

theorem plain_unplaced (f : Form) :
    (∀ p ∈ f.unplaced.parameters, p.binding ≠ .pattern) ↔
      ∀ p ∈ f.parameters, p.binding ≠ .pattern := by
  unfold parameters unplaced
  cases f.declares with
  | function form => exact List.forall_mem_map
  | interface name properties line => exact Iff.rfl
  | enumeration name isConst members line => exact Iff.rfl

end Form

theorem firstForms_unplaced (all : List Form) :
    firstForms (all.map Form.unplaced) = (firstForms all).map Form.unplaced :=
  FirstOccurrence.eraseDupsBy_map Form.isLater_unplaced all

theorem mergedForms_unplaced (path path' : String) (first : Nat) (all : List Form) :
    (mergedForms path' first (all.map Form.unplaced)).map Declaration.unplaced =
      (mergedForms path first all).map Declaration.unplaced := by
  unfold mergedForms
  rw [firstForms_unplaced, List.zipIdx_map, List.map_map, List.map_map, List.map_map]
  apply List.map_congr_left
  intro pair _
  exact Form.merged_unplaced path path' pair.1 pair.2

end Source

/-! ## Exports apart -/

theorem Declaration.withExports_unplaced (default? : Option String) (pairs : List (String × String))
    (d : Declaration) :
    (d.withExports default? pairs).unplaced = d.unplaced.withExports default? pairs := by
  have name : d.unplaced.name = d.name := rfl
  have kind : d.unplaced.exportKind = d.exportKind := rfl
  unfold withExports
  rw [name, kind]
  cases d.name with
  | none => rfl
  | some own =>
      dsimp only
      split
      · rfl
      · split
        · rfl
        · cases pairs.find? fun pair => pair.1 == own with
          | none => rfl
          | some pair => rfl

namespace SourceFile

open Declaration hiding id

variable {path path' text text' : String} {first : Nat} {file : SourceFile}
  {statements statements' : List Statement}

theorem defaultExport?_unplaced (file : SourceFile) :
    file.defaultExport?.map unplaced =
      (file.declarations.map unplaced).find? (·.exportKind == .asDefault) := by
  rw [List.find?_map]
  rfl

theorem exported?_unplaced (file : SourceFile) (name : String) :
    (file.exported? name).map unplaced =
      (file.declarations.map unplaced).find? fun d =>
        d.exportedName == some name && d.exportKind != .none := by
  rw [List.find?_map]
  rfl

theorem declarations_unplaced (ran : Source.read path text = .ok statements)
    (formed : ofText path text first = .ok file) :
    file.declarations.map unplaced =
      ((mergedForms path first ((forms statements).map Form.unplaced)).map unplaced).map
        (withExports (defaultName? statements) (namedPairs statements)) := by
  obtain ⟨-, rfl⟩ := (ofText_eq_ok_iff ran file).mp formed
  rw [mergedForms_unplaced path path, List.map_map, List.map_map]
  apply List.map_congr_left
  intro d _
  exact withExports_unplaced _ _ d

theorem exists_ofText_iff_unplaced (ran : Source.read path text = .ok statements) :
    (∃ file, ofText path text first = .ok file) ↔
      ∀ f ∈ firstForms ((forms statements).map Form.unplaced), ∀ p ∈ f.parameters,
        p.binding ≠ .pattern := by
  rw [exists_ofText_iff ran, firstForms_unplaced, List.forall_mem_map]
  simp only [Form.plain_unplaced]

/-- Of two texts that differ in where their exports apart stand, both are parsed or none is. -/
theorem exists_ofText_iff_of_rearranged (ran : Source.read path text = .ok statements)
    (ran' : Source.read path' text' = .ok statements') (rearranged : Rearranged statements statements') :
    (∃ file, ofText path text first = .ok file) ↔ ∃ file', ofText path' text' first = .ok file' := by
  rw [exists_ofText_iff_unplaced ran, exists_ofText_iff_unplaced ran', rearranged.forms]

/-- But for the places, such texts declare the same under the same numbers. -/
theorem declarations_unplaced_congr (ran : Source.read path text = .ok statements)
    (ran' : Source.read path' text' = .ok statements') (rearranged : Rearranged statements statements')
    {file' : SourceFile} (formed : ofText path text first = .ok file)
    (formed' : ofText path' text' first = .ok file') :
    file.declarations.map unplaced = file'.declarations.map unplaced := by
  have sameDefault : defaultName? statements = defaultName? statements' := by
    unfold defaultName?
    rw [rearranged.exports]
  have samePairs : namedPairs statements = namedPairs statements' := by
    unfold namedPairs
    rw [rearranged.exports]
  calc file.declarations.map unplaced
      = ((mergedForms path first ((forms statements).map Form.unplaced)).map unplaced).map
          (withExports (defaultName? statements) (namedPairs statements)) :=
        declarations_unplaced ran formed
    _ = ((mergedForms path' first ((forms statements').map Form.unplaced)).map unplaced).map
          (withExports (defaultName? statements') (namedPairs statements')) := by
        rw [rearranged.forms, mergedForms_unplaced path' path, mergedForms_unplaced path' path',
          sameDefault, samePairs]
    _ = file'.declarations.map unplaced := (declarations_unplaced ran' formed').symm

/-- Two texts that differ in where their exports apart stand are both parsed or both refused. But for the places,
they declare the same under the same numbers, and find the same default export and the same declaration under each
name. -/
theorem declarations_of_rearranged (ran : Source.read path text = .ok statements)
    (ran' : Source.read path' text' = .ok statements') (rearranged : Rearranged statements statements') :
    ((∃ file, ofText path text first = .ok file) ↔
      ∃ file', ofText path' text' first = .ok file') ∧
    ∀ file file', ofText path text first = .ok file → ofText path' text' first = .ok file' →
      file.declarations.map unplaced = file'.declarations.map unplaced ∧
      file.defaultExport?.map unplaced = file'.defaultExport?.map unplaced ∧
      ∀ name, (file.exported? name).map unplaced = (file'.exported? name).map unplaced := by
  refine ⟨exists_ofText_iff_of_rearranged ran ran' rearranged, fun file file' formed formed' => ?_⟩
  have same := declarations_unplaced_congr ran ran' rearranged formed formed'
  refine ⟨same, ?_, ?_⟩
  · rw [defaultExport?_unplaced, defaultExport?_unplaced, same]
  · intro name
    rw [exported?_unplaced, exported?_unplaced, same]

/-- Statements declare the same enum of one member and after it the same function without parameters. -/
def sameEnumAndFunction (statements statements' : List Statement) : Bool :=
  match forms statements, forms statements' with
  | [⟨doc, kind, .enumeration name isConst [⟨member, none, none, _⟩] _⟩,
      ⟨none, functionKind, .function ⟨own, [], _⟩⟩],
    [⟨doc', kind', .enumeration name' isConst' [⟨member', none, none, _⟩] _⟩,
      ⟨none, functionKind', .function ⟨own', [], _⟩⟩] =>
    decide (doc.map DocBlock.unplaced = doc'.map DocBlock.unplaced ∧ kind = kind' ∧ name = name' ∧
      isConst = isConst' ∧ member = member' ∧ functionKind = functionKind' ∧ own = own')
  | _, _ => false

theorem forms_of_sameEnumAndFunction (same : sameEnumAndFunction statements statements' = true) :
    (forms statements).map Form.unplaced = (forms statements').map Form.unplaced := by
  unfold sameEnumAndFunction at same
  split at same
  · rename_i shape shape'
    rw [decide_eq_true_eq] at same
    simp [shape, shape', Form.unplaced, DeclarationSyntax.unplaced, EnumMemberSyntax.unplaced, same]
  · contradiction

def earlyText : String := "export{E as F,E as G}
export default f
/** Doc. */
enum E{A}
function f(){}"

def lateText : String := "/** Doc. */
enum E{A}
function f(){}
export{E as F}
export{E as G}
export default f"

/-- Exports before and after an enum and a function export the two the same way. -/
theorem declarations_of_rearranged_enum :
    ∃ statements statements' file file', Source.read "early.ts" earlyText = .ok statements ∧
      Source.read "late.ts" lateText = .ok statements' ∧ Rearranged statements statements' ∧
      ofText "early.ts" earlyText 1 = .ok file ∧ ofText "late.ts" lateText 1 = .ok file' ∧
      file.declarations.map unplaced = file'.declarations.map unplaced := by
  obtain ⟨statements, file, ran, formed, checked⟩ :=
    @exists_of_check "early.ts" earlyText 1 (fun statements _ =>
      (Source.read "late.ts" lateText).toOption.any fun statements' =>
        sameEnumAndFunction statements statements' &&
          decide (statements.flatMap exportPairs = statements'.flatMap exportPairs))
      (by decide +kernel)
  cases ran' : Source.read "late.ts" lateText with
  | error failure => simp [ran', Except.toOption] at checked
  | ok statements' =>
      simp only [ran', Except.toOption, Option.any_some, Bool.and_eq_true, decide_eq_true_eq]
        at checked
      have rearranged : Rearranged statements statements' :=
        ⟨forms_of_sameEnumAndFunction checked.1, checked.2⟩
      have both := @declarations_of_rearranged _ _ _ _ 1 _ _ ran ran' rearranged
      obtain ⟨file', formed'⟩ := both.1.mp ⟨file, formed⟩
      exact ⟨statements, statements', file, file', ran, rfl, rearranged, formed, formed',
        (both.2 file file' formed formed').1⟩

end SourceFile

end DeclaredOptions
