import DeclaredOptions.Proofs.Declaration.Forms

/-!
Contract: the functions of a file, each merged of all forms that its text has of it.

Owns:
- the functions of a file by name, and those without a name;
- the statement that a declaration comes from;
- the texts that are parsed, as far as parameters decide it.

Does not own: what one form adds to the forms before it.
-/

set_option autoImplicit false

namespace DeclaredOptions

open Source

namespace Source

variable {path : String} {first : Nat} {all : List Form}

theorem map_mergedForms {α : Type} {key : Declaration → α} {formKey : Form → α}
    (keeps : ∀ f id, key (f.merged path all id) = formKey f) :
    (mergedForms path first all).map key = (firstForms all).map formKey := by
  conv_rhs => rw [← List.zipIdx_map_fst first (firstForms all), List.map_map]
  unfold mergedForms
  rw [List.map_map]
  exact List.map_congr_left fun pair _ => keeps pair.1 pair.2

end Source

namespace Declaration

/-- The name of a function that has one. -/
def functionName? (d : Declaration) : Option String := if d.isFunction then d.name else none

def isAnonymous (d : Declaration) : Bool := d.isFunction && d.name.isNone

theorem isFunction_withExports (default? : Option String) (pairs : List (String × String))
    (d : Declaration) : (d.withExports default? pairs).isFunction = d.isFunction := by
  obtain ⟨kind, name, equal⟩ := withExports_eq default? pairs d
  rw [equal]
  rfl

theorem functionName?_merged {path : String} {all : List Form} (f : Form) (id : Nat) :
    (f.merged path all id).functionName? = f.functionName? := by
  unfold Form.merged Form.functionName? functionName? isFunction DeclarationSyntax.body
    DeclarationSyntax.heading
  cases f.declares <;> rfl

theorem isAnonymous_merged {path : String} {all : List Form} (f : Form) (id : Nat) :
    (f.merged path all id).isAnonymous = f.isAnonymous := by
  unfold Form.merged Form.isAnonymous isAnonymous isFunction DeclarationSyntax.body
    DeclarationSyntax.heading
  cases f.declares <;> rfl

end Declaration

namespace SourceFile

open Declaration hiding id

variable {path text : String} {first : Nat} {statements : List Statement}

theorem filterMap_name_functions (file : SourceFile) :
    file.functions.filterMap (·.name) = (file.declarations.map functionName?).filterMap id := by
  unfold functions
  rw [List.filterMap_filter, List.filterMap_map]
  rfl

theorem countP_isNone_functions (file : SourceFile) :
    file.functions.countP (·.name.isNone) = (file.declarations.map isAnonymous).countP id := by
  unfold functions
  rw [List.countP_filter, List.countP_map]
  exact List.countP_congr fun d _ => by simp [isAnonymous, and_comm]

theorem ofText_eq_ok_iff (ran : Source.read path text = .ok statements) (file : SourceFile) :
    ofText path text first = .ok file ↔
      (∀ f ∈ firstForms (forms statements), ∀ p ∈ f.parameters, p.binding ≠ .pattern) ∧
        file = ⟨path, (mergedForms path first (forms statements)).map
          (withExports (defaultName? statements) (namedPairs statements)), importsOf statements⟩ := by
  unfold ofText
  rw [ran]
  dsimp only
  unfold ofStatements
  apply (bind_eq_ok_iff (collectFrom_eq_ok_iff statements) _ file).trans
  simp [pure, Except.pure, eq_comm]

theorem exists_ofText_iff (ran : Source.read path text = .ok statements) :
    (∃ file, ofText path text first = .ok file) ↔
      ∀ f ∈ firstForms (forms statements), ∀ p ∈ f.parameters, p.binding ≠ .pattern := by
  constructor
  · rintro ⟨file, formed⟩
    exact ((ofText_eq_ok_iff ran file).mp formed).1
  · intro plain
    exact ⟨_, (ofText_eq_ok_iff ran _).mpr ⟨plain, rfl⟩⟩

/-- A declaration of a file has the body and the name of a statement of its text. -/
theorem exists_declaring_of_mem {file : SourceFile} (ran : Source.read path text = .ok statements)
    (formed : ofText path text first = .ok file) {d : Declaration} (declared : d ∈ file.declarations) :
    ∃ doc kind form, .declaring doc kind form ∈ statements ∧ d.body = form.body ∧
      d.name = form.heading.2 := by
  rw [((ofText_eq_ok_iff ran file).mp formed).2] at declared
  obtain ⟨merged, isMerged, rfl⟩ := List.mem_map.mp declared
  obtain ⟨⟨f, id⟩, isFirst, rfl⟩ := List.mem_map.mp isMerged
  have inFirst : f ∈ firstForms (forms statements) := by
    have paired := List.mem_map_of_mem (f := Prod.fst) isFirst
    rwa [List.zipIdx_map_fst] at paired
  have isForm := (FirstOccurrence.eraseDupsBy_sublist ..).subset inFirst
  obtain ⟨statement, isStatement, itsForm⟩ := List.mem_filterMap.mp isForm
  obtain ⟨kind, name, equal⟩ := withExports_eq (defaultName? statements) (namedPairs statements)
    (f.merged path (forms statements) id)
  rw [equal]
  cases statement with
  | declaring doc kind form =>
      cases itsForm
      exact ⟨doc, kind, form, isStatement, rfl, rfl⟩
  | _ => contradiction

/-- A text is refused only for a pattern among the parameters of a first form. Its functions have each name once, in
the order in which the names appear, and one of them is anonymous for each anonymous form. Each first form takes the
next number and makes one declaration, with its own parameters and the first documentation and the first export that
the forms of its name have in line; then the exports that stand apart apply. -/
theorem functions_of_forms (ran : Source.read path text = .ok statements) :
    ((∃ file, ofText path text first = .ok file) ↔
      ∀ f ∈ firstForms (forms statements), ∀ p ∈ f.parameters, p.binding ≠ .pattern) ∧
    ∀ file, ofText path text first = .ok file →
      file.functions.filterMap (·.name) =
        ((forms statements).filterMap (·.functionName?)).eraseDups ∧
      file.functions.countP (·.name.isNone) = (forms statements).countP (·.isAnonymous) ∧
      file.declarations = (((firstForms (forms statements)).zipIdx first).map fun (f, id) =>
        (f.merged path (forms statements) id).withExports (defaultName? statements)
          (namedPairs statements)) := by
  constructor
  · exact exists_ofText_iff ran
  · intro file formed
    obtain ⟨-, rfl⟩ := (ofText_eq_ok_iff ran file).mp formed
    have names : ((mergedForms path first (forms statements)).map (withExports
        (defaultName? statements) (namedPairs statements))).map functionName? =
        (firstForms (forms statements)).map (·.functionName?) := by
      rw [List.map_map]
      refine map_mergedForms fun f id => ?_
      rw [← functionName?_merged f id, Function.comp_apply, functionName?, withExports_name,
        isFunction_withExports, functionName?]
    have anonymous : ((mergedForms path first (forms statements)).map (withExports
        (defaultName? statements) (namedPairs statements))).map isAnonymous =
        (firstForms (forms statements)).map (·.isAnonymous) := by
      rw [List.map_map]
      refine map_mergedForms fun f id => ?_
      rw [← isAnonymous_merged f id, Function.comp_apply, isAnonymous, withExports_name,
        isFunction_withExports, isAnonymous]
    refine ⟨?_, ?_, ?_⟩
    · rw [filterMap_name_functions, names, ← functionNames_firstForms, List.filterMap_map]
      rfl
    · rw [countP_isNone_functions, anonymous, ← countP_isAnonymous_firstForms, List.countP_map]
      rfl
    · unfold mergedForms
      rw [List.map_map]
      rfl

def greetText : String := "function greet(name: string): void;
export default function () {}
/** Greets. */
export function greet({name}) {}
function wave(name) {}"

/-- Three forms of functions with a name make two functions, though the second form of the first has a pattern. -/
theorem functions_of_forms_greet :
    ∃ statements file, Source.read "greet.ts" greetText = .ok statements ∧
      ofText "greet.ts" greetText 1 = .ok file ∧
      ((forms statements).any fun f => f.parameters.any (·.binding == .pattern)) = true ∧
      file.functions.filterMap (·.name) = ["greet", "wave"] ∧
      file.functions.countP (·.name.isNone) = 1 := by
  obtain ⟨statements, file, ran, formed, checked⟩ :=
    @exists_of_check "greet.ts" greetText 1 (fun statements _ =>
      ((forms statements).any fun f => f.parameters.any (·.binding == .pattern)) &&
        decide ((forms statements).filterMap (·.functionName?) = ["greet", "greet", "wave"]) &&
        decide ((forms statements).countP (·.isAnonymous) = 1)) (by decide +kernel)
  simp only [Bool.and_eq_true, decide_eq_true_eq] at checked
  obtain ⟨⟨hasPattern, names⟩, anonymous⟩ := checked
  obtain ⟨functionNames, count, -⟩ := (functions_of_forms ran).2 file formed
  rw [names] at functionNames
  rw [anonymous] at count
  exact ⟨statements, file, ran, formed, hasPattern, functionNames.trans (by decide), count⟩

end SourceFile

end DeclaredOptions
