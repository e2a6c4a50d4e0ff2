import DeclaredOptions.Proofs.Declaration.Exports
import DeclaredOptions.Proofs.FirstOccurrence

/-!
Contract: the declarations of a file as its forms make them.

Owns:
- forms, which are what statements declare, with documentation and export in line;
- the first forms, which leave out the later forms of a function;
- the declaration that all forms of a function make together, and the parameters that are read for it;
- the exact outcome of collecting: which statements are collected, and the declarations they make.

Does not own: exports that stand apart from what they export.

## Why the induction is from the end

What a form adds depends on the forms before it alone: a first form comes last, and a later one is absorbed where
the first form of its name stands. The declarations of a list of forms are therefore compared with those of the
same list and one more form.
-/

set_option autoImplicit false

namespace DeclaredOptions

open Source

/-! ## Outcomes -/

/-- Where a step succeeds only with one value, and exactly if a condition holds, so does what goes on from it. -/
theorem bind_eq_ok_iff {ε α β : Type} {step : Except ε α} {condition : Prop} {value : α}
    (outcome : ∀ a, step = .ok a ↔ condition ∧ a = value) (next : α → Except ε β) (b : β) :
    step.bind next = .ok b ↔ condition ∧ next value = .ok b := by
  cases step with
  | ok a =>
      obtain ⟨holds, rfl⟩ := (outcome a).mp rfl
      exact (and_iff_right holds).symm
  | error failure =>
      constructor
      · intro impossible
        contradiction
      · rintro ⟨holds, -⟩
        have accepted := (outcome value).mpr ⟨holds, rfl⟩
        contradiction

/-! ## Parameters -/

/-- The parameter of a function that is written so; the receiver and a pattern are none. -/
def Parameter.ofSyntax? (p : ParameterSyntax) : Option Parameter :=
  match p.binding with
  | .name text => some ⟨text, p.type.map .ofSyntax, p.optional, p.initializer, p.rest, p.place.row + 1⟩
  | _ => none

/-- Parameters are read exactly if none is a pattern. -/
theorem Parameter.ofSyntaxAll_eq_ok_iff {path : String} {list : List ParameterSyntax}
    (parameters : List Parameter) :
    Parameter.ofSyntaxAll path list = .ok parameters ↔
      (∀ p ∈ list, p.binding ≠ .pattern) ∧ parameters = list.filterMap Parameter.ofSyntax? := by
  induction list generalizing parameters with
  | nil => simp [Parameter.ofSyntaxAll, eq_comm]
  | cons p rest inductionHypothesis =>
      rw [List.forall_mem_cons]
      unfold Parameter.ofSyntaxAll
      split
      · rename_i isReceiver
        simp [inductionHypothesis, Parameter.ofSyntax?, isReceiver]
      · rename_i isPattern
        simp [isPattern]
      · rename_i text isName
        have first : Parameter.ofSyntax? p = some ⟨text, p.type.map .ofSyntax, p.optional,
            p.initializer, p.rest, p.place.row + 1⟩ := by
          unfold Parameter.ofSyntax?
          rw [isName]
        rw [List.filterMap_cons_some first, isName]
        apply (bind_eq_ok_iff inductionHypothesis _ parameters).trans
        simp [pure, Except.pure, eq_comm]

/-! ## Forms -/

namespace Source

/-- What a statement declares, with its documentation and its export in line. -/
structure Form where
  doc : Option DocBlock
  kind : ExportKind
  declares : DeclarationSyntax

def Statement.form? : Statement → Option Form
  | .declaring doc kind form => some ⟨doc, kind, form⟩
  | _ => none

def forms (statements : List Statement) : List Form := statements.filterMap (·.form?)

theorem forms_concat (statements : List Statement) (last : Statement) :
    forms (statements ++ [last]) = forms statements ++ last.form?.toList := by
  unfold forms
  rw [List.filterMap_append]
  cases isForm : last.form? with
  | none => simp [isForm]
  | some f => simp [isForm]

def DeclarationSyntax.line : DeclarationSyntax → Nat
  | .function form => form.line
  | .interface _ _ line => line
  | .enumeration _ _ _ line => line

def DeclarationSyntax.body : DeclarationSyntax → DeclarationBody
  | .function form => .function (form.parameters.filterMap Parameter.ofSyntax?)
  | .interface _ properties _ => .interface (properties.map .ofSyntax)
  | .enumeration _ isConst members _ => .enumeration isConst (members.map .ofSyntax)

namespace Form

/-- The name of a function form that has one. -/
def functionName? (f : Form) : Option String :=
  match f.declares with
  | .function form => form.name
  | _ => none

def isAnonymous (f : Form) : Bool :=
  match f.declares with
  | .function form => form.name.isNone
  | _ => false

/-- The parameters of a function form; other forms have none. -/
def parameters (f : Form) : List ParameterSyntax :=
  match f.declares with
  | .function form => form.parameters
  | _ => []

/-- A form is a later one of an earlier one if both are of functions of one name. -/
def isLater (later earlier : Form) : Bool :=
  later.functionName?.isSome && later.functionName? == earlier.functionName?

/-- The forms that make one declaration with a form: those of its function, or itself if it has no such name. -/
def together (all : List Form) (f : Form) : List Form :=
  match f.functionName? with
  | some name => all.filter (·.functionName? == some name)
  | none => [f]

/-- The declaration that a first form makes: its own but for the documentation and the export, which are the
first ones that the forms of its function have. -/
def merged (path : String) (all : List Form) (f : Form) (id : Nat) : Declaration where
  name := f.declares.heading.2
  doc := (f.together all).findSome? (·.doc)
  exportKind := firstExport ((f.together all).map (·.kind))
  exportName := none
  id := id
  line := f.declares.line
  source := some path
  body := f.declares.body

end Form

/-- The forms without later forms of functions. -/
def firstForms (all : List Form) : List Form := all.eraseDupsBy Form.isLater

/-- The declarations that forms make, numbered from `first` on. -/
def mergedForms (path : String) (first : Nat) (all : List Form) : List Declaration :=
  ((firstForms all).zipIdx first).map fun (f, id) => f.merged path all id

/-! ## First forms -/

namespace Form

theorem isLater_iff {later earlier : Form} :
    later.isLater earlier = true ↔
      ∃ name, later.functionName? = some name ∧ earlier.functionName? = some name := by
  unfold isLater
  rw [Bool.and_eq_true, Option.isSome_iff_exists, beq_iff_eq]
  constructor
  · rintro ⟨⟨name, named⟩, same⟩
    exact ⟨name, named, same ▸ named⟩
  · rintro ⟨name, named, earlierNamed⟩
    exact ⟨⟨name, named⟩, named.trans earlierNamed.symm⟩

theorem any_isLater_iff {all : List Form} {f : Form} :
    all.any f.isLater = true ↔
      ∃ name, f.functionName? = some name ∧ name ∈ all.filterMap (·.functionName?) := by
  simp only [List.any_eq_true, isLater_iff, List.mem_filterMap]
  constructor
  · rintro ⟨earlier, member, name, named, earlierNamed⟩
    exact ⟨name, named, earlier, member, earlierNamed⟩
  · rintro ⟨name, named, earlier, member, earlierNamed⟩
    exact ⟨earlier, member, name, named, earlierNamed⟩

end Form

theorem firstForms_concat (all : List Form) (f : Form) :
    firstForms (all ++ [f]) =
      if (firstForms all).any f.isLater then firstForms all else firstForms all ++ [f] :=
  FirstOccurrence.eraseDupsBy_concat Form.isLater all f

/-- The first forms have each name of a function once, in the order in which the names first appear. -/
theorem functionNames_firstForms (all : List Form) :
    (firstForms all).filterMap (·.functionName?) = (all.filterMap (·.functionName?)).eraseDups := by
  induction all using List.reverseRecOn with
  | nil => rfl
  | append_singleton all f inductionHypothesis =>
      rw [firstForms_concat, List.filterMap_append]
      cases named : f.functionName? with
      | none =>
          have notLater : ¬(firstForms all).any f.isLater = true := by
            rw [Form.any_isLater_iff]
            simp [named]
          rw [if_neg notLater, List.filterMap_append, inductionHypothesis]
          simp [named]
      | some name =>
          have isLater : (firstForms all).any f.isLater = true ↔
              name ∈ all.filterMap (·.functionName?) := by
            rw [Form.any_isLater_iff, inductionHypothesis]
            simp [named]
          have single : [f].filterMap (·.functionName?) = [name] := by simp [named]
          rw [single, FirstOccurrence.eraseDups_concat]
          by_cases earlier : name ∈ all.filterMap (·.functionName?)
          · rw [if_pos (isLater.mpr earlier), if_pos earlier, inductionHypothesis]
          · rw [if_neg (mt isLater.mp earlier), if_neg earlier, List.filterMap_append, single,
              inductionHypothesis]

theorem any_isLater_firstForms (all : List Form) (f : Form) :
    (firstForms all).any f.isLater = all.any f.isLater := by
  rw [Bool.eq_iff_iff, Form.any_isLater_iff, Form.any_isLater_iff, functionNames_firstForms]
  simp only [List.mem_eraseDups]

theorem countP_isAnonymous_firstForms (all : List Form) :
    (firstForms all).countP (·.isAnonymous) = all.countP (·.isAnonymous) := by
  induction all using List.reverseRecOn with
  | nil => rfl
  | append_singleton all f inductionHypothesis =>
      rw [firstForms_concat, List.countP_append]
      split
      · rename_i isLater
        obtain ⟨name, named, -⟩ := Form.any_isLater_iff.mp isLater
        have notAnonymous : f.isAnonymous = false := by
          unfold Form.functionName? at named
          unfold Form.isAnonymous
          split at named
          · rw [named]
            rfl
          · contradiction
        simp [inductionHypothesis, notAnonymous]
      · rw [List.countP_append, inductionHypothesis]

/-! ## One more form -/

theorem firstExport_concat (kinds : List ExportKind) (kind : ExportKind) :
    firstExport (kinds ++ [kind]) =
      if firstExport kinds == .none then kind else firstExport kinds := by
  unfold firstExport
  rw [List.find?_append]
  cases found : kinds.find? (· != .none) with
  | none => cases kind <;> rfl
  | some other =>
      have isExport := List.find?_some found
      simp only [Option.some_or, Option.getD_some]
      rw [if_neg (by simpa using isExport)]

namespace Form

variable {path : String} {all : List Form}

theorem together_concat (f g : Form) :
    g.together (all ++ [f]) = g.together all ++ if f.isLater g then [f] else [] := by
  unfold together
  cases named : g.functionName? with
  | none =>
      have notLater : f.isLater g = false := by
        rw [← Bool.not_eq_true, isLater_iff]
        simp [named]
      simp [notLater]
  | some name =>
      have isLater : f.isLater g = (f.functionName? == some name) := by
        rw [Bool.eq_iff_iff, isLater_iff]
        simp [named]
      dsimp only
      rw [List.filter_append, isLater, List.filter_singleton, Bool.cond_eq_ite]

/-- A later form gives its documentation and its export to the first, where this has none. -/
theorem merged_concat (f g : Form) (id : Nat) :
    g.merged path (all ++ [f]) id =
      if f.isLater g then (g.merged path all id).absorb f.doc f.kind else g.merged path all id := by
  unfold merged
  rw [together_concat]
  split
  · unfold Declaration.absorb
    rw [List.findSome?_append, List.map_append, List.map_singleton, firstExport_concat]
    simp
  · rw [List.append_nil]

theorem merged_of_first {f : Form} (isFirst : all.any f.isLater = false) (id : Nat) :
    f.merged path (all ++ [f]) id =
      ⟨f.declares.heading.2, f.doc, f.kind, none, id, f.declares.line, some path, f.declares.body⟩ := by
  have alone : f.together (all ++ [f]) = [f] := by
    unfold together
    cases named : f.functionName? with
    | none => rfl
    | some name =>
        have noOther : all.filter (·.functionName? == some name) = [] := by
          rw [List.filter_eq_nil_iff]
          intro g member sameName
          have isLater := isLater_iff.mpr ⟨name, named, beq_iff_eq.mp sameName⟩
          exact List.any_eq_false.mp isFirst g member isLater
        simp [noOther, named]
  unfold merged
  rw [alone]
  simp [Declaration.firstExport_singleton]

theorem isFunction_merged (f : Form) (id : Nat) (name : String) :
    ((f.merged path all id).isFunction && (f.merged path all id).name == some name) =
      (f.functionName? == some name) := by
  unfold merged functionName? Declaration.isFunction DeclarationSyntax.body
    DeclarationSyntax.heading
  cases f.declares <;> rfl

end Form

end Source

namespace Declaration

theorem absorbInto?_map {α : Type} {values : List α} {make : α → Declaration} {own : α → Bool}
    {name : String} {doc : Option DocBlock} {kind : ExportKind}
    (isOwn : ∀ value ∈ values,
      ((make value).isFunction && (make value).name == some name) = own value)
    (once : values.Pairwise fun earlier later => ¬(own earlier = true ∧ own later = true)) :
    absorbInto? name doc kind (values.map make) =
      if values.any own then
        some (values.map fun value =>
          if own value then (make value).absorb doc kind else make value)
      else none := by
  induction values with
  | nil => rfl
  | cons value rest inductionHypothesis =>
      rw [List.forall_mem_cons] at isOwn
      rw [List.pairwise_cons] at once
      rw [List.map_cons, absorbInto?, isOwn.1, List.any_cons, List.map_cons]
      by_cases owned : own value = true
      · -- the first one that is its own absorbs the form, and there is no other
        have others : rest.map (fun other =>
            if own other then (make other).absorb doc kind else make other) = rest.map make := by
          refine List.map_congr_left fun other member => ?_
          rw [if_neg fun alsoOwned => once.1 other member ⟨owned, alsoOwned⟩]
        rw [if_pos owned, owned, Bool.true_or, if_pos rfl, if_pos rfl, others]
      · rw [if_neg owned, inductionHypothesis isOwn.2 once.2, Bool.not_eq_true _ |>.mp owned,
          Bool.false_or, if_neg Bool.false_ne_true]
        split
        · rfl
        · rfl

variable {path : String} {first next : Nat} {all : List Form}

theorem absorbInto?_mergedForms (name : String) (doc : Option DocBlock) (kind : ExportKind) :
    absorbInto? name doc kind (mergedForms path first all) =
      if (firstForms all).any (·.functionName? == some name) then
        some (((firstForms all).zipIdx first).map fun (g, id) =>
          if g.functionName? == some name then (g.merged path all id).absorb doc kind
          else g.merged path all id)
      else none := by
  have once : ((firstForms all).zipIdx first).Pairwise fun earlier later =>
      ¬((earlier.1.functionName? == some name) = true ∧
        (later.1.functionName? == some name) = true) := by
    have apart := FirstOccurrence.pairwise_eraseDupsBy Form.isLater all
    rw [← List.zipIdx_map_fst first (all.eraseDupsBy Form.isLater), List.pairwise_map] at apart
    refine apart.imp fun notLater both => notLater (Form.isLater_iff.mpr ⟨name, ?_, ?_⟩)
    · exact beq_iff_eq.mp both.2
    · exact beq_iff_eq.mp both.1
  have absorbed := @absorbInto?_map _ ((firstForms all).zipIdx first)
    (fun pair => pair.1.merged path all pair.2) (fun pair => pair.1.functionName? == some name)
    name doc kind (fun pair _ => Form.isFunction_merged pair.1 pair.2 name) once
  have anyFirst : ((firstForms all).zipIdx first).any (fun pair => pair.1.functionName? == some name) =
      (firstForms all).any (·.functionName? == some name) := by
    conv_rhs => rw [← List.zipIdx_map_fst first (firstForms all), List.any_map]
    rfl
  rw [anyFirst] at absorbed
  exact absorbed

theorem mergedForms_of_later {f : Form} (isLater : (firstForms all).any f.isLater = true) :
    mergedForms path first (all ++ [f]) = ((firstForms all).zipIdx first).map fun (g, id) =>
      if f.isLater g then (g.merged path all id).absorb f.doc f.kind else g.merged path all id := by
  unfold mergedForms
  rw [firstForms_concat, if_pos isLater]
  exact List.map_congr_left fun pair _ => Form.merged_concat f pair.1 pair.2

theorem mergedForms_of_first {f : Form} (isFirst : (firstForms all).any f.isLater = false) :
    mergedForms path first (all ++ [f]) = mergedForms path first all ++
      [⟨f.declares.heading.2, f.doc, f.kind, none, first + (mergedForms path first all).length,
        f.declares.line, some path, f.declares.body⟩] := by
  have last := @Form.merged_of_first path all f (any_isLater_firstForms all f ▸ isFirst)
  -- the new form is a later one of none, so that what the others make stays as it is
  have others : ((firstForms all).zipIdx first).map (fun (g, id) => g.merged path (all ++ [f]) id) =
      mergedForms path first all := by
    refine List.map_congr_left fun pair member => ?_
    have apart := List.any_eq_false.mp isFirst pair.1 (List.fst_mem_of_mem_zipIdx member)
    exact (Form.merged_concat f pair.1 pair.2).trans (if_neg apart)
  conv_lhs => unfold mergedForms
  rw [firstForms_concat, isFirst, if_neg Bool.false_ne_true, List.zipIdx_append, List.map_append,
    others]
  simp [last, mergedForms]

/-- A later form makes what all forms with it make, whatever its parameters are. -/
theorem add_of_later {f : Form} (isLater : (firstForms all).any f.isLater = true) (next : Nat) :
    add path next f.doc f.kind (mergedForms path first all) f.declares =
      .ok (mergedForms path first (all ++ [f])) := by
  obtain ⟨name, named, -⟩ := Form.any_isLater_iff.mp isLater
  have own : f.isLater = fun g => g.functionName? == some name := by
    funext g
    rw [Bool.eq_iff_iff, Form.isLater_iff]
    simp [named]
  rw [mergedForms_of_later isLater]
  rw [own] at isLater ⊢
  unfold Form.functionName? at named
  split at named
  · rename_i form isFunction
    rw [isFunction]
    simp only [add]
    rw [named, Option.bind_some, absorbInto?_mergedForms, if_pos isLater]
  · contradiction

theorem absorbInto?_of_first {f : Form} {form : FunctionSyntax} (written : f.declares = .function form)
    (isFirst : (firstForms all).any f.isLater = false) :
    (form.name.bind fun name => absorbInto? name f.doc f.kind (mergedForms path first all)) =
      none := by
  cases named : form.name with
  | none => rfl
  | some name =>
      have isNamed : f.functionName? = some name := by
        rw [Form.functionName?, written]
        exact named
      have noOwn : (firstForms all).any (·.functionName? == some name) = false := by
        rw [← isFirst]
        congr 1
        funext g
        rw [Bool.eq_iff_iff, Form.isLater_iff]
        simp [isNamed]
      rw [Option.bind_some, absorbInto?_mergedForms, noOwn, if_neg Bool.false_ne_true]

/-- A first form makes what all forms with it make, and is refused if it has a pattern for a parameter. -/
theorem add_of_first {f : Form} (isFirst : (firstForms all).any f.isLater = false)
    (collected : List Declaration) :
    add path (first + (mergedForms path first all).length) f.doc f.kind (mergedForms path first all)
        f.declares = .ok collected ↔
      (∀ p ∈ f.parameters, p.binding ≠ .pattern) ∧
        collected = mergedForms path first (all ++ [f]) := by
  rw [mergedForms_of_first isFirst]
  unfold Form.parameters
  cases written : f.declares with
  | interface name properties line =>
      simp [add, eq_comm, DeclarationSyntax.heading, DeclarationSyntax.line, DeclarationSyntax.body]
  | enumeration name isConst members line =>
      simp [add, eq_comm, DeclarationSyntax.heading, DeclarationSyntax.line, DeclarationSyntax.body]
  | function form =>
      simp only [add]
      rw [absorbInto?_of_first written isFirst]
      apply (bind_eq_ok_iff Parameter.ofSyntaxAll_eq_ok_iff _ collected).trans
      simp [pure, Except.pure, eq_comm, DeclarationSyntax.heading, DeclarationSyntax.line,
        DeclarationSyntax.body]

/-! ## All forms -/

theorem collectFrom_concat {declared : List Declaration} (statements : List Statement)
    (last : Statement) :
    collectFrom path first declared (statements ++ [last]) =
      (collectFrom path first declared statements).bind fun more =>
        collectFrom path first more [last] := by
  induction statements generalizing declared with
  | nil => rfl
  | cons statement rest inductionHypothesis =>
      cases statement with
      | declaring doc kind form =>
          rw [List.cons_append, collectFrom, collectFrom]
          cases add path (first + declared.length) doc kind declared form with
          | ok next => exact inductionHypothesis
          | error failure => rfl
      | _ => exact inductionHypothesis

theorem collectFrom_singleton_eq_ok_iff {declared collected : List Declaration} {doc : Option DocBlock}
    {kind : ExportKind} {form : DeclarationSyntax} :
    collectFrom path first declared [.declaring doc kind form] = .ok collected ↔
      add path (first + declared.length) doc kind declared form = .ok collected := by
  rw [collectFrom]
  cases add path (first + declared.length) doc kind declared form with
  | ok next => simp [collectFrom]
  | error failure => simp

/-- Statements are collected exactly if no first form has a pattern for a parameter, and they make what their
forms make together. -/
theorem collectFrom_eq_ok_iff (statements : List Statement) (collected : List Declaration) :
    collectFrom path first [] statements = .ok collected ↔
      (∀ f ∈ firstForms (forms statements), ∀ p ∈ f.parameters, p.binding ≠ .pattern) ∧
        collected = mergedForms path first (forms statements) := by
  induction statements using List.reverseRecOn generalizing collected with
  | nil => simp [collectFrom, forms, firstForms, mergedForms, eq_comm]
  | append_singleton statements last inductionHypothesis =>
      have steps : collectFrom path first [] (statements ++ [last]) = .ok collected ↔
          (∀ f ∈ firstForms (forms statements), ∀ p ∈ f.parameters, p.binding ≠ .pattern) ∧
            collectFrom path first (mergedForms path first (forms statements)) [last] =
              .ok collected := by
        rw [collectFrom_concat]
        exact bind_eq_ok_iff inductionHypothesis _ collected
      rw [steps]
      -- only what declares is a form, and it is either a later one or a first one
      cases last with
      | declaring doc kind form =>
          have more : forms (statements ++ [.declaring doc kind form]) =
              forms statements ++ [⟨doc, kind, form⟩] := forms_concat _ _
          rw [more, collectFrom_singleton_eq_ok_iff, firstForms_concat]
          cases isLater : (firstForms (forms statements)).any (Form.isLater ⟨doc, kind, form⟩) with
          | true =>
              have added := @add_of_later path first (forms statements) _ isLater
                (first + (mergedForms path first (forms statements)).length)
              rw [added, if_pos rfl, Except.ok.injEq, eq_comm]
          | false =>
              rw [add_of_first isLater, if_neg Bool.false_ne_true, List.forall_mem_append,
                List.forall_mem_singleton, and_assoc]
      | _ =>
          rw [forms_concat]
          simp [Statement.form?, collectFrom, eq_comm]

end Declaration

end DeclaredOptions
