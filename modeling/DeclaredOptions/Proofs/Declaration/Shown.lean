import DeclaredOptions.Proofs.Declaration.Exports
import DeclaredOptions.Proofs.FirstOccurrence
import DeclaredOptions.Proofs.Path.Specifier
import DeclaredOptions.Schema.Assembly

/-!
Contract: the names that the functions of a file are shown by.

Owns:
- the names that functions have of their own, no two of which are alike;
- the stem of the file, which is the name of all that have none;
- the files whose exported functions are shown by names of their own.

Does not own: what is written under a name.

All forms of a function with a name are one declaration. A function without a name is shown by the stem of its file,
and nothing keeps another function from having this name, or a second one from having none.
-/

set_option autoImplicit false

namespace DeclaredOptions

open Source

/-! ## Names without slashes -/

theorem Source.IsWord.slash_not_mem {text : List Char} (word : IsWord text) : '/' ∉ text := by
  intro member
  have slash := word.chars _ member
  revert slash
  decide

namespace Path

theorem lastComponent_mem (path : String) : lastComponent path ∈ components path := by
  have there : components path ≠ [] := by
    unfold components Text.cutAt
    simp [Text.pieces_ne_nil]
  rw [lastComponent, List.getLastD_eq_getLast?, List.getLast?_eq_some_getLast there]
  exact List.getLast_mem there

theorem slash_not_mem_stem (path : String) : '/' ∉ (stem path).toList := by
  intro member
  exact slash_not_mem (lastComponent_mem _) (mem_of_mem_withoutSourceSuffix member)

end Path

/-! ## Names of their own -/

namespace SourceFile

variable {path text : String} {first : Nat} {file : SourceFile}

theorem distinct_functions (formed : ofText path text first = .ok file) :
    Declaration.Distinct file.functions := by
  obtain ⟨statements, -, appear⟩ := headings_ofText formed
  have apart : (headings statements).Pairwise fun earlier later => ¬later.isLaterForm earlier :=
    FirstOccurrence.pairwise_eraseDupsBy Heading.isLaterForm _
  rw [← appear, List.pairwise_map] at apart
  unfold Declaration.Distinct functions
  rw [List.Nodup, List.pairwise_filterMap, List.pairwise_filter]
  refine apart.imp fun {d e} notLater isFunction alsoFunction name named other otherNamed same => ?_
  have kinds : d.kind = "function" ∧ e.kind = "function" :=
    ⟨Declaration.kind_eq_function_iff.mpr isFunction, Declaration.kind_eq_function_iff.mpr alsoFunction⟩
  apply notLater
  simp [Heading.isLaterForm, Declaration.heading, Option.mem_def.mp named, Option.mem_def.mp otherNamed,
    kinds, same]

section

variable (formed : ofText path text first = .ok file) {d : Declaration} (member : d ∈ file.declarations)

include formed member

theorem displayName_of_named {name : String} (named : d.name = some name) :
    d.displayName = name ∧ '/' ∉ name.toList := by
  have word := ((numbered_ofText formed).2.wellNamed d member).word name named
  have there : name ≠ "" := by
    intro isEmpty
    exact word.nonempty (by rw [isEmpty]; rfl)
  constructor
  · unfold Declaration.displayName
    rw [named, present_of_ne there]
  · exact word.slash_not_mem

theorem displayName_of_anonymous (anonymous : d.name = none) : d.displayName = Path.stem file.path := by
  obtain ⟨isPath, numbered⟩ := numbered_ofText formed
  unfold Declaration.displayName
  rw [anonymous, numbered.source d member, isPath]
  rfl

theorem displayName_eq_stem_iff :
    d.displayName = Path.stem file.path ↔ d.name = none ∨ d.name = some (Path.stem file.path) := by
  cases isNamed : d.name with
  | none => exact iff_of_true (displayName_of_anonymous formed member isNamed) (.inl rfl)
  | some name => simp [(displayName_of_named formed member isNamed).1]

theorem slash_not_mem_displayName : '/' ∉ d.displayName.toList := by
  cases isNamed : d.name with
  | none =>
      rw [displayName_of_anonymous formed member isNamed]
      exact Path.slash_not_mem_stem _
  | some name =>
      obtain ⟨shown, bare⟩ := displayName_of_named formed member isNamed
      rw [shown]
      exact bare

end

/-! ## Exported functions -/

theorem mem_exportedFunctions {d : Declaration} :
    d ∈ Resolve.exportedFunctions file ↔
      d ∈ file.declarations ∧ d.isFunction ∧ d.exportKind ≠ .none := by
  unfold Resolve.exportedFunctions functions
  cases kind : d.exportKind <;> simp [kind]

/-- The exported functions of a file, each once: the default exports come before the others. -/
theorem exportedFunctions_perm (file : SourceFile) :
    (Resolve.exportedFunctions file).Perm (file.functions.filter (·.exportKind != .none)) := by
  have split := List.filter_append_perm (fun d : Declaration => d.exportKind == .asDefault)
    (file.functions.filter (·.exportKind != .none))
  rw [List.filter_filter, List.filter_filter] at split
  have defaults : file.functions.filter (fun d => d.exportKind == .asDefault && d.exportKind != .none) =
      file.functions.filter (·.exportKind == .asDefault) := by
    refine List.filter_congr fun d _ => ?_
    cases d.exportKind <;> rfl
  have others : file.functions.filter (fun d => !(d.exportKind == .asDefault) && d.exportKind != .none) =
      file.functions.filter (·.exportKind == .named) := by
    refine List.filter_congr fun d _ => ?_
    cases d.exportKind <;> rfl
  rw [defaults, others] at split
  exact split

/-- An exported function without a name is the only one that is shown by the stem of the file. -/
def Unclashing (file : SourceFile) : Prop :=
  ∀ d ∈ Resolve.exportedFunctions file, d.name = none →
    ∀ e ∈ Resolve.exportedFunctions file, e.name = none ∨ e.name = some (Path.stem file.path) → e.id = d.id

/-- The exported functions of a file are shown by names of their own exactly if none of them clashes with one that
is shown by the stem for want of a name. -/
theorem nodup_displayName_iff (formed : ofText path text first = .ok file) :
    ((Resolve.exportedFunctions file).map (·.displayName)).Nodup ↔ file.Unclashing := by
  have ids : (file.declarations.map (·.id)).Nodup := (numbered_ofText formed).2.ids ▸ List.nodup_range'
  have declared : ∀ d ∈ Resolve.exportedFunctions file, d ∈ file.declarations :=
    fun d member => (mem_exportedFunctions.mp member).1
  have isFunction : ∀ d ∈ Resolve.exportedFunctions file, d ∈ file.functions :=
    fun d member => List.mem_filter.mpr ⟨declared d member, (mem_exportedFunctions.mp member).2.1⟩
  have eachOnce : (Resolve.exportedFunctions file).Nodup :=
    (exportedFunctions_perm file).nodup_iff.mpr (((ids.of_map _).filter _).filter _)
  have byId : ∀ d ∈ Resolve.exportedFunctions file, ∀ e ∈ Resolve.exportedFunctions file,
      d.id = e.id → d = e :=
    fun d member e other => List.inj_on_of_nodup_map ids (declared d member) (declared e other)
  rw [List.nodup_map_iff_inj_on eachOnce]
  constructor
  · intro apart d member anonymous e other clash
    have shown := displayName_of_anonymous formed (declared d member) anonymous
    have otherShown := (displayName_eq_stem_iff formed (declared e other)).mpr clash
    rw [apart e other d member (otherShown.trans shown.symm)]
  · intro unclashing d member e other same
    -- Names of their own differ within a file, so that only the stem can be shown twice.
    cases isNamed : d.name with
    | none =>
        have shown := displayName_of_anonymous formed (declared d member) isNamed
        have clash := (displayName_eq_stem_iff formed (declared e other)).mp (same.symm.trans shown)
        exact byId d member e other (unclashing d member isNamed e other clash).symm
    | some name =>
        cases isNamedToo : e.name with
        | none =>
            have shown := displayName_of_anonymous formed (declared e other) isNamedToo
            have clash := (displayName_eq_stem_iff formed (declared d member)).mp (same.trans shown)
            exact byId d member e other (unclashing e other isNamedToo d member clash)
        | some last =>
            have shown := (displayName_of_named formed (declared d member) isNamed).1
            have otherShown := (displayName_of_named formed (declared e other) isNamedToo).1
            have sameName : last = name := otherShown.symm.trans (same.symm.trans shown)
            rw [sameName] at isNamedToo
            exact (distinct_functions formed).eq_of_name (isFunction e other) isNamedToo
              (isFunction d member) isNamed

end SourceFile

end DeclaredOptions
