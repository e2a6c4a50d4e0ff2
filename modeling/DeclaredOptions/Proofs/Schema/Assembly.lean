import DeclaredOptions.Proofs.Schema.Members

/-!
Contract: what a command's schema is put together from.

Owns:
- the members of a command, parameters before properties, and the resolution of their types in a row;
- the symbol check, which passes exactly if a name stands for one declaration;
- a command's schema, taken apart into the types of its members, its table and its own reference.

Does not own: which projects arise, and how schemas are written.
-/

set_option autoImplicit false

namespace DeclaredOptions

/-! ## Members of a command -/

def PairedOptions.members (paired : PairedOptions) : List DeclaredMember :=
  paired.interface.properties.map (.ofProperty paired.file)

/-- The members of a command: the parameters of a function, then the properties of the interface that goes
with it. -/
def commandMembers (file : Option SourceFile) (d : Declaration) (paired : Option PairedOptions) :
    List DeclaredMember :=
  d.parameters.map (.ofParameter file) ++ (paired.map (·.members)).getD []

/-- The types of a command's members, resolved one after the other. -/
def Resolve.memberTypes (file : Option SourceFile) (d : Declaration)
    (paired : Option PairedOptions) : Resolve (List (Descriptor × Option Reference)) :=
  (commandMembers file d paired).mapM DeclaredMember.resolve

/-! ## The symbol check -/

/-- No name stands for two declarations. -/
def Unambiguous (refs : List Reference) : Prop :=
  ∀ a ∈ refs, ∀ b ∈ refs, a.name = b.name → a.id = b.id

private theorem unambiguous_congr {refs others : List Reference}
    (same : ∀ ref, ref ∈ refs ↔ ref ∈ others) : Unambiguous refs ↔ Unambiguous others := by
  unfold Unambiguous
  simp only [same]

private theorem unambiguous_cons {ref : Reference} {seen : List Reference}
    (unambiguous : Unambiguous seen) (agrees : ∀ other ∈ seen, other.name = ref.name →
      other.id = ref.id) : Unambiguous (ref :: seen) := by
  intro a first b second sameName
  rcases List.mem_cons.mp first with rfl | aSeen
  · rcases List.mem_cons.mp second with rfl | bSeen
    · rfl
    · exact (agrees b bSeen sameName.symm).symm
  · rcases List.mem_cons.mp second with rfl | bSeen
    · exact agrees a aSeen sameName
    · exact unambiguous a aSeen b bSeen sameName

/-- A symbol that agrees with those before it is passed over, and looked at from then on. -/
theorem clashAmong?_cons_of_unambiguous {ref : Reference} {seen : List Reference}
    (unambiguous : Unambiguous (ref :: seen)) (rest : List Reference) :
    clashAmong? seen (ref :: rest) = clashAmong? (ref :: seen) rest := by
  rw [clashAmong?]
  split
  · rename_i other found
    have otherSeen : other ∈ seen := List.mem_of_find?_eq_some found
    have otherName : other.name = ref.name := by simpa using List.find?_some found
    have sameId := unambiguous other (List.mem_cons_of_mem _ otherSeen) ref List.mem_cons_self otherName
    have isSame : other.same ref = true := by simpa [Reference.same] using sameId
    rw [if_pos isSame]
  · rfl

/-- A symbol that has the name of one before it, but not its declaration, is found together with some symbol of
that declaration. -/
theorem clashAmong?_cons_of_clash {ref other : Reference} {seen : List Reference}
    (unambiguous : Unambiguous seen) (otherSeen : other ∈ seen) (sameName : other.name = ref.name)
    (differ : other.id ≠ ref.id) (rest : List Reference) :
    ∃ found ∈ seen, found.id = other.id ∧ clashAmong? seen (ref :: rest) = some (found, ref) := by
  rw [clashAmong?]
  split
  · rename_i found isFound
    have foundSeen : found ∈ seen := List.mem_of_find?_eq_some isFound
    have foundName : found.name = ref.name := by simpa using List.find?_some isFound
    have sameId := unambiguous found foundSeen other otherSeen (foundName.trans sameName.symm)
    have notSame : ¬found.same ref = true := by simpa [Reference.same, sameId] using differ
    exact ⟨found, foundSeen, sameId, if_neg notSame⟩
  · rename_i notFound
    have absent := List.find?_eq_none.mp notFound other otherSeen
    simp [sameName] at absent

/-- No clash is found exactly if no name stands for two declarations, where that holds of the symbols before. -/
theorem clashAmong?_eq_none_iff {seen refs : List Reference} (unambiguous : Unambiguous seen) :
    clashAmong? seen refs = none ↔ Unambiguous (refs ++ seen) := by
  induction refs generalizing seen with
  | nil =>
      rw [List.nil_append]
      exact iff_of_true rfl unambiguous
  | cons ref rest inductionHypothesis =>
      by_cases agrees : ∀ other ∈ seen, other.name = ref.name → other.id = ref.id
      · have unambiguousNow := unambiguous_cons unambiguous agrees
        rw [clashAmong?_cons_of_unambiguous unambiguousNow, inductionHypothesis unambiguousNow]
        exact unambiguous_congr fun other => by simp [or_left_comm]
      · push Not at agrees
        obtain ⟨other, otherSeen, sameName, differ⟩ := agrees
        obtain ⟨found, -, -, isFound⟩ :=
          clashAmong?_cons_of_clash unambiguous otherSeen sameName differ rest
        refine iff_of_false (by simp [isFound]) fun whole => differ ?_
        exact whole other (by simp [otherSeen]) ref (by simp) sameName

/-- The symbol check passes exactly if no name stands for two declarations. -/
theorem checkSymbols_eq_ok_iff {command : Option Reference} {table : ReferenceTable} :
    checkSymbols command table = .ok () ↔ Unambiguous (command.toList ++ table.toList) := by
  have whole : clashAmong? [] (command.toList ++ table.toList) = none ↔ _ :=
    clashAmong?_eq_none_iff (by simp [Unambiguous])
  rw [List.append_nil] at whole
  rw [← whole]
  unfold checkSymbols
  split
  · rename_i noClash
    exact iff_of_true rfl noClash
  · rename_i clash
    exact iff_of_false (by simp) (by simp [clash])

/-! ## Schemas -/

namespace Resolve

variable {start final : Session}

theorem ends_pairedSchema {config : Config} {table result : ReferenceTable}
    {paired : Option PairedOptions} {options : List OptionSchema}
    (ends : Step.Ends (pairedSchema config table paired) start (.ok (options, result)) final) :
    ∃ types, Step.Ends (((paired.map (·.members)).getD []).mapM DeclaredMember.resolve) start
        (.ok types) final ∧
      List.Forall₂ (fun schema type => schema.GoesWith type.1) options types ∧
      ReferenceTable.Gathers table (types.map (·.2)) result := by
  cases paired with
  | none =>
      obtain ⟨same, rfl⟩ := Step.ends_pure.mp ends
      cases same
      exact ⟨[], Step.ends_pure.mpr ⟨rfl, rfl⟩, .nil, ReferenceTable.gathers_addAll rfl⟩
  | some paired =>
      unfold pairedSchema at ends
      obtain ⟨schema, _, builds, afterSchema⟩ := Step.ends_bind_ok.mp ends
      obtain ⟨_, _, merges, ending⟩ := Step.ends_bind_ok.mp afterSchema
      obtain ⟨merged, rfl⟩ := ends_ofExcept_ok.mp merges
      obtain ⟨same, rfl⟩ := Step.ends_pure.mp ending
      cases same
      unfold optionsSchema at builds
      obtain ⟨⟨collected, own⟩, _, collects, ending⟩ := Step.ends_bind_ok.mp builds
      obtain ⟨same, rfl⟩ := Step.ends_pure.mp ending
      cases same
      obtain ⟨types, typed, goWith, added⟩ :=
        ends_collect (fun property => describes_option _ _ property) collects
      have gathers := ReferenceTable.gathers_addAll added
      exact ⟨types, typed, goWith, ReferenceTable.gathers_merge gathers.freeze merged⟩

/-- A command's schema comes from the types of its members: its options go with them, its table gathers
their references, and the symbol check passes. -/
theorem ends_commandSchema {file : Option SourceFile} {config : Config} {d : Declaration}
    {paired : Option PairedOptions} {schema : CommandSchema}
    (ends : Step.Ends (commandSchema file config d paired) start (.ok schema) final) :
    ∃ types, Step.Ends (memberTypes file d paired) start (.ok types) final ∧
      List.Forall₂ (fun option type => option.GoesWith type.1)
        (schema.positionals ++ schema.options) types ∧
      ReferenceTable.Gathers .empty (types.map (·.2)) schema.references ∧
      schema.command = some (.toCommand d) ∧
      Unambiguous (.toCommand d :: schema.references.toList) := by
  unfold commandSchema at ends
  obtain ⟨⟨positionals, own⟩, middle, collects, afterOwn⟩ := Step.ends_bind_ok.mp ends
  obtain ⟨⟨options, table⟩, _, pairs, afterOptions⟩ := Step.ends_bind_ok.mp afterOwn
  obtain ⟨_, _, names, afterNames⟩ := Step.ends_bind_ok.mp afterOptions
  obtain ⟨-, rfl⟩ := ends_ofExcept_ok.mp names
  obtain ⟨_, _, checks, ending⟩ := Step.ends_bind_ok.mp afterNames
  obtain ⟨passes, rfl⟩ := ends_ofExcept_ok.mp checks
  obtain ⟨same, rfl⟩ := Step.ends_pure.mp ending
  cases same
  obtain ⟨ownTypes, ownTyped, ownGoWith, ownAdded⟩ :=
    ends_collect (fun parameter => describes_positional ⟨file, some d⟩ parameter) collects
  obtain ⟨moreTypes, moreTyped, moreGoWith, gathersMore⟩ := ends_pairedSchema pairs
  refine ⟨ownTypes ++ moreTypes, ?_, List.rel_append ownGoWith moreGoWith, ?_, rfl,
    checkSymbols_eq_ok_iff.mp passes⟩
  · unfold memberTypes commandMembers
    rw [List.mapM_append]
    refine Step.ends_bind_ok.mpr ⟨_, _, ownTyped, Step.ends_bind_ok.mpr ⟨_, _, moreTyped, ?_⟩⟩
    exact Step.ends_pure.mpr ⟨rfl, rfl⟩
  · rw [List.map_append]
    exact ((ReferenceTable.gathers_addAll ownAdded).trans gathersMore).freeze

end Resolve

end DeclaredOptions
