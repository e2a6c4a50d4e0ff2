import DeclaredOptions.Proofs.Reference.Grouping

/-!
Contract: references that are collected in two passes, and in one.

Owns:
- the references of a table that are read off file by file, and grouped again;
- merging a table into another, which gives the groups that adding its references would have given.

Does not own: tables that are frozen.

A merged table is replayed file by file, default references first, not in the order in which it was filled. That
makes no difference for two reasons. Grouping looks only at the order of files and at the order within each list,
and reading a table off keeps both. And a reference that is left out, because an earlier one is to the same
declaration, is in a file that the table holds already, so that leaving it out moves no file to another place.
-/

set_option autoImplicit false

namespace DeclaredOptions.ReferenceTable

/-! ## Reading off and grouping again -/

/-- Groups go by their files and by the references of each file. -/
theorem grouped_congr {refs more : List Reference}
    (sources : (refs.map (·.source)).eraseDups = (more.map (·.source)).eraseDups)
    (groups : ∀ source, groupOf refs source = groupOf more source) : grouped refs = grouped more := by
  unfold grouped
  rw [sources]
  exact List.map_congr_left fun source _ => groups source

theorem groupOf_filter (keep : Reference → Bool) (refs : List Reference) (source : String) :
    groupOf (refs.filter keep) source =
      ⟨source, (groupOf refs source).defaults.filter keep,
        (groupOf refs source).named.filter keep⟩ := by
  unfold groupOf
  simp only [List.filter_filter, Bool.and_comm, Bool.and_left_comm]

private theorem flatMap_of_only {α β : Type} {values : List α} (nodup : values.Nodup) {target : α}
    (member : target ∈ values) {f : α → List β}
    (others : ∀ value ∈ values, value ≠ target → f value = []) : values.flatMap f = f target := by
  induction values with
  | nil => contradiction
  | cons value rest inductionHypothesis =>
      obtain ⟨absent, nodupRest⟩ := List.nodup_cons.mp nodup
      rw [List.forall_mem_cons] at others
      rw [List.flatMap_cons]
      by_cases isTarget : value = target
      · subst isTarget
        have noneInRest : rest.flatMap f = [] := by
          rw [List.flatMap_eq_nil_iff]
          intro other inRest
          refine others.2 other inRest ?_
          rintro rfl
          exact absent inRest
        rw [noneInRest, List.append_nil]
      · have inRest := (List.mem_cons.mp member).resolve_left (Ne.symm isTarget)
        rw [others.1 isTarget, List.nil_append]
        exact inductionHypothesis nodupRest inRest others.2

theorem groupOf_flatMap {β : Type} (values : List β) (block : β → List Reference) (source : String) :
    groupOf (values.flatMap block) source =
      ⟨source, values.flatMap fun value => (groupOf (block value) source).defaults,
        values.flatMap fun value => (groupOf (block value) source).named⟩ := by
  unfold groupOf
  rw [List.filter_flatMap, List.filter_flatMap]

/-- A group that is read off and grouped again is the same. -/
private theorem groupOf_all (refs : List Reference) (source : String) :
    groupOf (groupOf refs source).all source = groupOf refs source := by
  have ofDefaults : groupOf (groupOf refs source).defaults source =
      ⟨source, (groupOf refs source).defaults, []⟩ := by
    unfold groupOf
    simp only [List.filter_filter, Bool.and_self]
    refine congrArg _ (List.filter_eq_nil_iff.mpr fun ref _ => ?_)
    cases ref.isDefault with
    | true => simp
    | false => simp
  have ofNamed : groupOf (groupOf refs source).named source =
      ⟨source, [], (groupOf refs source).named⟩ := by
    unfold groupOf
    simp only [List.filter_filter, Bool.and_self]
    have noDefault : (refs.filter fun ref => ref.source == source && ref.isDefault &&
        (ref.source == source && !ref.isDefault)) = [] := by
      refine List.filter_eq_nil_iff.mpr fun ref _ => ?_
      cases ref.isDefault with
      | true => simp
      | false => simp
    rw [noDefault]
  rw [ReferenceGroup.all, groupOf_append, ofDefaults, ofNamed, List.append_nil, List.nil_append]
  rfl

private theorem groupOf_all_of_ne (refs : List Reference) {source other : String}
    (differ : other ≠ source) : groupOf (groupOf refs other).all source = ⟨source, [], []⟩ := by
  refine groupOf_of_not_mem fun member => ?_
  obtain ⟨ref, inOther, isSource⟩ := List.mem_map.mp member
  exact differ ((mem_groupOf.mp inOther).2.symm.trans isSource)

/-- Reading off keeps the references of each file in order. -/
theorem groupOf_regrouped (refs : List Reference) (source : String) :
    groupOf (regrouped refs) source = groupOf refs source := by
  by_cases occurs : source ∈ refs.map (·.source)
  · have isOne := List.mem_eraseDups.mpr occurs
    have nodup := FirstOccurrence.nodup_eraseDups (refs.map (·.source))
    rw [regrouped, grouped, List.flatMap_map, groupOf_flatMap,
      flatMap_of_only nodup isOne fun other _ differ => by rw [groupOf_all_of_ne refs differ],
      flatMap_of_only nodup isOne fun other _ differ => by rw [groupOf_all_of_ne refs differ],
      groupOf_all]
    rfl
  · have notRead : source ∉ (regrouped refs).map (·.source) := fun member =>
      occurs (((regrouped_perm refs).map _).mem_iff.mp member)
    rw [groupOf_of_not_mem occurs, groupOf_of_not_mem notRead]

/-- Reading off keeps the files in order. -/
theorem sources_regrouped (refs : List Reference) :
    ((regrouped refs).map (·.source)).eraseDups = (refs.map (·.source)).eraseDups := by
  unfold regrouped grouped
  rw [List.flatMap_map, List.map_flatMap]
  refine FirstOccurrence.eraseDups_flatMap (FirstOccurrence.nodup_eraseDups _) ?_ ?_
  · intro source member noneThere
    obtain ⟨ref, inRefs, isSource⟩ := List.mem_map.mp (List.mem_eraseDups.mp member)
    have inGroup := mem_groupOf.mpr ⟨inRefs, isSource⟩
    rw [List.map_eq_nil_iff.mp noneThere] at inGroup
    contradiction
  · intro source _ other member
    obtain ⟨ref, inGroup, rfl⟩ := List.mem_map.mp member
    exact (mem_groupOf.mp inGroup).2

/-! ## Leaving out what is there -/

/-- The files of references in which some are left out, each of them in a file that comes before. -/
theorem sources_append_filter {refs more : List Reference} {keep : Reference → Bool}
    (leftOut : ∀ ref ∈ more, keep ref = false → ref.source ∈ refs.map (·.source)) :
    ((refs ++ more.filter keep).map (·.source)).eraseDups =
      (refs.map (·.source)).eraseDups ++
        (more.map (·.source)).eraseDups.filter fun source =>
          !(refs.map (·.source)).contains source := by
  have newFiles : ((more.filter keep).map (·.source)).removeAll (refs.map (·.source)) =
      (more.map (·.source)).filter fun source => !(refs.map (·.source)).contains source := by
    unfold List.removeAll
    rw [List.filter_map, List.filter_map, List.filter_filter]
    refine congrArg (List.map _) (List.filter_congr fun ref member => ?_)
    cases kept : keep ref with
    | true => exact Bool.and_true _
    | false =>
        have isOld : (refs.map (·.source)).contains ref.source = true :=
          List.contains_iff_mem.mpr (leftOut ref member kept)
        rw [Bool.and_false, Function.comp_apply, isOld]
        rfl
  rw [List.map_append, List.eraseDups_append, newFiles, FirstOccurrence.eraseDups_filter]

/-- References may be read off and grouped again before those are left out that are to a declaration of earlier
ones. -/
theorem grouped_firsts_regrouped {refs more : List Reference}
    (sameFile : ∀ a ∈ refs, ∀ b ∈ more, a.id = b.id → a.source = b.source) :
    grouped (Reference.firsts (refs ++ regrouped (Reference.firsts more))) =
      grouped (Reference.firsts (refs ++ more)) := by
  have perm := regrouped_perm (Reference.firsts more)
  have once : Reference.firsts (regrouped (Reference.firsts more)) =
      regrouped (Reference.firsts more) :=
    Reference.firsts_of_nodup ((perm.map _).nodup_iff.mpr (Reference.nodup_ids_firsts more))
  have leftOut : ∀ ref ∈ Reference.firsts more, Reference.isNewTo refs ref = false →
      ref.source ∈ (Reference.firsts refs).map (·.source) := by
    intro ref member isOld
    have inFirsts : ref.id ∈ (Reference.firsts refs).map (·.id) := by
      rw [Reference.mem_ids_firsts]
      simpa [Reference.isNewTo] using isOld
    obtain ⟨earlier, inRefs, same⟩ := List.mem_map.mp inFirsts
    rw [← sameFile earlier (Reference.mem_of_mem_firsts inRefs) ref
      (Reference.mem_of_mem_firsts member) same]
    exact List.mem_map_of_mem inRefs
  rw [Reference.firsts_append, Reference.firsts_append, once]
  refine grouped_congr ?_ fun source => ?_
  · rw [sources_append_filter leftOut,
      sources_append_filter fun ref member => leftOut ref (perm.mem_iff.mp member),
      sources_regrouped]
  · rw [groupOf_append, groupOf_append, groupOf_filter, groupOf_filter, groupOf_regrouped]

/-! ## Two passes and one -/

/-- Tables that take all references of a project, one pass after the other or all in one, are the same: their files
in order, the references of each file in order, and the declarations that they hold. These are the groups of the
first references. -/
theorem merge_addAll {project : Project} (reachable : project.Reachable)
    {refs more : List (Option Reference)}
    (areOf : ∀ ref, some ref ∈ refs ++ more → ref.IsOf project) :
    ∃ first second merged whole,
      empty.addAll refs = .ok first ∧ empty.addAll more = .ok second ∧
      first.merge second = .ok merged ∧ empty.addAll (refs ++ more) = .ok whole ∧
      merged.groups = whole.groups ∧ (∀ ref, merged.contains ref = whole.contains ref) ∧
      whole.groups = grouped (Reference.firsts ((refs ++ more).filterMap id)) := by
  obtain ⟨first, firstAdded, firstOpen, firstCollects⟩ := collects_empty.addAll rfl refs
  obtain ⟨second, secondAdded, -, secondCollects⟩ := collects_empty.addAll rfl more
  obtain ⟨merged, isMerged, -, mergedCollects⟩ := firstCollects.merge firstOpen second
  obtain ⟨whole, wholeAdded, -, wholeCollects⟩ := collects_empty.addAll rfl (refs ++ more)
  rw [List.nil_append] at firstCollects secondCollects mergedCollects wholeCollects
  rw [secondCollects.toList] at mergedCollects
  have given {given : List (Option Reference)} {ref : Reference} :
      ref ∈ given.filterMap id ↔ some ref ∈ given := by
    simp
  have sameFile : ∀ a ∈ refs.filterMap id, ∀ b ∈ more.filterMap id,
      a.id = b.id → a.source = b.source := by
    intro a inRefs b inMore
    exact Reference.source_eq_of_id reachable.sound
      (areOf a (List.mem_append_left _ (given.mp inRefs)))
      (areOf b (List.mem_append_right _ (given.mp inMore)))
  refine ⟨first, second, merged, whole, firstAdded, secondAdded, isMerged, wholeAdded, ?_,
    fun ref => ?_, wholeCollects.groups⟩
  · rw [mergedCollects.groups, wholeCollects.groups, List.filterMap_append,
      grouped_firsts_regrouped sameFile]
  · have sameIds : ref.id ∈ (regrouped (Reference.firsts (more.filterMap id))).map (·.id) ↔
        ref.id ∈ (more.filterMap id).map (·.id) :=
      ((regrouped_perm _).map _).mem_iff.trans Reference.mem_ids_firsts
    rw [Bool.eq_iff_iff, mergedCollects.contains_iff, wholeCollects.contains_iff,
      List.filterMap_append, List.map_append, List.map_append, List.mem_append, List.mem_append,
      sameIds]

/-- A project of two files. -/
@[irreducible] def inkProject : Project :=
  .ofTexts [("hue.ts", "export enum Tone{} enum Hue{} export default Hue"), ("ink.ts", "enum Ink{}")]

theorem reachable_inkProject : inkProject.Reachable := by
  unfold inkProject
  exact Project.reachable_ofTexts _

/-- The references to the enums of a project. -/
def enumReferences (project : Project) : List (Option Reference) :=
  project.declared.map fun d => some (.toEnum d)

theorem isOf_of_mem_enumReferences {project : Project} (sound : project.Sound) {ref : Reference}
    (member : some ref ∈ enumReferences project) : ref.IsOf project := by
  obtain ⟨d, isDeclared, isRef⟩ := List.mem_map.mp member
  rw [← Option.some.inj isRef]
  exact Reference.isOf_toDeclaration sound isDeclared _

/-- The second pass meets the files the other way round, and the one reference of the first pass once more. -/
theorem merge_addAll_ink :
    ∃ first second merged whole,
      empty.addAll ((enumReferences inkProject).take 1) = .ok first ∧
      empty.addAll (none :: (enumReferences inkProject).reverse) = .ok second ∧
      first.merge second = .ok merged ∧
      empty.addAll ((enumReferences inkProject).take 1 ++
        none :: (enumReferences inkProject).reverse) = .ok whole ∧
      second.sources = ["ink.ts", "hue.ts"] ∧
      merged.groups = whole.groups ∧ merged.sources = ["hue.ts", "ink.ts"] := by
  have areOf : ∀ ref, some ref ∈ (enumReferences inkProject).take 1 ++
      none :: (enumReferences inkProject).reverse → ref.IsOf inkProject := by
    intro ref given
    refine isOf_of_mem_enumReferences reachable_inkProject.sound ?_
    rcases List.mem_append.mp given with inFirst | inSecond
    · exact List.mem_of_mem_take inFirst
    · exact List.mem_reverse.mp ((List.mem_cons.mp inSecond).resolve_left (Option.some_ne_none _))
  obtain ⟨first, second, merged, whole, firstAdded, secondAdded, isMerged, wholeAdded, same, -⟩ :=
    merge_addAll reachable_inkProject areOf
  have secondSources : (empty.addAll (none :: (enumReferences inkProject).reverse)).toOption.map
      (·.sources) = some ["ink.ts", "hue.ts"] := by decide +kernel
  have wholeSources : (empty.addAll ((enumReferences inkProject).take 1 ++
      none :: (enumReferences inkProject).reverse)).toOption.map (·.sources) =
      some ["hue.ts", "ink.ts"] := by decide +kernel
  rw [secondAdded] at secondSources
  rw [wholeAdded] at wholeSources
  refine ⟨first, second, merged, whole, firstAdded, secondAdded, isMerged, wholeAdded,
    Option.some.inj secondSources, same, ?_⟩
  rw [sources, same]
  exact Option.some.inj wholeSources

end DeclaredOptions.ReferenceTable
