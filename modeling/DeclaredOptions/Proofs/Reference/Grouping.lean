import DeclaredOptions.Proofs.FirstOccurrence
import DeclaredOptions.Proofs.Project.Reachable
import DeclaredOptions.Proofs.Reference.Table

/-!
Contract: the groups of a table, told from the references that were added to it.

Owns:
- the references of a project, where a number stands for one declaration and one file;
- the first reference to each declaration, which is the one that a table keeps;
- the groups of references, one for each file, in order;
- a table of references, its groups being those of the first references and its numbers theirs.

Does not own: which references are added.
-/

set_option autoImplicit false

namespace DeclaredOptions

namespace Reference

/-! ## References of a project -/

/-- A reference to a declaration of a project, in the file that declares it. How it is named and imported is left
open. -/
structure IsOf (ref : Reference) (project : Project) : Prop where
  declared : ref.declaration ∈ project.declared
  source : ref.declaration.source = some ref.source

theorem isOf_toDeclaration {project : Project} (sound : project.Sound) {d : Declaration}
    (member : d ∈ project.declared) (name : String) : (toDeclaration d name).IsOf project := by
  obtain ⟨file, registered, inFile⟩ := List.mem_flatMap.mp member
  have isSource := sound.sources file registered d inFile
  refine ⟨by rwa [toDeclaration_declaration], ?_⟩
  rw [toDeclaration_declaration, toDeclaration_source, isSource, Option.getD_some]

section

variable {project : Project} {a b : Reference}

theorem declaration_eq_of_id (sound : project.Sound) (first : a.IsOf project) (second : b.IsOf project)
    (same : a.id = b.id) : a.declaration = b.declaration :=
  sound.eq_of_id first.declared second.declared same

theorem source_eq_of_id (sound : project.Sound) (first : a.IsOf project) (second : b.IsOf project)
    (same : a.id = b.id) : a.source = b.source := by
  have sameSource := congrArg Declaration.source (declaration_eq_of_id sound first second same)
  rw [first.source, second.source] at sameSource
  exact Option.some.inj sameSource

end

/-! ## First references -/

/-- References without those to a declaration that an earlier one is to. -/
def firsts (refs : List Reference) : List Reference := refs.eraseDupsBy same

theorem any_same {refs : List Reference} {ref : Reference} :
    refs.any ref.same ↔ ref.id ∈ refs.map (·.id) := by
  rw [List.any_eq_true, List.mem_map]
  unfold same
  constructor
  · rintro ⟨other, member, equal⟩
    exact ⟨other, member, (beq_iff_eq.mp equal).symm⟩
  · rintro ⟨other, member, equal⟩
    exact ⟨other, member, beq_iff_eq.mpr equal.symm⟩

private theorem firsts_concat_any (refs : List Reference) (last : Reference) :
    firsts (refs ++ [last]) =
      if (firsts refs).any last.same then firsts refs else firsts refs ++ [last] :=
  FirstOccurrence.eraseDupsBy_concat same refs last

theorem ids_firsts (refs : List Reference) :
    (firsts refs).map (·.id) = (refs.map (·.id)).eraseDups := by
  induction refs using List.reverseRecOn with
  | nil => rfl
  | append_singleton refs last inductionHypothesis =>
      have isThere : (firsts refs).any last.same ↔ last.id ∈ refs.map (·.id) := by
        rw [any_same, inductionHypothesis, List.mem_eraseDups]
      rw [firsts_concat_any, List.map_append, List.map_singleton, FirstOccurrence.eraseDups_concat]
      by_cases earlier : last.id ∈ refs.map (·.id)
      · rw [if_pos (isThere.mpr earlier), if_pos earlier, inductionHypothesis]
      · rw [if_neg (mt isThere.mp earlier), if_neg earlier, List.map_append, inductionHypothesis,
          List.map_singleton]

theorem firsts_concat (refs : List Reference) (last : Reference) :
    firsts (refs ++ [last]) =
      if last.id ∈ refs.map (·.id) then firsts refs else firsts refs ++ [last] := by
  have isThere : (firsts refs).any last.same ↔ last.id ∈ refs.map (·.id) := by
    rw [any_same, ids_firsts, List.mem_eraseDups]
  rw [firsts_concat_any]
  exact if_congr isThere rfl rfl

theorem nodup_ids_firsts (refs : List Reference) : ((firsts refs).map (·.id)).Nodup := by
  rw [ids_firsts]
  exact FirstOccurrence.nodup_eraseDups _

theorem mem_ids_firsts {refs : List Reference} {id : Nat} :
    id ∈ (firsts refs).map (·.id) ↔ id ∈ refs.map (·.id) := by
  rw [ids_firsts, List.mem_eraseDups]

theorem mem_of_mem_firsts {refs : List Reference} {ref : Reference} (member : ref ∈ firsts refs) :
    ref ∈ refs := by
  induction refs using List.reverseRecOn with
  | nil => contradiction
  | append_singleton refs last inductionHypothesis =>
      rw [firsts_concat] at member
      split at member
      · exact List.mem_append_left _ (inductionHypothesis member)
      · rcases List.mem_append.mp member with earlier | isLast
        · exact List.mem_append_left _ (inductionHypothesis earlier)
        · exact List.mem_append_right _ isLast

theorem firsts_of_nodup {refs : List Reference} (nodup : (refs.map (·.id)).Nodup) :
    firsts refs = refs := by
  induction refs using List.reverseRecOn with
  | nil => rfl
  | append_singleton refs last inductionHypothesis =>
      rw [List.map_append, List.map_singleton, ← List.concat_eq_append, List.nodup_concat] at nodup
      rw [firsts_concat, if_neg nodup.1, inductionHypothesis nodup.2]

/-- A reference to a declaration that none of some references is to. -/
def isNewTo (refs : List Reference) (ref : Reference) : Bool := !(refs.map (·.id)).contains ref.id

/-- First references of two lists are those of the first, and those of the second that are new. -/
theorem firsts_append (refs more : List Reference) :
    firsts (refs ++ more) = firsts refs ++ (firsts more).filter (isNewTo refs) := by
  induction more using List.reverseRecOn with
  | nil => simp [firsts]
  | append_singleton more last inductionHypothesis =>
      have isThere : last.id ∈ (refs ++ more).map (·.id) ↔
          last.id ∈ refs.map (·.id) ∨ last.id ∈ more.map (·.id) := by
        rw [List.map_append, List.mem_append]
      rw [← List.append_assoc, firsts_concat, firsts_concat, inductionHypothesis]
      by_cases inMore : last.id ∈ more.map (·.id)
      · rw [if_pos (isThere.mpr (.inr inMore)), if_pos inMore]
      · rw [if_neg inMore, List.filter_append]
        by_cases inRefs : last.id ∈ refs.map (·.id)
        · have dropped : [last].filter (isNewTo refs) = [] := by simp [isNewTo, inRefs]
          rw [if_pos (isThere.mpr (.inl inRefs)), dropped, List.append_nil]
        · have kept : [last].filter (isNewTo refs) = [last] := by simp [isNewTo, inRefs]
          rw [if_neg (mt isThere.mp (not_or.mpr ⟨inRefs, inMore⟩)), kept, List.append_assoc]

end Reference

/-! ## Groups -/

namespace ReferenceTable

/-- The group of a file among references. -/
def groupOf (refs : List Reference) (source : String) : ReferenceGroup :=
  ⟨source, refs.filter fun ref => ref.source == source && ref.isDefault,
    refs.filter fun ref => ref.source == source && !ref.isDefault⟩

/-- The groups of references: their files in order of first occurrence, and in each file the references in
order. -/
def grouped (refs : List Reference) : List ReferenceGroup :=
  (refs.map (·.source)).eraseDups.map (groupOf refs)

theorem mem_groupOf {refs : List Reference} {source : String} {ref : Reference} :
    ref ∈ (groupOf refs source).all ↔ ref ∈ refs ∧ ref.source = source := by
  rw [ReferenceGroup.all, groupOf, List.mem_append, List.mem_filter, List.mem_filter]
  cases ref.isDefault with
  | true => simp
  | false => simp

theorem groupOf_of_not_mem {refs : List Reference} {source : String}
    (absent : source ∉ refs.map (·.source)) : groupOf refs source = ⟨source, [], []⟩ := by
  have noneIn (keep : Reference → Bool) :
      (refs.filter fun ref => ref.source == source && keep ref) = [] := by
    rw [List.filter_eq_nil_iff]
    intro ref member both
    rw [Bool.and_eq_true, beq_iff_eq] at both
    exact absent (List.mem_map.mpr ⟨ref, member, both.1⟩)
  rw [groupOf, noneIn, noneIn]

theorem groupOf_append (refs more : List Reference) (source : String) :
    groupOf (refs ++ more) source =
      ⟨source, (groupOf refs source).defaults ++ (groupOf more source).defaults,
        (groupOf refs source).named ++ (groupOf more source).named⟩ := by
  unfold groupOf
  rw [List.filter_append, List.filter_append]

theorem groupOf_concat (refs : List Reference) (last : Reference) (source : String) :
    groupOf (refs ++ [last]) source =
      if source = last.source then (groupOf refs source).push last else groupOf refs source := by
  unfold groupOf ReferenceGroup.push
  rw [List.filter_append, List.filter_append]
  by_cases isSource : source = last.source
  · subst isSource
    cases kind : last.isDefault with
    | true => simp [kind]
    | false => simp [kind]
  · have other : (last.source == source) = false := beq_eq_false_iff_ne.mpr (Ne.symm isSource)
    simp [other, isSource]

/-- One more reference goes to the group of its file, or into a new one. -/
theorem insert_map {sources : List String} (nodup : sources.Nodup) (refs : List Reference)
    (last : Reference) :
    insert last (sources.map (groupOf refs)) =
      sources.map (groupOf (refs ++ [last])) ++
        if last.source ∈ sources then [] else [(⟨last.source, [], []⟩ : ReferenceGroup).push last] := by
  induction sources with
  | nil => rfl
  | cons source rest inductionHypothesis =>
      obtain ⟨absent, nodupRest⟩ := List.nodup_cons.mp nodup
      rw [List.map_cons, List.map_cons]
      unfold insert
      by_cases isSource : source = last.source
      · subst isSource
        have kept : rest.map (groupOf refs) = rest.map (groupOf (refs ++ [last])) := by
          refine List.map_congr_left fun other member => ?_
          have notLast : other ≠ last.source := by
            rintro rfl
            exact absent member
          rw [groupOf_concat, if_neg notLast]
        have isOwn : ((groupOf refs last.source).source == last.source) = true :=
          beq_self_eq_true _
        rw [isOwn, if_pos rfl, kept, groupOf_concat, if_pos rfl, if_pos List.mem_cons_self,
          List.append_nil]
      · have isOther : ((groupOf refs source).source == last.source) = false :=
          beq_eq_false_iff_ne.mpr isSource
        have sameMember : last.source ∈ source :: rest ↔ last.source ∈ rest :=
          ⟨fun member => (List.mem_cons.mp member).resolve_left (Ne.symm isSource),
            List.mem_cons_of_mem _⟩
        rw [isOther, if_neg Bool.false_ne_true, inductionHypothesis nodupRest, groupOf_concat,
          if_neg isSource, List.cons_append]
        exact congrArg _ (congrArg _ (if_congr sameMember.symm rfl rfl))

theorem insert_grouped (refs : List Reference) (last : Reference) :
    insert last (grouped refs) = grouped (refs ++ [last]) := by
  unfold grouped
  rw [insert_map (FirstOccurrence.nodup_eraseDups _), List.map_append, List.map_singleton,
    FirstOccurrence.eraseDups_concat]
  by_cases earlier : last.source ∈ refs.map (·.source)
  · rw [if_pos (List.mem_eraseDups.mpr earlier), if_pos earlier, List.append_nil]
  · rw [if_neg (mt List.mem_eraseDups.mp earlier), if_neg earlier, List.map_append,
      List.map_singleton, groupOf_concat, if_pos rfl, groupOf_of_not_mem earlier]

/-- Every group is that of a file, which holds some reference. -/
theorem mem_grouped {refs : List Reference} {group : ReferenceGroup} (member : group ∈ grouped refs) :
    group = groupOf refs group.source ∧ group.all ≠ [] := by
  obtain ⟨source, occurs, rfl⟩ := List.mem_map.mp member
  obtain ⟨ref, inRefs, isSource⟩ := List.mem_map.mp (List.mem_eraseDups.mp occurs)
  exact ⟨rfl, List.ne_nil_of_mem (mem_groupOf.mpr ⟨inRefs, isSource⟩)⟩

theorem sources_grouped (refs : List Reference) :
    (grouped refs).map (·.source) = (refs.map (·.source)).eraseDups := by
  rw [grouped, List.map_map]
  exact List.map_id _

/-- The references of groups, file by file. -/
def regrouped (refs : List Reference) : List Reference := (grouped refs).flatMap (·.all)

theorem regrouped_perm (refs : List Reference) : (regrouped refs).Perm refs := by
  induction refs using List.reverseRecOn with
  | nil => exact .nil
  | append_singleton refs last inductionHypothesis =>
      rw [regrouped, ← insert_grouped]
      refine (insert_perm last (grouped refs)).trans ?_
      exact (inductionHypothesis.cons last).trans (List.perm_append_singleton last refs).symm

/-! ## Tables -/

/-- A table holds the first references of those that it was offered, and their numbers. -/
structure Collects (table : ReferenceTable) (offered : List Reference) : Prop where
  groups : table.groups = grouped (Reference.firsts offered)
  seen : table.seen = (Reference.firsts offered).map (·.id)

theorem collects_empty : empty.Collects [] := ⟨rfl, rfl⟩

variable {table : ReferenceTable} {offered : List Reference}

theorem Collects.contains_iff (collects : table.Collects offered) {ref : Reference} :
    table.contains ref ↔ ref.id ∈ offered.map (·.id) := by
  rw [contains, collects.seen, List.contains_iff_mem, Reference.mem_ids_firsts]

theorem Collects.toList (collects : table.Collects offered) :
    table.toList = regrouped (Reference.firsts offered) := by
  rw [ReferenceTable.toList, collects.groups, regrouped]

theorem Collects.mem_offered (collects : table.Collects offered) {ref : Reference}
    (held : ref ∈ table.toList) : ref ∈ offered := by
  rw [collects.toList] at held
  exact Reference.mem_of_mem_firsts ((regrouped_perm _).mem_iff.mp held)

theorem Collects.indexed (collects : table.Collects offered) : table.Indexed := by
  have held : table.ids.Perm ((Reference.firsts offered).map (·.id)) := by
    rw [ids, collects.toList]
    exact (regrouped_perm _).map _
  refine ⟨held.nodup_iff.mpr (Reference.nodup_ids_firsts offered), fun id => ?_⟩
  rw [collects.seen]
  exact held.mem_iff.symm

/-- A table that is not frozen takes what it is offered. -/
theorem Collects.add (collects : table.Collects offered) (isOpen : table.frozen = false)
    (ref? : Option Reference) :
    ∃ next, table.add ref? = .ok next ∧ next.frozen = false ∧
      next.Collects (offered ++ ref?.toList) := by
  cases ref? with
  | none =>
      refine ⟨table, rfl, isOpen, ?_⟩
      rw [Option.toList_none, List.append_nil]
      exact collects
  | some ref =>
      rw [Option.toList_some]
      by_cases isThere : table.contains ref
      · have earlier := collects.contains_iff.mp isThere
        refine ⟨table, add_of_contains isOpen isThere, isOpen, ?_⟩
        have same : Reference.firsts (offered ++ [ref]) = Reference.firsts offered := by
          rw [Reference.firsts_concat, if_pos earlier]
        exact ⟨same ▸ collects.groups, same ▸ collects.seen⟩
      · have isNew := mt collects.contains_iff.mpr isThere
        refine ⟨_, add_of_not_contains isOpen isThere, isOpen, ?_⟩
        have more : Reference.firsts (offered ++ [ref]) = Reference.firsts offered ++ [ref] := by
          rw [Reference.firsts_concat, if_neg isNew]
        refine ⟨?_, ?_⟩
        · rw [more, ← insert_grouped, ← collects.groups]
        · rw [more, List.map_append, ← collects.seen, List.map_singleton]

theorem Collects.addAll (collects : table.Collects offered) (isOpen : table.frozen = false)
    (refs : List (Option Reference)) :
    ∃ next, table.addAll refs = .ok next ∧ next.frozen = false ∧
      next.Collects (offered ++ refs.filterMap id) := by
  induction refs generalizing table offered with
  | nil => exact ⟨table, rfl, isOpen, by simpa using collects⟩
  | cons ref? rest inductionHypothesis =>
      obtain ⟨middle, added, middleOpen, middleCollects⟩ := collects.add isOpen ref?
      obtain ⟨next, addedRest, nextOpen, nextCollects⟩ :=
        inductionHypothesis middleCollects middleOpen
      refine ⟨next, ?_, nextOpen, ?_⟩
      · unfold ReferenceTable.addAll at addedRest ⊢
        rw [List.foldlM_cons, added]
        exact addedRest
      · cases ref? with
        | none => simpa using nextCollects
        | some ref => simpa using nextCollects

theorem Collects.merge (collects : table.Collects offered) (isOpen : table.frozen = false)
    (other : ReferenceTable) :
    ∃ next, table.merge other = .ok next ∧ next.frozen = false ∧
      next.Collects (offered ++ other.toList) := by
  have given : (other.toList.map some).filterMap id = other.toList := by simp
  rw [← given]
  exact collects.addAll isOpen (other.toList.map some)

end ReferenceTable

end DeclaredOptions
