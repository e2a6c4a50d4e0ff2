import DeclaredOptions.Reference
import Mathlib.Data.List.Perm.Basic

/-!
Contract: what tables of references hold after references are added.

Owns:
- one reference for each declaration that was added, and nothing else;
- the numbers that a table has seen, which are those of the references in its groups;
- merging, which is adding.

Does not own: the order of references, and their names.
-/

set_option autoImplicit false

namespace DeclaredOptions.ReferenceTable

def ids (table : ReferenceTable) : List Nat := table.toList.map (·.id)

@[simp] theorem toList_empty : empty.toList = [] := rfl

private theorem push_perm (group : ReferenceGroup) (ref : Reference) :
    (group.push ref).all.Perm (ref :: group.all) := by
  unfold ReferenceGroup.push ReferenceGroup.all
  split
  · rw [List.append_assoc]
    exact List.perm_middle
  · rw [← List.append_assoc]
    exact List.perm_append_singleton ref _

theorem insert_perm (ref : Reference) (groups : List ReferenceGroup) :
    ((insert ref groups).flatMap (·.all)).Perm (ref :: groups.flatMap (·.all)) := by
  induction groups with
  | nil => exact (push_perm ⟨ref.source, [], []⟩ ref).append_right []
  | cons group rest inductionHypothesis =>
      unfold insert
      split
      · rw [List.flatMap_cons, List.flatMap_cons]
        exact (push_perm group ref).append_right _
      · rw [List.flatMap_cons, List.flatMap_cons]
        exact (inductionHypothesis.append_left group.all).trans List.perm_middle

/-- The numbers that a table has seen are those of the references in its groups, each of them once. -/
structure Indexed (table : ReferenceTable) : Prop where
  nodup : table.ids.Nodup
  seen : ∀ id, id ∈ table.seen ↔ id ∈ table.ids

theorem indexed_empty : empty.Indexed := ⟨List.nodup_nil, fun _ => Iff.rfl⟩

theorem Indexed.contains_iff {table : ReferenceTable} (indexed : table.Indexed) {ref : Reference} :
    table.contains ref ↔ ref.id ∈ table.ids := by
  rw [contains, List.contains_iff_mem]
  exact indexed.seen ref.id

/-! ## Adding -/

section

variable {table : ReferenceTable} {ref : Reference}

/-- Adding neither freezes a table nor thaws it. -/
theorem frozen_add {ref? : Option Reference} {result : ReferenceTable}
    (added : table.add ref? = .ok result) : result.frozen = table.frozen := by
  cases ref? with
  | none => rw [Except.ok.inj added]
  | some ref =>
      unfold add at added
      dsimp only at added
      split at added
      · contradiction
      · split at added
        · rw [Except.ok.inj added]
        · rw [← Except.ok.inj added]

theorem add_of_frozen (frozen : table.frozen = true) :
    table.add (some ref) = .error (.frozen ref.name) := by
  unfold add
  simp [frozen]

theorem add_of_contains (isOpen : table.frozen = false) (isThere : table.contains ref) :
    table.add (some ref) = .ok table := by
  unfold add
  simp [isOpen, isThere]

theorem add_of_not_contains (isOpen : table.frozen = false) (isNew : ¬table.contains ref) :
    table.add (some ref) =
      .ok { table with groups := insert ref table.groups, seen := table.seen ++ [ref.id] } := by
  unfold add
  simp [isOpen, isNew]

end

/-- A table holds what another one held, and one reference for each declaration of some more references. -/
structure Gathers (table : ReferenceTable) (refs : List (Option Reference))
    (result : ReferenceTable) : Prop where
  indexed : table.Indexed → result.Indexed
  kept : ∀ ref ∈ table.toList, ref ∈ result.toList
  only : ∀ ref ∈ result.toList, ref ∈ table.toList ∨ some ref ∈ refs
  each : table.Indexed → ∀ ref, some ref ∈ refs → ref.id ∈ result.ids

theorem Gathers.freeze {table result : ReferenceTable} {refs : List (Option Reference)}
    (gathers : Gathers table refs result) : Gathers table refs result.freeze where
  indexed start := ⟨(gathers.indexed start).nodup, (gathers.indexed start).seen⟩
  kept := gathers.kept
  only := gathers.only
  each := gathers.each

/-- A new reference in the groups and its number among those seen keep a table indexed. -/
theorem indexed_insert {table : ReferenceTable} (indexed : table.Indexed) {ref : Reference}
    (absent : ¬table.contains ref) :
    Indexed { table with groups := insert ref table.groups, seen := table.seen ++ [ref.id] } := by
  have heldIds := (insert_perm ref table.groups).map (·.id)
  refine ⟨heldIds.nodup_iff.mpr (List.nodup_cons.mpr ⟨?_, indexed.nodup⟩), fun id => ?_⟩
  · exact fun twice => absent (indexed.contains_iff.mpr twice)
  · rw [List.mem_append, List.mem_singleton, indexed.seen, or_comm]
    exact (heldIds.mem_iff.trans List.mem_cons).symm

theorem gathers_add {table result : ReferenceTable} {ref? : Option Reference}
    (added : table.add ref? = .ok result) : Gathers table [ref?] result := by
  cases ref? with
  | none =>
      cases added
      exact ⟨id, fun _ held => held, fun _ held => .inl held, by simp⟩
  | some ref =>
      unfold add at added
      dsimp only at added
      split at added
      · contradiction
      · split at added
        · rename_i isThere
          cases added
          refine ⟨id, fun _ held => held, fun _ held => .inl held, fun indexed other isRef => ?_⟩
          cases List.mem_singleton.mp isRef
          exact indexed.contains_iff.mp isThere
        · rename_i absent
          cases added
          have held := insert_perm ref table.groups
          refine ⟨fun indexed => indexed_insert indexed absent, fun other member => ?_,
            fun other member => ?_, fun _ other isRef => ?_⟩
          · exact held.mem_iff.mpr (List.mem_cons_of_mem _ member)
          · rcases List.mem_cons.mp (held.mem_iff.mp member) with rfl | before
            · exact .inr (List.mem_singleton_self _)
            · exact .inl before
          · cases List.mem_singleton.mp isRef
            exact (held.map (·.id)).mem_iff.mpr List.mem_cons_self

/-- What is gathered on top of a gathering is gathered. -/
theorem Gathers.trans {first second last : ReferenceTable} {refs more : List (Option Reference)}
    (earlier : Gathers first refs second) (later : Gathers second more last) :
    Gathers first (refs ++ more) last where
  indexed start := later.indexed (earlier.indexed start)
  kept ref held := later.kept ref (earlier.kept ref held)
  only ref held := by
    rcases later.only ref held with inSecond | given
    · rcases earlier.only ref inSecond with inFirst | given
      · exact .inl inFirst
      · exact .inr (List.mem_append_left _ given)
    · exact .inr (List.mem_append_right _ given)
  each start ref given := by
    rcases List.mem_append.mp given with inRefs | inMore
    · obtain ⟨held, member, same⟩ := List.mem_map.mp (earlier.each start ref inRefs)
      exact List.mem_map.mpr ⟨held, later.kept held member, same⟩
    · exact later.each (earlier.indexed start) ref inMore

/-- Adding references one after the other gathers all of them. -/
theorem gathers_addAll {table result : ReferenceTable} {refs : List (Option Reference)}
    (added : table.addAll refs = .ok result) : Gathers table refs result := by
  induction refs generalizing table with
  | nil =>
      cases added
      exact ⟨id, fun _ held => held, fun _ held => .inl held, by simp⟩
  | cons ref? rest inductionHypothesis =>
      unfold addAll at added
      rw [List.foldlM_cons] at added
      cases first : table.add ref? with
      | error failure =>
          rw [first] at added
          contradiction
      | ok middle =>
          rw [first] at added
          exact (gathers_add first).trans (inductionHypothesis added)

/-- Merging a table that gathers references gathers them. -/
theorem gathers_merge {table other result : ReferenceTable} {refs : List (Option Reference)}
    (gathers : Gathers empty refs other) (merged : table.merge other = .ok result) :
    Gathers table refs result := by
  obtain ⟨indexed, kept, only, each⟩ := gathers_addAll merged
  refine ⟨indexed, kept, fun ref held => ?_, fun start ref given => ?_⟩
  · rcases only ref held with inTable | inOther
    · exact .inl inTable
    · have added := gathers.only ref (by simpa using inOther)
      exact .inr (by simpa using added)
  · obtain ⟨held, member, same⟩ := List.mem_map.mp (gathers.each indexed_empty ref given)
    have inResult := each start held (List.mem_map_of_mem member)
    rwa [same] at inResult

/-- A table that gathers references from nothing holds exactly these, where references to one declaration
are equal. -/
theorem Gathers.mem_iff {result : ReferenceTable} {refs : List (Option Reference)}
    (gathers : Gathers empty refs result)
    (determined : ∀ a b, some a ∈ refs → some b ∈ refs → a.id = b.id → a = b) {ref : Reference} :
    ref ∈ result.toList ↔ some ref ∈ refs := by
  have only (held : Reference) (member : held ∈ result.toList) : some held ∈ refs := by
    simpa using gathers.only held member
  constructor
  · exact only ref
  · intro given
    obtain ⟨held, member, same⟩ := List.mem_map.mp (gathers.each indexed_empty ref given)
    rw [← determined held ref (only held member) given same]
    exact member

end DeclaredOptions.ReferenceTable
