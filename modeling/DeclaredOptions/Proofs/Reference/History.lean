import DeclaredOptions.Proofs.Reference.Passes
import DeclaredOptions.Proofs.Step
import Mathlib.Data.List.Forall2
import Mathlib.Logic.Function.Basic

/-!
Contract: what calls of several tables do, one after another.

Owns:
- the calls, which may fail and leave what they have done up to there;
- the references that a table is offered while it is open, also by other tables and by itself;
- what every table holds after any calls, what later calls leave of it, and what a frozen table refuses.

Does not own: the order of references in an import statement.

The groups of a table and the numbers it has seen are kept side by side. That they stay in step is not proved for
each call alone: both are functions of what the table was offered, and a call does no more than offer something.
-/

set_option autoImplicit false

namespace DeclaredOptions

/-! ## Calls -/

/-- Tables by their names. -/
abbrev Tables := Nat → ReferenceTable

/-- A call of a table. -/
inductive TableCall where
  | add (table : Nat) (ref? : Option Reference)
  | merge (table other : Nat)
  | freeze (table : Nat)

namespace Tables

/-- No table holds anything, and none is frozen. -/
def empty : Tables := fun _ => .empty

/-- Adds references to a table one after the other, up to the first that it refuses. -/
def addEach (table : Nat) : List (Option Reference) → Step Tables Unit
  | [] => pure ()
  | ref? :: rest => do
    let tables ← get
    match (tables table).add ref? with
    | .ok next =>
      set (Function.update tables table next)
      addEach table rest
    | .error failure => throw failure

/-- A table is merged as it is when the call begins, so that it may be merged into itself. -/
def step : TableCall → Step Tables Unit
  | .add table ref? => addEach table [ref?]
  | .merge table other => do
    let tables ← get
    addEach table ((tables other).toList.map some)
  | .freeze table => do
    let tables ← get
    set (Function.update tables table (tables table).freeze)

/-- The tables after a call, whether it fails or not. -/
def afterCall (tables : Tables) (call : TableCall) : Tables := ((step call).run.run tables).2

/-- The tables after calls in a row. -/
def after (tables : Tables) : List TableCall → Tables
  | [] => tables
  | call :: rest => (tables.afterCall call).after rest

theorem after_append (tables : Tables) (calls more : List TableCall) :
    tables.after (calls ++ more) = (tables.after calls).after more := by
  induction calls generalizing tables with
  | nil => rfl
  | cons call rest inductionHypothesis => exact inductionHypothesis (tables.afterCall call)

theorem afterCall_of_ends {tables next : Tables} {call : TableCall} {outcome : Except Failure Unit}
    (ends : Step.Ends (step call) tables outcome next) : tables.afterCall call = next :=
  congrArg Prod.snd ends

/-! ## What a table is offered -/

/-- The references that a call offers to a table; a frozen one takes none. -/
def offers (tables : Tables) (name : Nat) (call : TableCall) : List Reference :=
  if (tables name).frozen then []
  else
    match call with
    | .add table ref? => if table = name then ref?.toList else []
    | .merge table other => if table = name then (tables other).toList else []
    | .freeze _ => []

/-- The references that calls in a row offer to a table, in order. -/
def offered (tables : Tables) (name : Nat) : List TableCall → List Reference
  | [] => []
  | call :: rest => tables.offers name call ++ (tables.afterCall call).offered name rest

/-! ## Endings -/

variable {tables : Tables} {table : Nat}

/-- References that are added one after the other are added as if all at once. -/
theorem ends_addEach {refs : List (Option Reference)} {next : ReferenceTable}
    (added : (tables table).addAll refs = .ok next) :
    Step.Ends (addEach table refs) tables (.ok ()) (Function.update tables table next) := by
  induction refs generalizing tables with
  | nil =>
      obtain rfl : tables table = next := Except.ok.inj added
      exact Step.ends_pure.mpr ⟨rfl, Function.update_eq_self table tables⟩
  | cons ref? rest inductionHypothesis =>
      unfold ReferenceTable.addAll at added
      rw [List.foldlM_cons] at added
      refine Step.ends_get_bind.mpr ?_
      cases first : (tables table).add ref? with
      | error failure =>
          rw [first] at added
          contradiction
      | ok middle =>
          rw [first] at added
          refine Step.ends_set_bind.mpr ?_
          have addedRest : (Function.update tables table middle table).addAll rest = .ok next := by
            rw [Function.update_self]
            exact added
          have ends := inductionHypothesis addedRest
          rwa [Function.update_idem] at ends

/-- A frozen table refuses the first reference, and stays as it is. -/
theorem ends_addEach_of_frozen (frozen : (tables table).frozen = true) (ref : Reference)
    (rest : List (Option Reference)) :
    Step.Ends (addEach table (some ref :: rest)) tables (.error (.frozen ref.name)) tables := by
  refine Step.ends_get_bind.mpr ?_
  rw [ReferenceTable.add_of_frozen frozen]
  exact Step.ends_throw.mpr ⟨rfl, rfl⟩

/-- Nothing may be added to any table. -/
theorem ends_addEach_none : Step.Ends (addEach table [none]) tables (.ok ()) tables := by
  have ends := @ends_addEach tables table [none] (tables table) rfl
  rwa [Function.update_eq_self] at ends

theorem ends_merge {other : Nat} {outcome : Except Failure Unit} {next : Tables} :
    Step.Ends (step (.merge table other)) tables outcome next ↔
      Step.Ends (addEach table ((tables other).toList.map some)) tables outcome next :=
  Step.ends_get_bind

/-- Whatever relates a table to itself, passes on, and relates a table to what adding makes of it, relates each
table before some adding to the same one after it; the others are not added to. -/
private theorem relates_addEach (relation : ReferenceTable → ReferenceTable → Prop)
    (refl : ∀ held, relation held held)
    (trans : ∀ first second third, relation first second → relation second third →
      relation first third)
    {name : Nat}
    (adds : name = table → ∀ held ref? grown, held.add ref? = .ok grown → relation held grown)
    {refs : List (Option Reference)} {outcome : Except Failure Unit} {next : Tables}
    (ends : Step.Ends (addEach table refs) tables outcome next) :
    relation (tables name) (next name) := by
  induction refs generalizing tables with
  | nil =>
      obtain ⟨-, rfl⟩ := Step.ends_pure.mp ends
      exact refl _
  | cons ref? rest inductionHypothesis =>
      have looked := Step.ends_get_bind.mp ends
      cases added : (tables table).add ref? with
      | error failure =>
          rw [added] at looked
          obtain ⟨-, rfl⟩ := Step.ends_throw.mp looked
          exact refl _
      | ok middle =>
          rw [added] at looked
          refine trans _ _ _ ?_ (inductionHypothesis (Step.ends_set_bind.mp looked))
          by_cases isTable : name = table
          · subst isTable
            rw [Function.update_self]
            exact adds rfl _ _ _ added
          · rw [Function.update_of_ne isTable]
            exact refl _

/-- What is added to one table leaves the others as they are, and a frozen one too. -/
theorem addEach_frame {refs : List (Option Reference)} {outcome : Except Failure Unit}
    {next : Tables} (ends : Step.Ends (addEach table refs) tables outcome next) {name : Nat}
    (apart : name = table → (tables name).frozen = true) : next name = tables name := by
  by_cases isTable : name = table
  · refine relates_addEach (fun held grown => held.frozen = true → grown = held) (fun _ _ => rfl)
      (fun first second third toSecond toThird frozen => ?_)
      (fun _ held ref? grown added frozen => ?_) ends (apart isTable)
    · have same := toSecond frozen
      exact (toThird (same.symm ▸ frozen)).trans same
    · cases ref? with
      | none => exact (Except.ok.inj added).symm
      | some ref =>
          rw [ReferenceTable.add_of_frozen frozen] at added
          contradiction
  · exact relates_addEach (fun held grown => grown = held) (fun _ => rfl)
      (fun _ _ _ toSecond toThird => toThird.trans toSecond) (fun same => absurd same isTable) ends

theorem frozen_addEach {refs : List (Option Reference)} {outcome : Except Failure Unit}
    {next : Tables} (ends : Step.Ends (addEach table refs) tables outcome next) (name : Nat) :
    (next name).frozen = (tables name).frozen :=
  relates_addEach (fun held grown => grown.frozen = held.frozen) (fun _ => rfl)
    (fun _ _ _ toSecond toThird => toThird.trans toSecond)
    (fun _ _ _ _ added => ReferenceTable.frozen_add added) ends

/-! ## One call -/

section

variable {name : Nat} {refs : List Reference} {call : TableCall}

/-- A frozen table stays as it is, whatever is called. -/
theorem afterCall_of_frozen (frozen : (tables name).frozen = true) (call : TableCall) :
    tables.afterCall call name = tables name := by
  obtain ⟨outcome, next, ends⟩ := Step.ends_exists (step call) tables
  rw [afterCall_of_ends ends]
  cases call with
  | add table ref? => exact addEach_frame ends fun _ => frozen
  | merge table other => exact addEach_frame (ends_merge.mp ends) fun _ => frozen
  | freeze table =>
      obtain ⟨-, rfl⟩ := Prod.mk.inj ends
      by_cases isTable : name = table
      · subst isTable
        rw [Function.update_self, ReferenceTable.freeze, ← frozen]
      · exact Function.update_of_ne isTable _ tables

/-- Only its own freezing freezes a table. -/
theorem frozen_afterCall (other : call ≠ .freeze name) :
    (tables.afterCall call name).frozen = (tables name).frozen := by
  obtain ⟨outcome, next, ends⟩ := Step.ends_exists (step call) tables
  rw [afterCall_of_ends ends]
  cases call with
  | add table ref? => exact frozen_addEach ends name
  | merge table source => exact frozen_addEach (ends_merge.mp ends) name
  | freeze table =>
      obtain ⟨-, rfl⟩ := Prod.mk.inj ends
      have isOther : name ≠ table := by
        rintro rfl
        exact other rfl
      rw [Function.update_of_ne isOther]

private theorem collects_addEach (collects : (tables name).Collects refs)
    (isOpen : (tables name).frozen = false) {given : List (Option Reference)}
    {outcome : Except Failure Unit} {next : Tables}
    (ends : Step.Ends (addEach table given) tables outcome next) :
    (next name).Collects (refs ++ if table = name then given.filterMap id else []) := by
  by_cases isTable : table = name
  · subst isTable
    obtain ⟨grown, added, -, grownCollects⟩ := collects.addAll isOpen given
    obtain ⟨-, rfl⟩ := Prod.mk.inj (ends.symm.trans (ends_addEach added))
    rw [if_pos rfl, Function.update_self]
    exact grownCollects
  · rw [if_neg isTable, List.append_nil, addEach_frame ends fun same => absurd same.symm isTable]
    exact collects

/-- A table collects what a call offers to it. -/
theorem collects_afterCall (collects : (tables name).Collects refs) (call : TableCall) :
    (tables.afterCall call name).Collects (refs ++ tables.offers name call) := by
  by_cases frozen : (tables name).frozen
  · have noOffer : tables.offers name call = [] := if_pos frozen
    rw [noOffer, List.append_nil, afterCall_of_frozen frozen]
    exact collects
  · have isOpen : (tables name).frozen = false := Bool.not_eq_true _ ▸ frozen
    obtain ⟨outcome, next, ends⟩ := Step.ends_exists (step call) tables
    unfold offers
    rw [if_neg frozen, afterCall_of_ends ends]
    cases call with
    | add table ref? =>
        have given : [ref?].filterMap id = ref?.toList := by cases ref? <;> rfl
        have grown := collects_addEach collects isOpen ends
        rwa [given] at grown
    | merge table other =>
        have given : ((tables other).toList.map some).filterMap id = (tables other).toList := by simp
        have grown := collects_addEach collects isOpen (ends_merge.mp ends)
        rwa [given] at grown
    | freeze table =>
        obtain ⟨-, rfl⟩ := Prod.mk.inj ends
        rw [List.append_nil]
        by_cases isTable : name = table
        · subst isTable
          rw [Function.update_self]
          exact ⟨collects.groups, collects.seen⟩
        · rw [Function.update_of_ne isTable]
          exact collects

/-- What a call offers is given with it, or is in a table. -/
theorem mem_offers {ref : Reference} (offered : ref ∈ tables.offers name call) :
    (∃ table, call = .add table (some ref)) ∨ ∃ other, ref ∈ (tables other).toList := by
  unfold offers at offered
  split at offered
  · contradiction
  · cases call with
    | add table ref? =>
        obtain ⟨-, isRef⟩ := (List.mem_ite_nil_right ..).mp offered
        rw [Option.mem_toList.mp isRef]
        exact .inl ⟨table, rfl⟩
    | merge table other =>
        obtain ⟨-, held⟩ := (List.mem_ite_nil_right ..).mp offered
        exact .inr ⟨other, held⟩
    | freeze table => contradiction

end

/-! ## Calls in a row -/

section

variable {name : Nat} {refs : List Reference}

theorem after_of_frozen (frozen : (tables name).frozen = true) (calls : List TableCall) :
    tables.after calls name = tables name := by
  induction calls generalizing tables with
  | nil => rfl
  | cons call rest inductionHypothesis =>
      have same := afterCall_of_frozen frozen call
      exact (inductionHypothesis (same.symm ▸ frozen)).trans same

theorem frozen_after {calls : List TableCall} (member : .freeze name ∈ calls) :
    (tables.after calls name).frozen = true := by
  induction calls generalizing tables with
  | nil => contradiction
  | cons call rest inductionHypothesis =>
      rcases List.mem_cons.mp member with rfl | later
      · have frozen : (tables.afterCall (.freeze name) name).frozen = true := by
          have frozenNow : tables.afterCall (.freeze name) =
              Function.update tables name (tables name).freeze := rfl
          rw [frozenNow, Function.update_self]
          rfl
        rw [after, after_of_frozen frozen, frozen]
      · exact inductionHypothesis later

theorem open_after {calls : List TableCall} (isOpen : (tables name).frozen = false)
    (never : .freeze name ∉ calls) : (tables.after calls name).frozen = false := by
  induction calls generalizing tables with
  | nil => exact isOpen
  | cons call rest inductionHypothesis =>
      obtain ⟨notNow, notLater⟩ := not_or.mp (mt List.mem_cons.mpr never)
      rw [after]
      refine inductionHypothesis ?_ notLater
      rw [frozen_afterCall (Ne.symm notNow), isOpen]

theorem collects_after (collects : (tables name).Collects refs) (calls : List TableCall) :
    (tables.after calls name).Collects (refs ++ tables.offered name calls) := by
  induction calls generalizing tables refs with
  | nil =>
      rw [offered, List.append_nil]
      exact collects
  | cons call rest inductionHypothesis =>
      rw [after, offered, ← List.append_assoc]
      exact inductionHypothesis (collects_afterCall collects call)

/-- If all references that are given with calls are of one project, so are all that tables are offered. -/
theorem isOf_offered {project : Project} {calls : List TableCall}
    (collects : ∀ other, ∃ held, (tables other).Collects held ∧ ∀ ref ∈ held, ref.IsOf project)
    (given : ∀ table ref, .add table (some ref) ∈ calls → ref.IsOf project) :
    ∀ ref ∈ tables.offered name calls, ref.IsOf project := by
  induction calls generalizing tables with
  | nil => exact fun ref impossible => nomatch impossible
  | cons call rest inductionHypothesis =>
      have offersOf (other : Nat) : ∀ ref ∈ tables.offers other call, ref.IsOf project := by
        intro ref offered
        rcases mem_offers offered with ⟨table, rfl⟩ | ⟨source, held⟩
        · exact given table ref List.mem_cons_self
        · obtain ⟨all, collectsAll, areOf⟩ := collects source
          exact areOf ref (collectsAll.mem_offered held)
      rw [offered, List.forall_mem_append]
      refine ⟨offersOf name, inductionHypothesis (fun other => ?_) fun table ref member =>
        given table ref (List.mem_cons_of_mem _ member)⟩
      obtain ⟨held, collectsHeld, areOf⟩ := collects other
      refine ⟨_, collects_afterCall collectsHeld call, ?_⟩
      exact List.forall_mem_append.mpr ⟨areOf, offersOf other⟩

end

end Tables

/-! ## Growth -/

namespace ReferenceTable

/-- A table that grows to another keeps its files and the references of each in order, and gets new ones after
them. -/
def GrowsTo (table grown : ReferenceTable) : Prop :=
  ∃ kept new, grown.groups = kept ++ new ∧
    List.Forall₂ (fun group larger : ReferenceGroup => larger.source = group.source ∧
      group.defaults <+: larger.defaults ∧ group.named <+: larger.named) table.groups kept

theorem growsTo_of_collects {table grown : ReferenceTable} {refs more : List Reference}
    (collects : table.Collects refs) (collectsMore : grown.Collects (refs ++ more)) :
    table.GrowsTo grown := by
  rw [GrowsTo, collects.groups, collectsMore.groups, Reference.firsts_append]
  unfold grouped
  rw [List.map_append, List.eraseDups_append, List.map_append]
  refine ⟨_, _, rfl, ?_⟩
  rw [List.forall₂_map_left_iff, List.forall₂_map_right_iff, List.forall₂_same]
  intro source _
  rw [groupOf_append]
  exact ⟨rfl, List.prefix_append _ _, List.prefix_append _ _⟩

end ReferenceTable

/-! ## The whole -/

namespace Tables

/-- What a table holds after any calls, with the references that it was offered: one reference to each declaration,
in order of first insertion. -/
structure Kept (project : Project) (offered : List Reference) (table : ReferenceTable) : Prop where
  distinct : table.ids.Nodup
  accepts : ∀ ref, ref.IsOf project →
    (table.contains ref ↔ ∃ listed ∈ table.toList, listed.declaration = ref.declaration)
  files : table.sources.Nodup
  nonempty : ∀ group ∈ table.groups, group.all ≠ []
  defaults : ∀ group ∈ table.groups, ∀ ref ∈ group.defaults,
    ref.source = group.source ∧ ref.isDefault = true
  named : ∀ group ∈ table.groups, ∀ ref ∈ group.named,
    ref.source = group.source ∧ ref.isDefault = false
  inOrder : table.groups = ReferenceTable.grouped (Reference.firsts offered)

/-- A frozen table takes no reference and no table that holds any; nothing may still be added, and a table that
holds nothing merged. -/
structure Refuses (tables : Tables) (name : Nat) : Prop where
  add : ∀ ref, Step.Ends (step (.add name (some ref))) tables (.error (.frozen ref.name)) tables
  addNone : Step.Ends (step (.add name none)) tables (.ok ()) tables
  merge : ∀ other first rest, (tables other).toList = first :: rest →
    Step.Ends (step (.merge name other)) tables (.error (.frozen first.name)) tables
  mergeEmpty : ∀ other, (tables other).toList = [] →
    Step.Ends (step (.merge name other)) tables (.ok ()) tables

/-- A table that is not frozen refuses nothing. -/
structure Takes (tables : Tables) (name : Nat) : Prop where
  add : ∀ ref?, ∃ next, Step.Ends (step (.add name ref?)) tables (.ok ()) next
  merge : ∀ other, ∃ next, Step.Ends (step (.merge name other)) tables (.ok ()) next

theorem kept_of_collects {project : Project} (sound : project.Sound) {offered : List Reference}
    {table : ReferenceTable} (collects : table.Collects offered)
    (areOf : ∀ ref ∈ offered, ref.IsOf project) : Kept project offered table where
  distinct := collects.indexed.nodup
  accepts ref isOf := by
    rw [collects.indexed.contains_iff, ReferenceTable.ids, List.mem_map]
    refine exists_congr fun listed => and_congr_right fun held => ?_
    constructor
    · exact Reference.declaration_eq_of_id sound (areOf listed (collects.mem_offered held)) isOf
    · exact congrArg Declaration.id
  files := by
    rw [ReferenceTable.sources, collects.groups, ReferenceTable.sources_grouped]
    exact FirstOccurrence.nodup_eraseDups _
  nonempty group member := (ReferenceTable.mem_grouped (collects.groups ▸ member)).2
  defaults group member ref inDefaults := by
    rw [collects.groups] at member
    obtain ⟨isGroup, -⟩ := ReferenceTable.mem_grouped member
    rw [isGroup] at inDefaults
    simpa using (List.mem_filter.mp inDefaults).2
  named group member ref inNamed := by
    rw [collects.groups] at member
    obtain ⟨isGroup, -⟩ := ReferenceTable.mem_grouped member
    rw [isGroup] at inNamed
    simpa using (List.mem_filter.mp inNamed).2
  inOrder := collects.groups

theorem refuses_of_frozen {tables : Tables} {name : Nat} (frozen : (tables name).frozen = true) :
    tables.Refuses name where
  add ref := ends_addEach_of_frozen frozen ref []
  addNone := ends_addEach_none
  merge other first rest held := by
    rw [ends_merge, held, List.map_cons]
    exact ends_addEach_of_frozen frozen first _
  mergeEmpty other held := by
    rw [ends_merge, held]
    exact Step.ends_pure.mpr ⟨rfl, rfl⟩

theorem takes_of_open {tables : Tables} {name : Nat} {refs : List Reference}
    (collects : (tables name).Collects refs) (isOpen : (tables name).frozen = false) :
    tables.Takes name where
  add ref? := by
    obtain ⟨grown, added, -⟩ := collects.addAll isOpen [ref?]
    exact ⟨_, ends_addEach added⟩
  merge other := by
    obtain ⟨grown, merged, -⟩ := collects.merge isOpen (tables other)
    exact ⟨_, ends_merge.mpr (ends_addEach merged)⟩

/-- After any calls with references of one project, every table keeps one reference to each declaration, in the
order in which they came; later calls only add to it; and it refuses them from when it is frozen on, and never
before. -/
theorem kept_after {project : Project} (reachable : project.Reachable) {calls : List TableCall}
    (given : ∀ table ref, .add table (some ref) ∈ calls → ref.IsOf project) (name : Nat) :
    Kept project (empty.offered name calls) (empty.after calls name) ∧
      (∀ more, (empty.after calls name).GrowsTo (empty.after (calls ++ more) name)) ∧
      (.freeze name ∈ calls → (empty.after calls).Refuses name) ∧
      (.freeze name ∉ calls → (empty.after calls).Takes name) := by
  have collects : (empty.after calls name).Collects (empty.offered name calls) :=
    @collects_after empty name [] ReferenceTable.collects_empty calls
  have areOf := @isOf_offered empty name project calls
    (fun _ => ⟨[], ReferenceTable.collects_empty, fun ref impossible => nomatch impossible⟩) given
  refine ⟨kept_of_collects reachable.sound collects areOf, fun more => ?_, fun isFrozen => ?_,
    fun never => ?_⟩
  · rw [after_append]
    exact ReferenceTable.growsTo_of_collects collects (collects_after collects more)
  · exact refuses_of_frozen (frozen_after isFrozen)
  · exact takes_of_open collects (open_after rfl never)

/-- A table of one reference takes another table, then itself, and is frozen before it is called again. -/
def inkCalls : List TableCall :=
  ((ReferenceTable.enumReferences ReferenceTable.inkProject).take 1).map (.add 0) ++
    (ReferenceTable.enumReferences ReferenceTable.inkProject).reverse.map (.add 1) ++
    [.merge 0 1, .merge 0 0, .freeze 0, .merge 0 1]

theorem kept_after_ink :
    Kept ReferenceTable.inkProject (empty.offered 0 inkCalls) (empty.after inkCalls 0) ∧
      (empty.after inkCalls).Refuses 0 ∧
      (empty.after inkCalls 0).toList.map (·.name) = ["Hue", "Tone", "Ink"] := by
  have given : ∀ table ref, .add table (some ref) ∈ inkCalls →
      ref.IsOf ReferenceTable.inkProject := by
    intro table ref member
    refine ReferenceTable.isOf_of_mem_enumReferences ReferenceTable.reachable_inkProject.sound ?_
    rcases List.mem_append.mp member with inAdds | inOthers
    · rcases List.mem_append.mp inAdds with inFirst | inSecond
      · obtain ⟨ref?, isOne, ⟨⟩⟩ := List.mem_map.mp inFirst
        exact List.mem_of_mem_take isOne
      · obtain ⟨ref?, isOne, ⟨⟩⟩ := List.mem_map.mp inSecond
        exact List.mem_reverse.mp isOne
    · simp at inOthers
  obtain ⟨kept, -, refuses, -⟩ := kept_after ReferenceTable.reachable_inkProject given 0
  refine ⟨kept, refuses ?_, by decide +kernel⟩
  exact List.mem_append_right _ (by simp)

end Tables

end DeclaredOptions
