import DeclaredOptions.Proofs.Reference.History
import DeclaredOptions.Proofs.Schema.Assembly
import Mathlib.Data.List.Pairwise

/-!
Contract: what the symbol check finds among a command and the references of a table.

Owns:
- clashes, which are two symbols of one name and of different declarations;
- the first symbol that clashes with an earlier one, which is the one that a refusal names;
- references under the names that their declarations are bound to, for which it makes no difference in which order a
  table was offered them.

Does not own: how a table is filled.

## What the scan remembers

The scan looks a name up among the symbols before, the last one first, so a later symbol hides the earlier ones of
its name. Nothing is lost by that. As long as no clash has been found, all symbols before that have one name are of
one declaration, and each of them stands for the others (`Unambiguous` of the symbols seen). So the declaration that
a refusal describes first is the only one that it could describe.

## Why the order needs the names

A table keeps the first reference to each declaration. If two references to one declaration had different names,
the order would choose the name, and with it whether there is a clash.
-/

set_option autoImplicit false

namespace DeclaredOptions

namespace Reference

/-! ## Clashes -/

/-- Two symbols of one name and of different declarations. -/
def Clashes (a b : Reference) : Prop := a.name = b.name ∧ a.declaration ≠ b.declaration

/-- A symbol is the first that clashes with one before it: no symbol before it does. -/
structure ClashesFirst (symbols earlier : List Reference) (other ref : Reference) : Prop where
  splits : ∃ later, symbols = earlier ++ ref :: later
  before : other ∈ earlier
  clashes : other.Clashes ref
  noneBefore : earlier.Pairwise fun a b => ¬a.Clashes b

/-- A reference that goes by the name its declaration is bound to. -/
def IsBound (ref : Reference) : Prop := ref.name = ref.declaration.bindingName

theorem isBound_toEnum {d : Declaration} (wellNamed : d.WellNamed) (isEnum : d.isEnum) :
    (toEnum d).IsBound := by
  obtain ⟨name, named, -⟩ := wellNamed.enum isEnum
  simp [IsBound, toEnum, named, wellNamed.bindingName_eq named]

/-- Either no two symbols clash, or some symbol is the first to do so. -/
theorem pairwise_or_clashesFirst (symbols : List Reference) :
    symbols.Pairwise (fun a b => ¬a.Clashes b) ∨
      ∃ earlier other ref, ClashesFirst symbols earlier other ref := by
  induction symbols using List.reverseRecOn with
  | nil => exact .inl .nil
  | append_singleton symbols last inductionHypothesis =>
      rcases inductionHypothesis with noneBefore | ⟨earlier, other, ref, found⟩
      · by_cases clashing : ∃ other ∈ symbols, other.Clashes last
        · obtain ⟨other, before, clashes⟩ := clashing
          exact .inr ⟨symbols, other, last, ⟨[], rfl⟩, before, clashes, noneBefore⟩
        · refine .inl (List.pairwise_append.mpr ⟨noneBefore, List.pairwise_singleton _ _, ?_⟩)
          intro other before _ isLast clashes
          rw [List.mem_singleton.mp isLast] at clashes
          exact clashing ⟨other, before, clashes⟩
      · obtain ⟨later, split⟩ := found.splits
        refine .inr ⟨earlier, other, ref, ⟨later ++ [last], ?_⟩, found.before, found.clashes,
          found.noneBefore⟩
        simp [split]

section

variable {project : Project} {symbols : List Reference}

theorem clashes_iff (sound : project.Sound) {a b : Reference} (first : a.IsOf project)
    (second : b.IsOf project) : a.Clashes b ↔ a.name = b.name ∧ a.id ≠ b.id := by
  have sameIff : a.declaration = b.declaration ↔ a.id = b.id :=
    ⟨congrArg Declaration.id, declaration_eq_of_id sound first second⟩
  rw [Clashes, Ne, sameIff]

/-- No name stands for two declarations of a project exactly if no two symbols clash. -/
theorem unambiguous_iff (sound : project.Sound) (areOf : ∀ ref ∈ symbols, ref.IsOf project) :
    Unambiguous symbols ↔ ∀ a ∈ symbols, ∀ b ∈ symbols, ¬a.Clashes b := by
  refine forall₂_congr fun a first => forall₂_congr fun b second => ?_
  rw [clashes_iff sound (areOf a first) (areOf b second), not_and_not_right]

theorem unambiguous_of_pairwise (sound : project.Sound)
    (areOf : ∀ ref ∈ symbols, ref.IsOf project)
    (apart : symbols.Pairwise fun a b => ¬a.Clashes b) : Unambiguous symbols := by
  have symmetric : Std.Symm fun a b : Reference => ¬a.Clashes b :=
    ⟨fun a b apart clashes => apart ⟨clashes.1.symm, clashes.2.symm⟩⟩
  have everywhere := List.Pairwise.forall_of_forall (fun a _ clashes => clashes.2 rfl) apart
  exact (unambiguous_iff sound areOf).mpr fun a first b second => everywhere first second

end

end Reference

/-! ## The scan -/

/-- Symbols of which no name stands for two declarations are passed over, and looked at from then on. -/
theorem clashAmong?_append {earlier seen : List Reference}
    (unambiguous : Unambiguous (earlier.reverse ++ seen)) (rest : List Reference) :
    clashAmong? seen (earlier ++ rest) = clashAmong? (earlier.reverse ++ seen) rest := by
  induction earlier generalizing seen with
  | nil => rfl
  | cons ref earlier inductionHypothesis =>
      have shifted : (ref :: earlier).reverse ++ seen = earlier.reverse ++ ref :: seen := by simp
      rw [shifted] at unambiguous ⊢
      have unambiguousNow : Unambiguous (ref :: seen) := fun a first b second =>
        unambiguous a (List.mem_append_right _ first) b (List.mem_append_right _ second)
      rw [List.cons_append, clashAmong?_cons_of_unambiguous unambiguousNow]
      exact inductionHypothesis unambiguous

variable {project : Project} {command : Option Reference} {table : ReferenceTable}

/-- The first symbol that clashes with an earlier one is the one that is refused, with the earlier declaration. -/
theorem checkSymbols_of_clashesFirst (sound : project.Sound)
    (areOf : ∀ ref ∈ command.toList ++ table.toList, ref.IsOf project)
    {earlier : List Reference} {other ref : Reference}
    (first : Reference.ClashesFirst (command.toList ++ table.toList) earlier other ref) :
    checkSymbols command table = .error (.conflict
      (.ambiguous ref.name other.declaration.describe ref.declaration.describe)) := by
  obtain ⟨later, split⟩ := first.splits
  rw [split, List.forall_mem_append, List.forall_mem_cons] at areOf
  obtain ⟨earlierOf, refOf, -⟩ := areOf
  have unambiguous : Unambiguous (earlier.reverse ++ []) := by
    have inOrder := Reference.unambiguous_of_pairwise sound earlierOf first.noneBefore
    simpa [Unambiguous] using inOrder
  have otherSeen : other ∈ earlier.reverse ++ [] := by simpa using first.before
  have otherOf := earlierOf other first.before
  obtain ⟨sameName, differ⟩ := (Reference.clashes_iff sound otherOf refOf).mp first.clashes
  obtain ⟨found, foundSeen, sameId, isFound⟩ :=
    clashAmong?_cons_of_clash unambiguous otherSeen sameName differ later
  have foundOf : found.IsOf project := earlierOf found (by simpa using foundSeen)
  have sameDeclaration := Reference.declaration_eq_of_id sound foundOf otherOf sameId
  rw [checkSymbols, split, clashAmong?_append unambiguous, isFound, ← sameDeclaration]

/-! ## The order in which a table was offered its references -/

/-- What a table was offered is there, under its name and its number, where references are under bound names. -/
theorem ReferenceTable.Collects.exists_kept {offered : List Reference}
    (collects : table.Collects offered) (sound : project.Sound)
    (areOf : ∀ ref ∈ offered, ref.IsOf project) (areBound : ∀ ref ∈ offered, ref.IsBound)
    {ref : Reference} (isOffered : ref ∈ offered) :
    ∃ kept ∈ table.toList, kept.name = ref.name ∧ kept.id = ref.id := by
  have hasId : ref.id ∈ (Reference.firsts offered).map (·.id) :=
    Reference.mem_ids_firsts.mpr (List.mem_map_of_mem isOffered)
  obtain ⟨kept, isFirst, sameId⟩ := List.mem_map.mp hasId
  have wasOffered := Reference.mem_of_mem_firsts isFirst
  have sameDeclaration : kept.declaration = ref.declaration :=
    Reference.declaration_eq_of_id sound (areOf kept wasOffered) (areOf ref isOffered) sameId
  refine ⟨kept, ?_, ?_, sameId⟩
  · rw [collects.toList]
    exact (regrouped_perm _).mem_iff.mpr isFirst
  · calc
      kept.name = kept.declaration.bindingName := areBound kept wasOffered
      _ = ref.declaration.bindingName := congrArg _ sameDeclaration
      _ = ref.name := (areBound ref isOffered).symm

/-- The check passes for a table exactly if no name stands for two declarations among all that it was offered. -/
theorem ReferenceTable.Collects.checkSymbols_eq_ok_iff {offered : List Reference}
    (collects : table.Collects offered) (sound : project.Sound)
    (areOf : ∀ ref ∈ offered, ref.IsOf project) (areBound : ∀ ref ∈ offered, ref.IsBound) :
    checkSymbols command table = .ok () ↔ Unambiguous (command.toList ++ offered) := by
  have covered : ∀ ref ∈ command.toList ++ offered,
      ∃ kept ∈ command.toList ++ table.toList, kept.name = ref.name ∧ kept.id = ref.id := by
    intro ref member
    rcases List.mem_append.mp member with isCommand | isOffered
    · exact ⟨ref, List.mem_append_left _ isCommand, rfl, rfl⟩
    · obtain ⟨kept, held, same⟩ := collects.exists_kept sound areOf areBound isOffered
      exact ⟨kept, List.mem_append_right _ held, same⟩
  have wasOffered : ∀ ref ∈ command.toList ++ table.toList, ref ∈ command.toList ++ offered := by
    simp only [List.mem_append]
    exact fun ref => Or.imp id collects.mem_offered
  rw [DeclaredOptions.checkSymbols_eq_ok_iff]
  constructor
  · intro unambiguous a first b second sameName
    obtain ⟨keptFirst, firstHeld, firstName, firstId⟩ := covered a first
    obtain ⟨keptSecond, secondHeld, secondName, secondId⟩ := covered b second
    rw [← firstId, ← secondId]
    refine unambiguous keptFirst firstHeld keptSecond secondHeld ?_
    rw [firstName, secondName, sameName]
  · intro unambiguous a first b second
    exact unambiguous a (wasOffered a first) b (wasOffered b second)

/-! ## The whole -/

namespace Tables

/-- The symbol check for a command and the references that a table holds after any calls. It refuses them exactly if
two of them clash; what it refuses is the first that clashes with one before it, and it names the two declarations;
and for references under bound names it is only the set of those offered that decides whether it passes. -/
theorem checkSymbols_after (reachable : project.Reachable) {calls : List TableCall}
    (given : ∀ table ref, .add table (some ref) ∈ calls → ref.IsOf project)
    (own : ∀ ref ∈ command, ref.IsOf project) (name : Nat) :
    ((∃ failure, checkSymbols command (empty.after calls name) = .error failure) ↔
      ∃ a ∈ command.toList ++ (empty.after calls name).toList,
        ∃ b ∈ command.toList ++ (empty.after calls name).toList, a.Clashes b) ∧
    (∀ failure, checkSymbols command (empty.after calls name) = .error failure ↔
      ∃ earlier other ref,
        Reference.ClashesFirst (command.toList ++ (empty.after calls name).toList)
          earlier other ref ∧
        failure = .conflict
          (.ambiguous ref.name other.declaration.describe ref.declaration.describe)) ∧
    ((∀ ref ∈ empty.offered name calls, ref.IsBound) →
      ∀ otherCalls otherName,
        (∀ ref, ref ∈ empty.offered otherName otherCalls ↔ ref ∈ empty.offered name calls) →
        (checkSymbols command (empty.after otherCalls otherName) = .ok () ↔
          checkSymbols command (empty.after calls name) = .ok ())) := by
  have collects (calls : List TableCall) (name : Nat) :
      (empty.after calls name).Collects (empty.offered name calls) :=
    @collects_after empty name [] ReferenceTable.collects_empty calls
  have offeredOf : ∀ ref ∈ empty.offered name calls, ref.IsOf project :=
    isOf_offered (fun _ => ⟨[], ReferenceTable.collects_empty, fun ref absent => nomatch absent⟩) given
  have sound := reachable.sound
  have areOf : ∀ ref ∈ command.toList ++ (empty.after calls name).toList, ref.IsOf project := by
    refine List.forall_mem_append.mpr ⟨fun ref isCommand => own ref (Option.mem_toList.mp isCommand), ?_⟩
    exact fun ref held => offeredOf ref ((collects calls name).mem_offered held)
  have refused : ∀ failure, checkSymbols command (empty.after calls name) = .error failure ↔
      ∃ earlier other ref,
        Reference.ClashesFirst (command.toList ++ (empty.after calls name).toList)
          earlier other ref ∧
        failure = .conflict
          (.ambiguous ref.name other.declaration.describe ref.declaration.describe) := by
    intro failure
    constructor
    · intro fails
      rcases Reference.pairwise_or_clashesFirst
        (command.toList ++ (empty.after calls name).toList) with apart | ⟨earlier, other, ref, first⟩
      · have passes := checkSymbols_eq_ok_iff.mpr
          (Reference.unambiguous_of_pairwise sound areOf apart)
        rw [passes] at fails
        contradiction
      · have isRefusal := checkSymbols_of_clashesFirst sound areOf first
        exact ⟨earlier, other, ref, first, Except.error.inj (fails.symm.trans isRefusal)⟩
    · rintro ⟨earlier, other, ref, first, rfl⟩
      exact checkSymbols_of_clashesFirst sound areOf first
  refine ⟨⟨?_, ?_⟩, refused, ?_⟩
  · rintro ⟨failure, fails⟩
    obtain ⟨earlier, other, ref, ⟨⟨later, split⟩, before, clashes, -⟩, -⟩ := (refused failure).mp fails
    rw [split]
    exact ⟨other, List.mem_append_left _ before, ref, by simp, clashes⟩
  · rintro ⟨a, first, b, second, clashes⟩
    cases outcome : checkSymbols command (empty.after calls name) with
    | error failure => exact ⟨failure, rfl⟩
    | ok _ =>
        have unambiguous := checkSymbols_eq_ok_iff.mp outcome
        exact absurd clashes ((Reference.unambiguous_iff sound areOf).mp unambiguous a first b second)
  · intro areBound otherCalls otherName sameOffers
    have otherOf : ∀ ref ∈ empty.offered otherName otherCalls, ref.IsOf project := fun ref offered =>
      offeredOf ref ((sameOffers ref).mp offered)
    have otherBound : ∀ ref ∈ empty.offered otherName otherCalls, ref.IsBound := fun ref offered =>
      areBound ref ((sameOffers ref).mp offered)
    rw [(collects otherCalls otherName).checkSymbols_eq_ok_iff sound otherOf otherBound,
      (collects calls name).checkSymbols_eq_ok_iff sound offeredOf areBound]
    simp only [Unambiguous, List.mem_append, sameOffers]

/-- The calls that add references to a table in their order. -/
def adds (name : Nat) (refs : List Reference) : List TableCall :=
  refs.map fun ref => .add name (some ref)

theorem offered_adds {tables : Tables} {name : Nat} (isOpen : (tables name).frozen = false)
    (refs : List Reference) : tables.offered name (adds name refs) = refs := by
  induction refs generalizing tables with
  | nil => rfl
  | cons ref rest inductionHypothesis =>
      have offersRef : tables.offers name (.add name (some ref)) = [ref] := by
        simp [offers, isOpen]
      have staysOpen : (tables.afterCall (.add name (some ref)) name).frozen = false := by
        rw [frozen_afterCall (by simp), isOpen]
      have offeredRest := inductionHypothesis staysOpen
      rw [adds] at offeredRest ⊢
      rw [List.map_cons, offered, offersRef, offeredRest, List.singleton_append]

/-- A project of two files, which declare an enum of one name. -/
@[irreducible] def twinProject : Project :=
  .ofTexts [("a.ts", "export enum E{} export function f(){}"), ("b.ts", "export enum E{}")]

theorem reachable_twinProject : twinProject.Reachable := by
  unfold twinProject
  exact Project.reachable_ofTexts _

/-- The references to the enums of the project. -/
def twinEnums : List Reference := (twinProject.declared.filter (·.isEnum)).map .toEnum

/-- The reference to the function of the project. -/
def twinCommand : Option Reference :=
  (twinProject.declared.find? (·.isFunction)).map .toCommand

/-- Two enums of one name clash, whichever of them comes first. -/
theorem checkSymbols_after_twins :
    checkSymbols twinCommand (empty.after (adds 0 twinEnums) 0) =
        .error (.conflict (.ambiguous "E" "enum 'E' at a.ts:1" "enum 'E' at b.ts:1")) ∧
      (∃ earlier other ref, Reference.ClashesFirst
        (twinCommand.toList ++ (empty.after (adds 0 twinEnums) 0).toList)
        earlier other ref ∧ ref.name = "E") ∧
      checkSymbols twinCommand (empty.after (adds 0 twinEnums.reverse) 0) ≠
        .ok () := by
  have sound := reachable_twinProject.sound
  have fromEnum : ∀ ref ∈ twinEnums, ref.IsOf twinProject ∧ ref.IsBound := by
    intro ref member
    obtain ⟨d, isOne, rfl⟩ := List.mem_map.mp member
    obtain ⟨isDeclared, isEnum⟩ := List.mem_filter.mp isOne
    exact ⟨Reference.isOf_toDeclaration sound isDeclared _,
      Reference.isBound_toEnum (sound.wellNamed d isDeclared) isEnum⟩
  have own : ∀ ref ∈ twinCommand, ref.IsOf twinProject := by
    intro ref isCommand
    obtain ⟨d, found, rfl⟩ := Option.map_eq_some_iff.mp isCommand
    exact Reference.isOf_toDeclaration sound (List.mem_of_find?_eq_some found) _
  have given : ∀ table ref, .add table (some ref) ∈ adds 0 twinEnums → ref.IsOf twinProject := by
    intro table ref member
    obtain ⟨_, isOne, ⟨⟩⟩ := List.mem_map.mp member
    exact (fromEnum ref isOne).1
  obtain ⟨-, refused, order⟩ := checkSymbols_after reachable_twinProject given own 0
  have fails : checkSymbols twinCommand (empty.after (adds 0 twinEnums) 0) =
      .error (.conflict (.ambiguous "E" "enum 'E' at a.ts:1" "enum 'E' at b.ts:1")) := by
    decide +kernel
  obtain ⟨earlier, other, ref, first, isRefusal⟩ := (refused _).mp fails
  injection isRefusal with isConflict
  injection isConflict with isName
  refine ⟨fails, ⟨earlier, other, ref, first, isName.symm⟩, fun passes => ?_⟩
  rw [offered_adds rfl] at order
  have reversed := order (fun ref member => (fromEnum ref member).2)
    (adds 0 twinEnums.reverse) 0 fun ref => by rw [offered_adds rfl, List.mem_reverse]
  rw [reversed, fails] at passes
  contradiction

end Tables

end DeclaredOptions
