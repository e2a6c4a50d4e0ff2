import DeclaredOptions.Proofs.Schema.Resolution

/-!
Contract: unions with alternatives that stand for no value, and what they resolve to.

Owns:
- trees of unions around one type, whose other leaves stand for no value;
- what is left of a union without such alternatives;
- the trees that resolve as the type does, and the refusal of all others.

Does not own: how unions are written, and the types that they wrap.
-/

set_option autoImplicit false

namespace DeclaredOptions

namespace TypeExpr

/-! ## Trees of unions -/

/-- A tree of unions whose leaves all stand for no value. -/
inductive Void : TypeExpr → Prop where
  | leaf {type : TypeExpr} (nullish : type.isNullish = true) : Void type
  | node {types : List TypeExpr} (voids : ∀ type ∈ types, Void type) : Void (.union types)

/-- A tree of unions with a type as one of its leaves, where all other leaves stand for no value. -/
inductive Wraps (type : TypeExpr) : TypeExpr → Prop where
  | leaf : Wraps type type
  | node {before after : List TypeExpr} {inner : TypeExpr} (wraps : Wraps type inner)
      (voidBefore : ∀ other ∈ before, Void other) (voidAfter : ∀ other ∈ after, Void other) :
      Wraps type (.union (before ++ inner :: after))

/-- A union of a type with types that stand for no value. -/
def Beside (type tree : TypeExpr) : Prop :=
  type.isNullish = false ∧ ∃ before after, tree = .union (before ++ type :: after) ∧
    (∀ other ∈ before, other.isNullish = true) ∧ ∀ other ∈ after, other.isNullish = true

/-- A tree that is the type, a union of the type with leaves that stand for no value or, for a scalar, such a
union in another. -/
def Reduces (type tree : TypeExpr) : Prop :=
  tree = type ∨ Beside type tree ∨
    type.scalar?.isSome = true ∧ ∃ inner, Beside type inner ∧ Beside inner tree

def IsUnion (type : TypeExpr) : Prop := ∃ types, type = .union types

/-! ## What is left of a union -/

theorem withoutNullish_of_not_isUnion {type : TypeExpr} (notUnion : ¬type.IsUnion) :
    type.withoutNullish = type := by
  unfold withoutNullish
  split
  · rename_i types
    exact absurd ⟨types, rfl⟩ notUnion
  · rfl

/-- The alternatives of a union that do not stand for no value. -/
def alternatives (types : List TypeExpr) : List TypeExpr := types.filter fun type => !type.isNullish

theorem mem_alternatives {types : List TypeExpr} {type : TypeExpr} :
    type ∈ alternatives types ↔ type ∈ types ∧ type.isNullish = false := by
  simp [alternatives]

theorem withoutNullish_union (types : List TypeExpr) :
    (union types).withoutNullish =
      match alternatives types with
      | [] => union types
      | [one] => one
      | rest => union rest := rfl

theorem alternatives_eq_singleton_iff {types : List TypeExpr} {type : TypeExpr} :
    alternatives types = [type] ↔ Beside type (union types) := by
  unfold alternatives Beside
  rw [List.filter_eq_cons_iff]
  constructor
  · rintro ⟨before, after, rfl, nullishBefore, notNullish, nullishAfter⟩
    refine ⟨by simpa using notNullish, before, after, rfl, by simpa using nullishBefore, ?_⟩
    simpa using List.filter_eq_nil_iff.mp nullishAfter
  · rintro ⟨notNullish, before, after, same, nullishBefore, nullishAfter⟩
    cases same
    refine ⟨before, after, rfl, by simpa using nullishBefore, by simp [notNullish], ?_⟩
    exact List.filter_eq_nil_iff.mpr (by simpa using nullishAfter)

theorem Beside.withoutNullish_eq {type tree : TypeExpr} (beside : Beside type tree) :
    tree.withoutNullish = type := by
  obtain ⟨_, before, after, rfl, _⟩ := id beside
  rw [withoutNullish_union, alternatives_eq_singleton_iff.mpr beside]

/-- What is left of a union is a union, unless a single alternative is left. -/
theorem isUnion_or_beside (types : List TypeExpr) :
    (union types).withoutNullish.IsUnion ∨
      Beside (union types).withoutNullish (union types) := by
  cases isLeft : alternatives types with
  | nil =>
      rw [withoutNullish_union, isLeft]
      exact .inl ⟨types, rfl⟩
  | cons first more =>
      rw [withoutNullish_union, isLeft]
      cases more with
      | nil => exact .inr (alternatives_eq_singleton_iff.mp isLeft)
      | cons second rest => exact .inl ⟨_, rfl⟩

/-- A union that is left with more than one alternative, or with none, is left as it is. -/
theorem withoutNullish_withoutNullish {types : List TypeExpr}
    (notBeside : ¬∃ type, Beside type (union types)) :
    (union types).withoutNullish.withoutNullish = (union types).withoutNullish := by
  cases isLeft : alternatives types with
  | nil =>
      have same : (union types).withoutNullish = union types := by
        rw [withoutNullish_union, isLeft]
      rw [same, same]
  | cons first more =>
      cases more with
      | nil => exact absurd ⟨first, alternatives_eq_singleton_iff.mp isLeft⟩ notBeside
      | cons second rest =>
          have again : alternatives (first :: second :: rest) = first :: second :: rest := by
            rw [← isLeft, alternatives, alternatives, List.filter_filter]
            simp
          rw [withoutNullish_union, isLeft]
          dsimp only
          rw [withoutNullish_union, again]

/-! ## Scalars -/

theorem scalar?_of_isUnion {type : TypeExpr} (isUnion : type.withoutNullish.IsUnion) :
    type.scalar? = none := by
  obtain ⟨types, left⟩ := isUnion
  rw [scalar?, left]

theorem scalar?_congr {type other : TypeExpr} (same : type.withoutNullish = other.withoutNullish) :
    type.scalar? = other.scalar? := by
  rw [scalar?, scalar?, same]

theorem scalar?_of_isNullish {type : TypeExpr} (nullish : type.isNullish = true) :
    type.scalar? = none := by
  unfold isNullish at nullish
  split at nullish
  · rename_i name args
    have isName : name = "undefined" ∨ name = "null" := by simpa using nullish
    rcases isName with rfl | rfl
    · cases args <;> rfl
    · cases args <;> rfl
  · contradiction

theorem not_isUnion_of_scalar? {type : TypeExpr} (isScalar : type.scalar?.isSome = true) :
    ¬type.withoutNullish.IsUnion := by
  intro isUnion
  rw [scalar?_of_isUnion isUnion] at isScalar
  contradiction

theorem Beside.exists_mem {type : TypeExpr} {types : List TypeExpr}
    (beside : Beside type (union types)) : type ∈ types := by
  have left := alternatives_eq_singleton_iff.mpr beside
  exact (mem_alternatives.mp (left ▸ List.mem_singleton_self type)).1

theorem Void.isUnion {type : TypeExpr} (void : Void type) (notNullish : type.isNullish = false) :
    type.IsUnion := by
  cases void with
  | leaf nullish =>
      rw [nullish] at notNullish
      contradiction
  | node voids => exact ⟨_, rfl⟩

theorem Void.scalar?_eq {type : TypeExpr} (void : Void type) : type.scalar? = none := by
  by_contra isScalar
  have notUnion := not_isUnion_of_scalar? (Option.isSome_iff_ne_none.mpr isScalar)
  cases void with
  | leaf nullish => exact isScalar (scalar?_of_isNullish nullish)
  | @node types voids =>
      have beside := (isUnion_or_beside types).resolve_left notUnion
      exact notUnion ((voids _ beside.exists_mem).isUnion beside.1)

section

variable {type tree : TypeExpr} (notUnion : ¬type.IsUnion)

include notUnion

/-- What alone is left of a tree is the part around the type, or a union of leaves that stand for no value. -/
theorem Wraps.of_beside {one : TypeExpr} (wraps : Wraps type tree) (beside : Beside one tree) :
    Wraps type one ∨ Void one := by
  cases wraps with
  | leaf =>
      obtain ⟨-, before, after, isUnion, -⟩ := beside
      exact absurd ⟨_, isUnion⟩ notUnion
  | @node before after inner wraps voidBefore voidAfter =>
      rcases List.mem_append.mp beside.exists_mem with isBefore | isAfter
      · exact .inr (voidBefore one isBefore)
      · rcases List.mem_cons.mp isAfter with rfl | isAfter
        · exact .inl wraps
        · exact .inr (voidAfter one isAfter)

/-- A tree that is a scalar is the type, or it has the type beside leaves that stand for no value. -/
theorem Wraps.eq_or_beside (wraps : Wraps type tree) (isScalar : tree.scalar?.isSome = true) :
    tree = type ∨ Beside type tree := by
  have notUnionLeft := not_isUnion_of_scalar? isScalar
  cases id wraps with
  | leaf => exact .inl rfl
  | @node before after inner =>
      have beside := (isUnion_or_beside (before ++ inner :: after)).resolve_left notUnionLeft
      generalize (union (before ++ inner :: after)).withoutNullish = one at beside notUnionLeft
      rcases wraps.of_beside notUnion beside with wrapsOne | void
      · cases wrapsOne with
        | leaf => exact .inr beside
        | node => exact absurd ⟨_, rfl⟩ notUnionLeft
      · exact absurd (void.isUnion beside.1) notUnionLeft

/-- Of a tree that does not resolve as the type does, a union is left that is no scalar. -/
theorem Wraps.left_of_not_reduces (wraps : Wraps type tree) (irreducible : ¬Reduces type tree) :
    tree.withoutNullish.IsUnion ∧ tree.withoutNullish.scalar? = none := by
  cases id wraps with
  | leaf => exact absurd (.inl rfl) irreducible
  | @node before after inner =>
      by_cases alone : ∃ one, Beside one (union (before ++ inner :: after))
      · obtain ⟨one, beside⟩ := alone
        rw [beside.withoutNullish_eq]
        rcases wraps.of_beside notUnion beside with wrapsOne | void
        · cases id wrapsOne with
          | leaf => exact absurd (.inr (.inl beside)) irreducible
          | node =>
              refine ⟨⟨_, rfl⟩, ?_⟩
              by_contra isScalar
              have isSome := Option.isSome_iff_ne_none.mpr isScalar
              rcases wrapsOne.eq_or_beside notUnion isSome with isType | inside
              · exact notUnion ⟨_, isType.symm⟩
              · have same : type.scalar? = _ :=
                  scalar?_congr ((withoutNullish_of_not_isUnion notUnion).trans
                    inside.withoutNullish_eq.symm)
                rw [← same] at isSome
                exact irreducible (.inr (.inr ⟨isSome, _, inside, beside⟩))
        · exact ⟨void.isUnion beside.1, void.scalar?_eq⟩
      · have isUnion := (isUnion_or_beside (before ++ inner :: after)).resolve_right
          fun beside => alone ⟨_, beside⟩
        refine ⟨isUnion, scalar?_of_isUnion ?_⟩
        rw [withoutNullish_withoutNullish alone]
        exact isUnion

end

end TypeExpr

/-! ## Resolution -/

namespace Resolve

variable {scope : Option SourceFile} {context : MemberContext} {member : String}
  {type tree : TypeExpr} {start final : Session}

theorem typeOf_congr (same : tree.withoutNullish = type.withoutNullish) :
    typeOf scope context member (some tree) = typeOf scope context member (some type) := by
  rw [typeOf, typeOf, Option.map_some, Option.map_some, same]

theorem ends_typeOf_scalar {s : Scalar} (isScalar : tree.withoutNullish.scalar? = some s) :
    Step.Ends (typeOf scope context member (some tree)) start (.ok (.scalar s, none)) start := by
  unfold typeOf
  rw [Option.map_some]
  dsimp only
  split
  · rename_i isAny
    rw [isAny] at isScalar
    cases isScalar
  · rename_i isUnknown
    rw [isUnknown] at isScalar
    cases isScalar
  · rw [if_neg Bool.false_ne_true, isScalar]
    exact Step.ends_pure.mpr ⟨rfl, rfl⟩

theorem enum?_union (types : List TypeExpr) : enum? scope (.union types) = pure none := by
  cases scope <;> rfl

/-- A union that is no scalar is refused, with nothing like it to suggest. -/
theorem ends_typeOf_refused (isUnion : tree.withoutNullish.IsUnion)
    (noScalar : tree.withoutNullish.scalar? = none) :
    Step.Ends (typeOf scope context member (some tree)) start
      (.error (.unsupportedType context tree.withoutNullish.shown [])) start := by
  obtain ⟨types, left⟩ := isUnion
  rw [left] at noScalar ⊢
  unfold typeOf
  rw [Option.map_some, left]
  dsimp only
  rw [if_neg Bool.false_ne_true, noScalar, show (TypeExpr.union types).element? = none from rfl]
  dsimp only
  rw [enum?_union, pure_bind]
  exact Step.ends_throw.mpr ⟨rfl, rfl⟩

/-- A tree of unions around a type that resolves, whose other leaves stand for no value, resolves as the type
does if it reduces to the type; every other tree is refused. -/
theorem typeOf_wraps {found : Descriptor × Option Reference} (notUnion : ¬type.IsUnion)
    (wraps : TypeExpr.Wraps type tree)
    (accepted : Step.Ends (typeOf scope context member (some type)) start (.ok found) final) :
    (TypeExpr.Reduces type tree →
      Step.Ends (typeOf scope context member (some tree)) start (.ok found) final) ∧
    (¬TypeExpr.Reduces type tree →
      Step.Ends (typeOf scope context member (some tree)) start
        (.error (.unsupportedType context tree.withoutNullish.shown [])) start) := by
  have bare := TypeExpr.withoutNullish_of_not_isUnion notUnion
  constructor
  · rintro (rfl | beside | ⟨isScalar, inner, inside, outside⟩)
    · exact accepted
    · rw [typeOf_congr (beside.withoutNullish_eq.trans bare.symm)]
      exact accepted
    · obtain ⟨s, isScalar⟩ := Option.isSome_iff_exists.mp isScalar
      have innerScalar : inner.scalar? = some s := by
        rw [← isScalar]
        exact TypeExpr.scalar?_congr (inside.withoutNullish_eq.trans bare.symm)
      have same := Step.ends_unique accepted (ends_typeOf_scalar (by rw [bare, isScalar]))
      rw [same.1, same.2]
      exact ends_typeOf_scalar (by rw [outside.withoutNullish_eq, innerScalar])
  · intro irreducible
    obtain ⟨isUnion, noScalar⟩ := wraps.left_of_not_reduces notUnion irreducible
    exact ends_typeOf_refused isUnion noScalar

/-- A session of a project without files. -/
def bareSession : Session := ⟨.empty (.empty []) false, []⟩

/-- One union in another around a scalar resolves as the scalar does. -/
theorem typeOf_wraps_string :
    Step.Ends (typeOf none .option "hue"
      (some (.union [.union [.ref "null" [], .ref "string" []], .ref "undefined" []]))) bareSession
      (.ok (.scalar .text, none)) bareSession := by
  have notUnion : ¬(TypeExpr.ref "string" []).IsUnion := by
    rintro ⟨types, impossible⟩
    cases impossible
  have wrapsInner : TypeExpr.Wraps (.ref "string" []) (.union [.ref "null" [], .ref "string" []]) :=
    @TypeExpr.Wraps.node _ [.ref "null" []] [] _ .leaf (by simpa using .leaf rfl) (by simp)
  have wraps : TypeExpr.Wraps (.ref "string" [])
      (.union [.union [.ref "null" [], .ref "string" []], .ref "undefined" []]) :=
    @TypeExpr.Wraps.node _ [] [.ref "undefined" []] _ wrapsInner (by simp) (by simpa using .leaf rfl)
  have reduces : TypeExpr.Reduces (.ref "string" [])
      (.union [.union [.ref "null" [], .ref "string" []], .ref "undefined" []]) := by
    refine .inr (.inr ⟨rfl, .union [.ref "null" [], .ref "string" []], ?_, ?_⟩)
    · exact ⟨rfl, [.ref "null" []], [], rfl, by simp [TypeExpr.isNullish], by simp⟩
    · exact ⟨rfl, [], [.ref "undefined" []], rfl, by simp, by simp [TypeExpr.isNullish]⟩
  exact (typeOf_wraps notUnion wraps (ends_typeOf_scalar rfl)).1 reduces

/-- A scalar beside a union of leaves that stand for no value is refused, though the scalar is not. -/
theorem not_typeOf_nullish_pair :
    ¬(TypeExpr.ref "string" []).IsUnion ∧
      TypeExpr.Wraps (.ref "string" [])
        (.union [.union [.ref "undefined" [], .ref "null" []], .ref "string" []]) ∧
      Step.Ends (typeOf none .option "hue" (some (.ref "string" []))) bareSession
        (.ok (.scalar .text, none)) bareSession ∧
      Step.Ends (typeOf none .option "hue"
        (some (.union [.union [.ref "undefined" [], .ref "null" []], .ref "string" []]))) bareSession
        (.error (.unsupportedType .option "undefined | null | string" [])) bareSession := by
  have void : TypeExpr.Void (.union [.ref "undefined" [], .ref "null" []]) :=
    .node (by simpa using ⟨.leaf rfl, .leaf rfl⟩)
  have wraps : TypeExpr.Wraps (.ref "string" [])
      (.union [.union [.ref "undefined" [], .ref "null" []], .ref "string" []]) :=
    @TypeExpr.Wraps.node _ [.union [.ref "undefined" [], .ref "null" []]] [] _ .leaf
      (by simpa using void) (by simp)
  refine ⟨?_, wraps, ends_typeOf_scalar rfl, ends_typeOf_refused ⟨_, rfl⟩ rfl⟩
  rintro ⟨types, impossible⟩
  cases impossible

end Resolve

end DeclaredOptions
