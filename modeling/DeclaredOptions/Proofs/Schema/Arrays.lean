import DeclaredOptions.Proofs.Schema.Alternatives

/-!
Contract: arrays in either spelling, and what they resolve to.

Owns:
- the two spellings of an array, alone or in one union with types that stand for no value;
- the elements with which an array resolves, and the refusal of all others by their text.

Does not own: types that are no arrays.
-/

set_option autoImplicit false

namespace DeclaredOptions

theorem Scalar.ofName?_eq_some_iff {name : String} {s : Scalar} :
    Scalar.ofName? name = some s ↔ name = s.name := by
  constructor
  · intro found
    have named := List.find?_some found
    exact (beq_iff_eq.mp named).symm
  · rintro rfl
    cases s <;> rfl

namespace TypeExpr

inductive IsArrayOf (element : TypeExpr) : TypeExpr → Prop where
  | marked : IsArrayOf element (.array element)
  | generic : IsArrayOf element (.ref "Array" [element])

/-- A tree is a type alone, or the type in one union with types that stand for no value. -/
def Around (type tree : TypeExpr) : Prop := tree = type ∨ Beside type tree

theorem IsArrayOf.not_isUnion {element type : TypeExpr} (array : IsArrayOf element type) :
    ¬type.IsUnion := by
  rintro ⟨types, rfl⟩
  cases array

/-- What is left of a tree is a type that is no union exactly if the tree is around the type. -/
theorem withoutNullish_eq_iff {type tree : TypeExpr} (notUnion : ¬type.IsUnion) :
    tree.withoutNullish = type ↔ Around type tree := by
  constructor
  · rintro rfl
    by_cases isUnion : tree.IsUnion
    · obtain ⟨types, rfl⟩ := isUnion
      exact .inr ((isUnion_or_beside types).resolve_left notUnion)
    · exact .inl (withoutNullish_of_not_isUnion isUnion).symm
  · rintro (rfl | beside)
    · exact withoutNullish_of_not_isUnion notUnion
    · exact beside.withoutNullish_eq

theorem scalar?_eq_some_iff {type : TypeExpr} {s : Scalar} :
    type.scalar? = some s ↔ Around (.ref s.name []) type := by
  have notUnion : ¬(TypeExpr.ref s.name []).IsUnion := by
    rintro ⟨types, impossible⟩
    cases impossible
  rw [← withoutNullish_eq_iff notUnion]
  unfold scalar?
  split
  · rename_i name left
    rw [left, Scalar.ofName?_eq_some_iff]
    simp
  · rename_i noName
    constructor
    · intro impossible
      cases impossible
    · intro left
      exact absurd left (noName s.name)

end TypeExpr

namespace Resolve

open TypeExpr

variable {scope : Option SourceFile} {context : MemberContext} {member : String}
  {element type tree : TypeExpr} {start final : Session}

/-- An array is neither left to any value nor a scalar or an enum: its element alone decides. -/
theorem typeOf_of_around (array : IsArrayOf element type) (around : Around type tree) :
    typeOf scope context member (some tree) =
      match element.scalar? with
      | some s => pure (.list s, none)
      | none => throw (.unsupportedElement context element.shown (some member)) := by
  have left := (withoutNullish_eq_iff array.not_isUnion).mpr around
  unfold typeOf
  rw [Option.map_some, left]
  cases array with
  | marked => rfl
  | generic => rfl

/-- An array in either spelling, alone or in one union with types that stand for no value, resolves alike. It
leaves the session as it is, and ends with a list of a scalar if the element is this scalar, alone or in such a
union too, and otherwise with the refusal of the element. -/
theorem typeOf_arrays {other otherTree : TypeExpr} {outcome : Except Failure (Descriptor × Option Reference)}
    (array : IsArrayOf element type) (around : Around type tree)
    (otherArray : IsArrayOf element other) (aroundOther : Around other otherTree) :
    typeOf scope context member (some tree) = typeOf scope context member (some otherTree) ∧
    (Step.Ends (typeOf scope context member (some tree)) start outcome final ↔
      final = start ∧
        ((∃ s : Scalar, Around (.ref s.name []) element ∧ outcome = .ok (.list s, none)) ∨
          (¬∃ s : Scalar, Around (.ref s.name []) element) ∧
            outcome = .error (.unsupportedElement context element.shown (some member)))) := by
  rw [typeOf_of_around array around, typeOf_of_around otherArray aroundOther]
  refine ⟨rfl, ?_⟩
  simp only [← scalar?_eq_some_iff]
  cases element.scalar? with
  | some s => simp [Step.ends_pure, and_comm]
  | none => simp [Step.ends_throw, and_comm]

/-- An array of numbers or null, marked and beside `undefined`, resolves as the generic one alone: to a list of
numbers. -/
theorem typeOf_arrays_number :
    typeOf none .positional "sizes"
        (some (.union [.ref "undefined" [], .array (.union [.ref "number" [], .ref "null" []])])) =
      typeOf none .positional "sizes"
        (some (.ref "Array" [.union [.ref "number" [], .ref "null" []]])) ∧
    Step.Ends (typeOf none .positional "sizes"
        (some (.union [.ref "undefined" [], .array (.union [.ref "number" [], .ref "null" []])])))
      bareSession (.ok (.list .number, none)) bareSession := by
  have around : Around (.array (.union [.ref "number" [], .ref "null" []]))
      (.union [.ref "undefined" [], .array (.union [.ref "number" [], .ref "null" []])]) :=
    .inr ⟨rfl, [.ref "undefined" []], [], rfl, by simp [isNullish], by simp⟩
  have number : Around (.ref "number" []) (.union [.ref "number" [], .ref "null" []]) :=
    .inr ⟨rfl, [], [.ref "null" []], rfl, by simp, by simp [isNullish]⟩
  have resolved := @typeOf_arrays none .positional "sizes" _ _ _ bareSession bareSession _ _
    (.ok (.list .number, none)) .marked around .generic (.inl rfl)
  exact ⟨resolved.1, resolved.2.mpr ⟨rfl, .inl ⟨.number, number, rfl⟩⟩⟩

end Resolve

end DeclaredOptions
