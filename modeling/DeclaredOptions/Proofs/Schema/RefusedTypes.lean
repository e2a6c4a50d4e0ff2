import DeclaredOptions.Proofs.Declaration.TypeReading
import DeclaredOptions.Proofs.Schema.Alternatives

/-!
Contract: the types that refusals show.

Owns:
- the type that a refusal is about, which is built up as the declared type is;
- what the text of a refusal tells: this type alone, unless a row of it has bars and ampersands.

Does not own: which types are refused, and what is suggested instead.
-/

set_option autoImplicit false

namespace DeclaredOptions

/-- The text of the type that a failure refuses. -/
def Failure.typeName? : Failure → Option String
  | .unsupportedType _ name _ => some name
  | .unsupportedElement _ name _ => some name
  | _ => none

namespace TypeExpr

variable {type element : TypeExpr}

theorem WellFormed.withoutNullish (formed : type.WellFormed) : type.withoutNullish.WellFormed := by
  by_cases isUnion : type.IsUnion
  · obtain ⟨types, rfl⟩ := isUnion
    obtain ⟨-, members, flat⟩ := WellFormed.of_join (show (Joint.bar.join types).WellFormed from formed)
    have kept : ∀ one ∈ alternatives types, one ∈ types := fun one member => (mem_alternatives.mp member).1
    rw [withoutNullish_union]
    split
    · exact formed
    · rename_i one left
      exact members one (kept one (by rw [left]; exact List.mem_cons_self))
    · rename_i noneLeft oneLeft
      have several : 2 ≤ (alternatives types).length := by
        match left : alternatives types with
        | [] => exact absurd left noneLeft
        | [one] => exact absurd left (oneLeft one)
        | one :: next :: rest => simp
      exact .join .bar several (fun one member => members one (kept one member))
        fun one member => flat one (kept one member)
  · rw [withoutNullish_of_not_isUnion isUnion]
    exact formed

theorem WellFormed.of_element? (formed : type.WellFormed) (isArray : type.element? = some element) :
    element.WellFormed := by
  cases formed with
  | ref named members =>
      unfold element? at isArray
      split at isArray
      · contradiction
      · rename_i shape
        cases shape
        cases isArray
        exact members element List.mem_cons_self
      · contradiction
  | array inner =>
      cases isArray
      exact inner
  | join joint => cases joint <;> contradiction

end TypeExpr

namespace Resolve

open TypeExpr

variable {type : TypeExpr}

/-- A refusal shows the declared type without its nullish alternatives, or the element of this array. -/
theorem exists_of_typeName? {scope : Option SourceFile} {context : MemberContext} {member text : String}
    {start final : Session} {failure : Failure}
    (refused : Step.Ends (typeOf scope context member (some type)) start (.error failure) final)
    (names : failure.typeName? = some text) :
    ∃ shown : TypeExpr, shown.shown = text ∧
      (shown = type.withoutNullish ∨ type.withoutNullish.element? = some shown) := by
  rcases typeOf_refused_cases refused with
    ofSource | (⟨refusal, rfl⟩ | ⟨fault, rfl⟩) | ⟨_, ⟨⟩, ⟨element, isArray, rfl⟩ | rfl⟩
  · cases failure <;> contradiction
  · contradiction
  · contradiction
  · exact ⟨element, Option.some.inj names, .inr isArray⟩
  · exact ⟨_, Option.some.inj names, .inl rfl⟩

/-- The text of a type may be read in one way with the bars outermost in each row, and in one way with the ampersands
outermost. It is the text of one type alone exactly if this type is both readings. So where a declared type is refused,
the text that is shown is that of the refused type, and of no other type exactly if the refused type has no union
directly in an intersection and no intersection directly in a union. -/
theorem readings_of_refused (formed : type.WellFormed) :
    (∀ outer, ∃! reading : TypeExpr, reading.WellFormed ∧ reading.Layered outer ∧
      reading.display = type.display) ∧
    ((∀ other : TypeExpr, other.WellFormed → other.display = type.display → other = type) ↔
      ∀ outer, type.Layered outer) ∧
    ∀ {scope : Option SourceFile} {context : MemberContext} {member text : String} {start final : Session}
      {failure : Failure},
      Step.Ends (typeOf scope context member (some type)) start (.error failure) final →
      failure.typeName? = some text →
      ∃ refused : TypeExpr, refused.WellFormed ∧ refused.shown = text ∧
        (refused = type.withoutNullish ∨ type.withoutNullish.element? = some refused) ∧
        ((∀ other : TypeExpr, other.WellFormed → other.shown = text → other = refused) ↔
          ∀ outer, refused.Layered outer) := by
  obtain ⟨readings, alone_iff⟩ := formed.readings
  refine ⟨readings, alone_iff, fun refusal names => ?_⟩
  obtain ⟨refused, shows, isRefused⟩ := exists_of_typeName? refusal names
  have formedRefused : refused.WellFormed := by
    rcases isRefused with rfl | isArray
    · exact formed.withoutNullish
    · exact formed.withoutNullish.of_element? isArray
  refine ⟨refused, formedRefused, shows, isRefused, ?_⟩
  rw [← formedRefused.readings.2, ← shows]
  simp only [TypeExpr.shown, String.ofList_inj]

/-! ## Instances -/

private theorem formed_letter {name : String} (isLetter : name ∈ ["A", "B", "C"]) : (ref name []).WellFormed := by
  refine .ref ?_ (by simp)
  have word : ∀ name ∈ ["A", "B", "C"], Text.pieces '.' name.toList = [name.toList] ∧ name.toList ≠ [] ∧
      name.toList.all Source.isWordChar = true ∧ name.toList.head?.all (!·.isDigit) = true := by
    decide
  obtain ⟨alone, nonempty, chars, start⟩ := word name isLetter
  intro part isPart
  rw [alone, List.mem_singleton] at isPart
  rw [isPart]
  refine ⟨nonempty, List.all_eq_true.mp chars, fun c first => ?_⟩
  rw [Option.mem_def.mp first] at start
  simpa using start

private theorem formed_pair (joint : Joint) {first second : String} (isLetter : first ∈ ["A", "B", "C"])
    (alsoLetter : second ∈ ["A", "B", "C"]) : (joint.join [.ref first [], .ref second []]).WellFormed := by
  refine .join joint (Nat.le_refl 2) ?_ (by cases joint <;> simp [Joint.join])
  simpa using ⟨formed_letter isLetter, formed_letter alsoLetter⟩

/-- An array of a union beside a name in an intersection is the only type with its text. -/
theorem readings_of_refused_array :
    Step.Ends
      (typeOf none .option "hue" (some (.intersection [.ref "A" [], .array (.union [.ref "A" [], .ref "B" []])])))
      bareSession (.error (.unsupportedType .option "A & (A | B)[]" [])) bareSession ∧
    ∀ other : TypeExpr, other.WellFormed → other.shown = "A & (A | B)[]" →
      other = .intersection [.ref "A" [], .array (.union [.ref "A" [], .ref "B" []])] := by
  have formed : (TypeExpr.intersection [.ref "A" [], .array (.union [.ref "A" [], .ref "B" []])]).WellFormed := by
    refine .join .ampersand (by decide) ?_ (by simp [Joint.join])
    simpa using ⟨formed_letter (by decide), .array (formed_pair .bar (by decide) (by decide))⟩
  have layered (outer : Joint) :
      (TypeExpr.intersection [.ref "A" [], .array (.union [.ref "A" [], .ref "B" []])]).Layered outer := by
    have letter (name : String) : (TypeExpr.ref name []).Layered outer := .ref (by simp)
    have union : (TypeExpr.union [.ref "A" [], .ref "B" []]).Layered outer :=
      .join .bar (by simpa using ⟨letter "A", letter "B"⟩) (by cases outer <;> simp [Joint.join])
    exact .join .ampersand (by simpa using ⟨letter "A", .array union⟩) (by cases outer <;> simp [Joint.join])
  have refusal : Step.Ends
      (typeOf none .option "hue" (some (.intersection [.ref "A" [], .array (.union [.ref "A" [], .ref "B" []])])))
      bareSession (.error (.unsupportedType .option "A & (A | B)[]" [])) bareSession := rfl
  obtain ⟨refused, -, -, rfl | isArray, alone_iff⟩ := (readings_of_refused formed).2.2 refusal rfl
  · exact ⟨refusal, alone_iff.mpr layered⟩
  · contradiction

/-- A union in an intersection and an intersection in a union that are refused with one text. -/
theorem readings_of_refused_mixed :
    (TypeExpr.intersection [.union [.ref "A" [], .ref "B" []], .ref "C" []]).WellFormed ∧
    (TypeExpr.union [.ref "A" [], .intersection [.ref "B" [], .ref "C" []]]).WellFormed ∧
    (TypeExpr.intersection [.union [.ref "A" [], .ref "B" []], .ref "C" []]).display =
      (TypeExpr.union [.ref "A" [], .intersection [.ref "B" [], .ref "C" []]]).display ∧
    TypeExpr.intersection [.union [.ref "A" [], .ref "B" []], .ref "C" []] ≠
      .union [.ref "A" [], .intersection [.ref "B" [], .ref "C" []]] ∧
    Step.Ends
      (typeOf none .positional "a" (some (.intersection [.union [.ref "A" [], .ref "B" []], .ref "C" []])))
      bareSession (.error (.unsupportedType .positional "A | B & C" [])) bareSession ∧
    Step.Ends
      (typeOf none .positional "a" (some (.union [.ref "A" [], .intersection [.ref "B" [], .ref "C" []]])))
      bareSession (.error (.unsupportedType .positional "A | B & C" [])) bareSession := by
  refine ⟨?_, ?_, by decide, nofun, rfl, rfl⟩
  · refine .join .ampersand (by decide) ?_ (by simp [Joint.join])
    simpa using ⟨formed_pair .bar (by decide) (by decide), formed_letter (by decide)⟩
  · refine .join .bar (by decide) ?_ (by simp [Joint.join])
    simpa using ⟨formed_letter (by decide), formed_pair .ampersand (by decide) (by decide)⟩

end Resolve

end DeclaredOptions
