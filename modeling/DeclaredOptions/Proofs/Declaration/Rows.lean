import DeclaredOptions.Proofs.Declaration.TypeText

/-!
Contract: unions and intersections as they nest in a source, and the types that they stand for.

Owns:
- the types at the leaves of nested rows, in order;
- the type of nested rows, which depends on the types at their leaves alone.

Does not own: how sources are read, and the types at the leaves.

## What the leaves must not stand for

A row asks of a row that stands directly in it only whether it stands for a join, and then takes over the members. If
one does, because its only leaf is a join in parentheses, then the members of that leaf are taken over too, whereas the
same leaf directly in the outer row is one member. So rows nest without a trace only where no leaf stands for a join by
the same joint.
-/

set_option autoImplicit false

namespace DeclaredOptions

namespace TypeExpr

open Source (TypeSyntax)

/-- The written row whose sides stand beside a joint. -/
def Joint.node : Joint → List TypeSyntax → TypeSyntax
  | .bar => .union
  | .ampersand => .intersection

mutual

/-- The types that a row is made of, taken out of the rows by the same joint that stand directly in it. Any other type
is the only leaf of its own. -/
def leaves (joint : Joint) : TypeSyntax → List TypeSyntax
  | .union sides => if joint = .bar then leavesOfAll joint sides else [.union sides]
  | .intersection sides => if joint = .ampersand then leavesOfAll joint sides else [.intersection sides]
  | type => [type]

/-- The leaves of several types, in order. -/
def leavesOfAll (joint : Joint) : List TypeSyntax → List TypeSyntax
  | [] => []
  | type :: rest => leaves joint type ++ leavesOfAll joint rest

end

section

variable {joint : Joint} {sides : List TypeSyntax} {type side : TypeSyntax} {inner : List TypeExpr}

/-! ## Leaves -/

theorem leavesOfAll_eq_flatMap : leavesOfAll joint sides = sides.flatMap (leaves joint) := by
  induction sides with
  | nil => rfl
  | cons type rest inductionHypothesis => rw [leavesOfAll, inductionHypothesis, List.flatMap_cons]

@[simp] theorem leaves_node : leaves joint (joint.node sides) = sides.flatMap (leaves joint) := by
  rw [← leavesOfAll_eq_flatMap]
  cases joint <;> simp [Joint.node, leaves]

theorem leaves_of_ne (noRow : ∀ sides, type ≠ joint.node sides) : leaves joint type = [type] := by
  cases type with
  | union sides =>
      have other : joint ≠ .bar := by
        rintro rfl
        exact noRow sides rfl
      rw [leaves, if_neg other]
  | intersection sides =>
      have other : joint ≠ .ampersand := by
        rintro rfl
        exact noRow sides rfl
      rw [leaves, if_neg other]
  | _ => rfl

/-- What holds of all types but rows by a joint, and of each such row if it holds of its sides, holds of every type. -/
@[elab_as_elim]
theorem rowInduction (joint : Joint) {motive : TypeSyntax → Prop}
    (leaf : ∀ type, (∀ sides, type ≠ joint.node sides) → motive type)
    (row : ∀ sides, (∀ side ∈ sides, motive side) → motive (joint.node sides)) (type : TypeSyntax) :
    motive type := by
  by_cases isRow : ∃ sides, type = joint.node sides
  · obtain ⟨sides, same⟩ := isRow
    have smaller : sizeOf sides < sizeOf type := by
      rw [same]
      cases joint <;> simp [Joint.node]
    rw [same]
    refine row sides fun side member => ?_
    have inside := Nat.lt_trans (List.sizeOf_lt_of_mem member) smaller
    exact rowInduction joint leaf row side
  · exact leaf type (not_exists.mp isRow)
termination_by sizeOf type

/-- No leaf is a row itself. -/
theorem ne_node_of_mem_leaves {leaf : TypeSyntax} (member : leaf ∈ leaves joint type) (sides : List TypeSyntax) :
    leaf ≠ joint.node sides := by
  induction type using rowInduction joint with
  | leaf type noRow =>
      rw [leaves_of_ne noRow, List.mem_singleton] at member
      rw [member]
      exact noRow sides
  | row own inductionHypothesis =>
      rw [leaves_node] at member
      obtain ⟨side, inRow, inSide⟩ := List.mem_flatMap.mp member
      exact inductionHypothesis side inRow inSide

/-! ## Members of a row -/

/-- What a side gives to its row: the members of the join that a row by the same joint stands for, and the type that it
stands for otherwise. -/
def Joint.given (joint : Joint) (side : TypeSyntax) : List TypeExpr :=
  if joint.isRow side then (joint.members? (ofSyntax side)).getD [ofSyntax side] else [ofSyntax side]

theorem sideMembers_eq_flatMap : sideMembers joint sides = sides.flatMap joint.given := by
  induction sides with
  | nil => rfl
  | cons side rest inductionHypothesis =>
      rw [List.flatMap_cons, ← inductionHypothesis, sideMembers]
      rfl

theorem ofSyntax_node : ofSyntax (joint.node sides) = joinedAs joint.join (sides.flatMap joint.given) := by
  rw [← sideMembers_eq_flatMap]
  cases joint <;> rw [Joint.node, ofSyntax]

theorem Joint.members?_eq_some_iff {type : TypeExpr} : joint.members? type = some inner ↔ type = joint.join inner := by
  cases joint <;> cases type <;> simp [Joint.members?, Joint.join]

theorem given_node_of_join (stands : ofSyntax (joint.node sides) = joint.join inner) :
    joint.given (joint.node sides) = inner := by
  have isRow : joint.isRow (joint.node sides) = true := by cases joint <;> rfl
  rw [Joint.given, if_pos isRow, Joint.members?_eq_some_iff.mpr stands, Option.getD_some]

theorem given_of_ne_join (noJoin : ∀ inner, ofSyntax side ≠ joint.join inner) :
    joint.given side = [ofSyntax side] := by
  have noMembers : joint.members? (ofSyntax side) = none := by
    rw [Option.eq_none_iff_forall_ne_some]
    exact fun inner isJoin => noJoin inner (Joint.members?_eq_some_iff.mp isJoin)
  rw [Joint.given, noMembers, Option.getD_none, ite_self]

theorem joinedAs_of_length_ne {types : List TypeExpr} (notOne : types.length ≠ 1) :
    joinedAs joint.join types = joint.join types := by
  match types with
  | [] => rfl
  | [type] => contradiction
  | type :: next :: rest => rfl

/-- A side that stands for what its leaves make up gives their types to its row, one for each leaf. -/
theorem given_eq_map_leaves (plain : ∀ leaf ∈ leaves joint side, ∀ inner, ofSyntax leaf ≠ joint.join inner)
    (stands : ofSyntax side = joinedAs joint.join ((leaves joint side).map ofSyntax)) :
    joint.given side = (leaves joint side).map ofSyntax := by
  by_cases isOne : (leaves joint side).length = 1
  · -- a single type is no join, so that the side gives nothing away
    obtain ⟨leaf, only⟩ := List.length_eq_one_iff.mp isOne
    rw [only] at plain stands ⊢
    have same : ofSyntax side = ofSyntax leaf := stands
    rw [given_of_ne_join fun inner => by rw [same]; exact plain leaf List.mem_cons_self inner, same]
    rfl
  · have isRow : ∃ sides, side = joint.node sides := by
      by_contra noRow
      rw [leaves_of_ne (not_exists.mp noRow)] at isOne
      exact isOne rfl
    rw [joinedAs_of_length_ne (by rwa [List.length_map])] at stands
    obtain ⟨sides, rfl⟩ := isRow
    exact given_node_of_join stands

/-! ## Nested rows -/

/-- A type stands for what the types at its leaves make up, if none of them is a join by the joint. -/
theorem ofSyntax_eq_joinedAs (type : TypeSyntax)
    (plain : ∀ leaf ∈ leaves joint type, ∀ inner, ofSyntax leaf ≠ joint.join inner) :
    ofSyntax type = joinedAs joint.join ((leaves joint type).map ofSyntax) := by
  induction type using rowInduction joint with
  | leaf type noRow =>
      rw [leaves_of_ne noRow]
      rfl
  | row sides inductionHypothesis =>
      have each : ∀ side ∈ sides, joint.given side = (leaves joint side).map ofSyntax := by
        intro side member
        have plainSide : ∀ leaf ∈ leaves joint side, ∀ inner, ofSyntax leaf ≠ joint.join inner := by
          intro leaf inSide
          exact plain leaf (by rw [leaves_node]; exact List.mem_flatMap.mpr ⟨side, member, inSide⟩)
        exact given_eq_map_leaves plainSide (inductionHypothesis side member plainSide)
      rw [ofSyntax_node, leaves_node, List.map_flatMap, List.flatMap_congr each]

/-- What nested rows stand for depends on the types at their leaves alone, if none of these is a join by the joint.
Leaves are no rows themselves. One leaf has its own type, and otherwise the rows stand for the join of the types of
all leaves in order, so that no join by the joint stands directly in it. -/
theorem ofSyntax_of_leaves (joint : Joint) (sides : List TypeSyntax)
    (plain : ∀ leaf ∈ leaves joint (joint.node sides), ∀ inner, ofSyntax leaf ≠ joint.join inner) :
    (∀ leaf ∈ leaves joint (joint.node sides), ∀ others, leaf ≠ joint.node others) ∧
    (∀ leaf, leaves joint (joint.node sides) = [leaf] → ofSyntax (joint.node sides) = ofSyntax leaf) ∧
    ((leaves joint (joint.node sides)).length ≠ 1 →
      ofSyntax (joint.node sides) = joint.join ((leaves joint (joint.node sides)).map ofSyntax)) ∧
    (∀ types, ofSyntax (joint.node sides) = joint.join types →
      ∀ type ∈ types, ∀ inner, type ≠ joint.join inner) ∧
    ∀ others, (leaves joint (joint.node others)).map ofSyntax =
        (leaves joint (joint.node sides)).map ofSyntax →
      ofSyntax (joint.node others) = ofSyntax (joint.node sides) := by
  have stands := ofSyntax_eq_joinedAs (joint.node sides) plain
  have apart : ∀ type ∈ (leaves joint (joint.node sides)).map ofSyntax, ∀ inner, type ≠ joint.join inner :=
    List.forall_mem_map.mpr plain
  refine ⟨fun leaf => ne_node_of_mem_leaves, fun leaf only => ?_, fun notOne => ?_, fun types isJoin => ?_,
    fun others same => ?_⟩
  · rw [stands, only]
    rfl
  · rw [stands, joinedAs_of_length_ne (by rwa [List.length_map])]
  · rw [stands] at isJoin
    by_cases isOne : (leaves joint (joint.node sides)).length = 1
    · obtain ⟨leaf, only⟩ := List.length_eq_one_iff.mp isOne
      rw [only] at isJoin plain
      exact absurd isJoin (plain leaf List.mem_cons_self types)
    · rw [joinedAs_of_length_ne (by rwa [List.length_map])] at isJoin
      obtain ⟨-, rfl⟩ := Joint.join_inj isJoin
      exact apart
  · rw [← same] at apart
    rw [stands, ← same]
    exact ofSyntax_eq_joinedAs (joint.node others) (List.forall_mem_map.mp apart)

/-- The sides of a union with a mark in front, as it is read. One of its alternatives is in parentheses. -/
def leadingRow : List TypeSyntax :=
  [.union [.union [.name "string"], .wrapped (.intersection [.name "Tone", .name "Shade"])], .name "undefined"]

theorem ofSyntax_of_leaves_leading :
    (∀ leaf ∈ leaves .bar (Joint.bar.node leadingRow), ∀ inner, ofSyntax leaf ≠ Joint.bar.join inner) ∧
      ofSyntax (Joint.bar.node leadingRow) =
        .union [.ref "string" [], .intersection [.ref "Tone" [], .ref "Shade" []], .ref "undefined" []] := by
  have own : leaves .bar (Joint.bar.node leadingRow) = [.name "string",
      .wrapped (.intersection [.name "Tone", .name "Shade"]), .name "undefined"] := rfl
  have plain : ∀ leaf ∈ leaves .bar (Joint.bar.node leadingRow), ∀ inner,
      ofSyntax leaf ≠ Joint.bar.join inner := by
    rw [own]
    simp [ofSyntax, sideMembers, joinedAs, Joint.isRow, Joint.join]
  refine ⟨plain, ?_⟩
  rw [(ofSyntax_of_leaves .bar leadingRow plain).2.2.1 (by rw [own]; decide), own]
  rfl

-- a union in parentheses is one alternative beside another, but alone behind a mark it gives its own away
example : ofSyntax (.union [.wrapped (.union [.name "A", .name "B"]), .name "C"]) =
    .union [.union [.ref "A" [], .ref "B" []], .ref "C" []] := by rfl

example : ofSyntax (.union [.union [.wrapped (.union [.name "A", .name "B"])], .name "C"]) =
    .union [.ref "A" [], .ref "B" [], .ref "C" []] := by rfl

end

end TypeExpr

end DeclaredOptions
