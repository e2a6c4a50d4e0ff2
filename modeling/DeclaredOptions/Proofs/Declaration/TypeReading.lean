import DeclaredOptions.Proofs.Declaration.TypeText

/-!
Contract: the types that the text of a type may be read as.

Owns:
- types in which one of bar and ampersand always stands outside of the other, one for each text;
- the texts that are those of one type alone.

Does not own: how texts are taken apart.

## Two readings of a text

Only arrays put parentheses around their elements. Between brackets, a text is a row of single types with bars and
ampersands between them, and does not tell which of them joins first. So every text has two readings: one where the
bars are outermost in each row, and one where the ampersands are. They are the same type if no row has both.
-/

set_option autoImplicit false

namespace DeclaredOptions

namespace TypeExpr

/-! ## Layers -/

/-- A joint is outermost in each row: nowhere in a type a join by this joint stands directly in a join by the
other. -/
inductive Layered (outer : Joint) : TypeExpr → Prop where
  | ref {name : String} {args : List TypeExpr} (layered : ∀ arg ∈ args, Layered outer arg) :
      Layered outer (.ref name args)
  | array {element : TypeExpr} (layered : Layered outer element) : Layered outer (.array element)
  | join (joint : Joint) {types : List TypeExpr} (layered : ∀ type ∈ types, Layered outer type)
      (apart : joint ≠ outer → ∀ type ∈ types, ∀ inner, type ≠ outer.join inner) :
      Layered outer (joint.join types)

section

variable {outer joint second : Joint} {types others : List TypeExpr} {type other element : TypeExpr} {name : String}

theorem Layered.of_ref (layered : (TypeExpr.ref name types).Layered outer) :
    ∀ type ∈ types, type.Layered outer := by
  generalize shape : TypeExpr.ref name types = whole at layered
  cases layered with
  | ref members =>
      cases shape
      exact members
  | array => contradiction
  | join => exact absurd shape.symm (Joint.join_ne_ref _ _)

theorem Layered.of_array (layered : (TypeExpr.array element).Layered outer) : element.Layered outer := by
  generalize shape : TypeExpr.array element = whole at layered
  cases layered with
  | ref => contradiction
  | array inner =>
      cases shape
      exact inner
  | join => exact absurd shape.symm (Joint.join_ne_array _)

theorem Layered.of_join (layered : (joint.join types).Layered outer) :
    (∀ type ∈ types, type.Layered outer) ∧
      (joint ≠ outer → ∀ type ∈ types, ∀ inner, type ≠ outer.join inner) := by
  generalize shape : joint.join types = whole at layered
  cases layered with
  | ref => exact absurd shape (Joint.join_ne_ref _ _)
  | array => exact absurd shape (Joint.join_ne_array _)
  | join own members apart =>
      obtain ⟨rfl, rfl⟩ := Joint.join_inj shape
      exact ⟨members, apart⟩

/-- Members of an inner row are single types. -/
theorem Layered.single_of_ne (layered : (joint.join types).Layered outer) (formed : (joint.join types).WellFormed)
    (inside : joint ≠ outer) : ∀ type ∈ types, type.isJoined = false := by
  intro type member
  rw [← Bool.not_eq_true]
  intro joined
  obtain ⟨own, inner, rfl⟩ := Joint.exists_join joined
  by_cases isOuter : own = outer
  · subst isOuter
    exact layered.of_join.2 inside _ member inner rfl
  · have isJoint : own = joint := by
      rw [Joint.eq_other_of_ne isOuter, Joint.eq_other_of_ne inside]
    subst isJoint
    exact formed.of_join.2.2 _ member inner rfl

/-- A row of single types shows its own joint alone. -/
theorem eq_of_mark_mem (formed : (joint.join types).WellFormed) (single : ∀ type ∈ types, type.isJoined = false)
    (shows : second.mark ∈ Text.surface 0 (joint.join types).display) : second = joint := by
  rcases formed.mark_mem_iff.mp shows with same | ⟨type, member, shown⟩
  · exact same
  · exact absurd shown ((formed.of_join.2.1 type member).shows.noJoint (single type member) second)

/-- No member of a row shows the row's joint, if one joint is outermost. -/
theorem Layered.mark_not_mem (layered : (joint.join types).Layered outer) (formed : (joint.join types).WellFormed) :
    ∀ type ∈ types, joint.mark ∉ Text.surface 0 type.display := by
  intro type member shows
  have memberFormed := formed.of_join.2.1 type member
  cases joined : type.isJoined with
  | false => exact memberFormed.shows.noJoint joined joint shows
  | true =>
      obtain ⟨own, inner, rfl⟩ := Joint.exists_join joined
      have apart : own ≠ joint := by
        rintro rfl
        exact formed.of_join.2.2 _ member inner rfl
      by_cases inside : joint = outer
      · subst inside
        have single := (layered.of_join.1 _ member).single_of_ne memberFormed apart
        exact apart (eq_of_mark_mem memberFormed single shows).symm
      · rw [Joint.isJoined_join] at joined
        have single := layered.single_of_ne formed inside _ member
        rw [Joint.isJoined_join] at single
        contradiction

/-! ## One type for each text -/

/-- Two types with one joint outermost in both, or the first of which is the same whichever joint is outermost. -/
def Comparable (type other : TypeExpr) : Prop :=
  (∃ outer, type.Layered outer ∧ other.Layered outer) ∨ ∀ outer, type.Layered outer

theorem Comparable.imp {whole otherWhole : TypeExpr} (comparable : Comparable whole otherWhole)
    (layered : ∀ outer, whole.Layered outer → type.Layered outer)
    (layeredOther : ∀ outer, otherWhole.Layered outer → other.Layered outer) : Comparable type other := by
  rcases comparable with ⟨outer, own, others⟩ | both
  · exact .inl ⟨outer, layered outer own, layeredOther outer others⟩
  · exact .inr fun outer => layered outer (both outer)

/-- Rows with one text that are comparable have one joint, and no member shows it. -/
theorem Comparable.joint_eq (comparable : Comparable (joint.join types) (second.join others))
    (formed : (joint.join types).WellFormed) (formedOther : (second.join others).WellFormed)
    (same : (joint.join types).display = (second.join others).display) :
    joint = second ∧ (∀ type ∈ types, joint.mark ∉ Text.surface 0 type.display) ∧
      ∀ type ∈ others, second.mark ∉ Text.surface 0 type.display := by
  have showsSecond : second.mark ∈ Text.surface 0 (joint.join types).display := by
    rw [same]
    exact formedOther.mark_mem_iff.mpr (.inl rfl)
  have showsJoint : joint.mark ∈ Text.surface 0 (second.join others).display := by
    rw [← same]
    exact formed.mark_mem_iff.mpr (.inl rfl)
  rcases comparable with ⟨outer, own, other⟩ | both
  · refine ⟨?_, own.mark_not_mem formed, other.mark_not_mem formedOther⟩
    by_cases inside : joint = outer
    · by_cases insideToo : second = outer
      · rw [inside, insideToo]
      · exact eq_of_mark_mem formedOther (other.single_of_ne formedOther insideToo) showsJoint
    · exact (eq_of_mark_mem formed (own.single_of_ne formed inside) showsSecond).symm
  · -- the first row holds single types, so that the text shows one joint
    have single := (both joint.other).single_of_ne formed (joint.other_ne).symm
    have sameJoint := eq_of_mark_mem formed single showsSecond
    refine ⟨sameJoint.symm, (both joint).mark_not_mem formed, fun type member => ?_⟩
    intro shows
    have memberFormed := formedOther.of_join.2.1 type member
    cases joined : type.isJoined with
    | false => exact memberFormed.shows.noJoint joined second shows
    | true =>
        obtain ⟨own, inner, rfl⟩ := Joint.exists_join joined
        have shown : own.mark ∈ Text.surface 0 (joint.join types).display := by
          rw [same]
          exact formedOther.mark_mem_iff.mpr (.inr ⟨_, member, memberFormed.mark_mem_iff.mpr (.inl rfl)⟩)
        have sameOwn := (eq_of_mark_mem formed single shown).trans sameJoint.symm
        subst sameOwn
        exact formedOther.of_join.2.2 _ member inner rfl

theorem eq_of_map_display_eq (same : types.map display = others.map display)
    (each : ∀ type ∈ types, ∀ other ∈ others, type.display = other.display → type = other) : types = others := by
  induction types generalizing others with
  | nil => exact (List.map_eq_nil_iff.mp same.symm).symm
  | cons type rest inductionHypothesis =>
      cases others with
      | nil => contradiction
      | cons other more =>
          obtain ⟨sameFirst, sameRest⟩ := List.cons.inj same
          rw [each type List.mem_cons_self other List.mem_cons_self sameFirst]
          rw [inductionHypothesis sameRest fun type member other memberMore =>
            each type (List.mem_cons_of_mem _ member) other (List.mem_cons_of_mem _ memberMore)]

/-- Comparable types with one text are one type. -/
theorem eq_of_display_eq (formed : type.WellFormed) (formedOther : other.WellFormed)
    (comparable : Comparable type other) (same : type.display = other.display) : type = other := by
  induction formed generalizing other with
  | @ref name args named members inductionHypothesis =>
      have alike := isJoined_eq_of_display_eq (.ref named members) formedOther same
      cases formedOther with
      | @ref rename others renamed membersOther =>
          obtain ⟨sameName, sameArgs⟩ := display_ref_inj named renamed members membersOther same
          rw [sameName, eq_of_map_display_eq sameArgs fun arg member second memberOther sameArg => ?_]
          refine inductionHypothesis arg member (membersOther second memberOther) ?_ sameArg
          exact comparable.imp (fun _ layered => layered.of_ref arg member)
            fun _ layered => layered.of_ref second memberOther
      | array => exact absurd same.symm (display_array_ne_ref named)
      | join joint =>
          rw [Joint.isJoined_join] at alike
          exact absurd alike Bool.false_ne_true
  | @array element inner inductionHypothesis =>
      have alike := isJoined_eq_of_display_eq (.array inner) formedOther same
      cases formedOther with
      | ref renamed => exact absurd same (display_array_ne_ref renamed)
      | array innerOther =>
          have sameElement := display_array_inj inner innerOther same
          have layered := comparable.imp (fun _ => Layered.of_array) fun _ => Layered.of_array
          rw [inductionHypothesis innerOther layered sameElement]
      | join joint =>
          rw [Joint.isJoined_join] at alike
          exact absurd alike Bool.false_ne_true
  | @join joint types several members flat inductionHypothesis =>
      have formed : (joint.join types).WellFormed := .join joint several members flat
      have alike := isJoined_eq_of_display_eq formed formedOther same
      rw [Joint.isJoined_join] at alike
      obtain ⟨second, others, rfl⟩ := Joint.exists_join alike.symm
      obtain ⟨rfl, hidden, hiddenOther⟩ := comparable.joint_eq formed formedOther same
      have sameMembers := display_join_inj formed formedOther hidden hiddenOther same
      rw [eq_of_map_display_eq sameMembers fun member inTypes second inOthers sameMember => ?_]
      refine inductionHypothesis member inTypes (formedOther.of_join.2.1 second inOthers) ?_ sameMember
      exact comparable.imp (fun _ layered => layered.of_join.1 member inTypes)
        fun _ layered => layered.of_join.1 second inOthers

end

/-! ## Readings -/

/-- A row of single types: what stands between the outer joints, and there between the inner ones. -/
structure Lays (outer : Joint) (groups : List (List TypeExpr)) (text : List Char) : Prop where
  someGroup : groups ≠ []
  someType : ∀ group ∈ groups, group ≠ []
  single : ∀ group ∈ groups, ∀ type ∈ group, type.WellFormed ∧ type.Layered outer ∧ type.isJoined = false
  shown : text = Text.join outer.separator
    (groups.map fun group => Text.join outer.other.separator (group.map display))

section

variable {outer joint : Joint} {types others : List TypeExpr} {type : TypeExpr} {text behind : List Char}
  {groups more : List (List TypeExpr)}

theorem lays_single (formed : type.WellFormed) (layered : type.Layered outer) (single : type.isJoined = false) :
    Lays outer [[type]] type.display where
  someGroup := List.cons_ne_nil _ _
  someType := by simp
  single := by simpa using ⟨formed, layered, single⟩
  shown := rfl

/-- Two rows with the outer joint between them. -/
theorem Lays.append (lays : Lays outer groups text) (laysMore : Lays outer more behind) :
    Lays outer (groups ++ more) (text ++ outer.separator ++ behind) where
  someGroup := by simp [lays.someGroup]
  someType group member := (List.mem_append.mp member).elim (lays.someType group) (laysMore.someType group)
  single group member := (List.mem_append.mp member).elim (lays.single group) (laysMore.single group)
  shown := by
    rw [List.map_append, Text.join_append_of_ne_nil _ (by simpa using lays.someGroup)
      (by simpa using laysMore.someGroup), lays.shown, laysMore.shown]

/-- Two rows with the inner joint between them: the groups on its sides are one. -/
theorem Lays.weld {earlier later : List (List TypeExpr)} {last first : List TypeExpr}
    (lays : Lays outer (earlier ++ [last]) text) (laysMore : Lays outer (first :: later) behind) :
    Lays outer (earlier ++ (last ++ first) :: later) (text ++ outer.other.separator ++ behind) where
  someGroup := by simp
  someType := by
    intro group member
    simp only [List.mem_append, List.mem_cons] at member
    rcases member with before | rfl | after
    · exact lays.someType group (by simp [before])
    · simp [lays.someType last (by simp)]
    · exact laysMore.someType group (by simp [after])
  single := by
    intro group member
    simp only [List.mem_append, List.mem_cons] at member
    rcases member with before | rfl | after
    · exact lays.single group (by simp [before])
    · intro type inGroup
      rcases List.mem_append.mp inGroup with inLast | inFirst
      · exact lays.single last (by simp) type inLast
      · exact laysMore.single first (by simp) type inFirst
    · exact laysMore.single group (by simp [after])
  shown := by
    have joined := Text.join_append_of_ne_nil outer.other.separator
      (show last.map display ≠ [] by simpa using lays.someType last (by simp))
      (show first.map display ≠ [] by simpa using laysMore.someType first (by simp))
    rw [lays.shown, laysMore.shown, List.map_append, List.map_append, List.map_cons, List.map_cons,
      List.map_cons, List.map_nil, Text.join_glue, List.map_append, joined]

theorem exists_lays_joined (joint : Joint) (lays : Lays outer groups text) (laysMore : Lays outer more behind) :
    ∃ whole, Lays outer whole (text ++ joint.separator ++ behind) ∧
      whole.flatten.length = groups.flatten.length + more.flatten.length := by
  by_cases isOuter : joint = outer
  · subst isOuter
    exact ⟨_, lays.append laysMore, by simp⟩
  · rw [Joint.eq_other_of_ne isOuter]
    obtain ⟨first, later, rfl⟩ := List.exists_cons_of_ne_nil laysMore.someGroup
    obtain ⟨earlier, last, rfl⟩ := (List.eq_nil_or_concat' groups).resolve_left lays.someGroup
    refine ⟨_, lays.weld laysMore, ?_⟩
    simp only [List.flatten_append, List.flatten_cons, List.length_append, List.flatten_nil, List.append_nil]
    omega

theorem Lays.length_le (lays : Lays outer groups text) :
    1 ≤ groups.length ∧ groups.length ≤ groups.flatten.length := by
  have atLeast {groups : List (List TypeExpr)} (someType : ∀ group ∈ groups, group ≠ []) :
      groups.length ≤ groups.flatten.length := by
    induction groups with
    | nil => exact Nat.le_refl 0
    | cons group rest inductionHypothesis =>
        rw [List.forall_mem_cons] at someType
        have own := List.length_pos_iff.mpr someType.1
        have others := inductionHypothesis someType.2
        rw [List.length_cons, List.flatten_cons, List.length_append]
        omega
  exact ⟨List.length_pos_iff.mpr lays.someGroup, atLeast lays.someType⟩

/-- The texts of a row's members make up one row, which holds a single type for each of them at least. -/
theorem exists_lays_join (joint : Joint) (nonempty : types ≠ [])
    (each : ∀ type ∈ types, ∃ groups, Lays outer groups type.display) :
    ∃ whole, Lays outer whole (Text.join joint.separator (types.map display)) ∧
      types.length ≤ whole.flatten.length := by
  induction types with
  | nil => contradiction
  | cons type rest inductionHypothesis =>
      rw [List.forall_mem_cons] at each
      obtain ⟨groups, lays⟩ := each.1
      by_cases restThere : rest = []
      · subst restThere
        exact ⟨groups, lays, Nat.le_trans lays.length_le.1 lays.length_le.2⟩
      · obtain ⟨more, laysMore, atLeast⟩ := inductionHypothesis restThere each.2
        obtain ⟨whole, laysWhole, isSum⟩ := exists_lays_joined joint lays laysMore
        refine ⟨whole, ?_, ?_⟩
        · rw [List.map_cons, Text.join_cons_of_ne_nil _ _ (by simpa using restThere)]
          exact laysWhole
        · have positive := lays.length_le
          rw [isSum, List.length_cons]
          omega

theorem display_joinedAs (joint : Joint) (types : List TypeExpr) :
    (joinedAs joint.join types).display = Text.join joint.separator (types.map display) := by
  unfold joinedAs
  split
  · rfl
  · exact display_join joint types

/-- A type of several members is joined, and a single member stands for itself. -/
theorem joinedAs_cases (joint : Joint) (nonempty : types ≠ []) :
    (∃ type, types = [type] ∧ joinedAs joint.join types = type) ∨
      2 ≤ types.length ∧ joinedAs joint.join types = joint.join types := by
  match types with
  | [] => contradiction
  | [type] => exact .inl ⟨type, rfl, rfl⟩
  | type :: next :: rest => exact .inr ⟨by simp, rfl⟩

/-- A row is the text of a type where the outer joint is outermost. It is joined if the row holds more than one
type. -/
theorem Lays.exists_reading (lays : Lays outer groups text) :
    ∃ reading : TypeExpr, reading.WellFormed ∧ reading.Layered outer ∧ reading.display = text ∧
      (reading.isJoined = true ↔ 2 ≤ groups.flatten.length) := by
  have inner : ∀ group ∈ groups, (joinedAs outer.other.join group).WellFormed ∧
      (joinedAs outer.other.join group).Layered outer ∧
      (∀ types, joinedAs outer.other.join group ≠ outer.join types) ∧
      ((joinedAs outer.other.join group).isJoined = true ↔ 2 ≤ group.length) := by
    intro group member
    have single := lays.single group member
    have noJoin {type : TypeExpr} (inGroup : type ∈ group) (joint : Joint) (types : List TypeExpr) :
        type ≠ joint.join types := by
      rintro rfl
      have notJoined := (single _ inGroup).2.2
      rw [Joint.isJoined_join] at notJoined
      contradiction
    rcases joinedAs_cases outer.other (lays.someType group member) with ⟨type, rfl, same⟩ | ⟨several, same⟩
    · obtain ⟨formed, layered, notJoined⟩ := single type List.mem_cons_self
      rw [same]
      exact ⟨formed, layered, noJoin List.mem_cons_self outer, by simp [notJoined]⟩
    · rw [same]
      refine ⟨?_, ?_, fun types equal => (outer.other_ne) (Joint.join_inj equal).1, by simp [several]⟩
      · exact .join _ several (fun type inGroup => (single type inGroup).1) fun type inGroup => noJoin inGroup _
      · exact .join _ (fun type inGroup => (single type inGroup).2.1) fun _ type inGroup => noJoin inGroup _
  have shown : (joinedAs outer.join (groups.map (joinedAs outer.other.join))).display = text := by
    rw [display_joinedAs, List.map_map, lays.shown]
    exact congrArg _ (List.map_congr_left fun group _ => display_joinedAs outer.other group)
  rcases joinedAs_cases outer (show groups.map (joinedAs outer.other.join) ≠ [] by simpa using lays.someGroup)
    with ⟨type, isGroup, same⟩ | ⟨several, same⟩
  · obtain ⟨group, rfl, isType⟩ := List.map_eq_singleton_iff.mp isGroup
    obtain ⟨formed, layered, -, joined⟩ := inner group List.mem_cons_self
    rw [same] at shown
    rw [isType] at formed layered joined
    exact ⟨type, formed, layered, shown, by simpa using joined⟩
  · rw [same] at shown
    refine ⟨_, .join outer several ?_ ?_, .join outer ?_ fun apart => absurd rfl apart, shown, ?_⟩
    · exact List.forall_mem_map.mpr fun group member => (inner group member).1
    · exact List.forall_mem_map.mpr fun group member => (inner group member).2.2.1
    · exact List.forall_mem_map.mpr fun group member => (inner group member).2.1
    · have atLeast := lays.length_le.2
      rw [List.length_map] at several
      rw [Joint.isJoined_join]
      simp only [true_iff]
      omega

theorem exists_map_display_eq {P : TypeExpr → Prop}
    (each : ∀ type ∈ types, ∃ reading : TypeExpr, P reading ∧ reading.display = type.display) :
    ∃ readings : List TypeExpr, (∀ reading ∈ readings, P reading) ∧
      readings.map display = types.map display := by
  induction types with
  | nil => exact ⟨[], by simp, rfl⟩
  | cons type rest inductionHypothesis =>
      rw [List.forall_mem_cons] at each
      obtain ⟨reading, holds, same⟩ := each.1
      obtain ⟨readings, all, sameRest⟩ := inductionHypothesis each.2
      refine ⟨reading :: readings, List.forall_mem_cons.mpr ⟨holds, all⟩, ?_⟩
      rw [List.map_cons, List.map_cons, same, sameRest]

/-- Every type's text is a row, which holds more than one type if the type is joined. -/
theorem WellFormed.exists_lays (formed : type.WellFormed) (outer : Joint) :
    ∃ groups, Lays outer groups type.display ∧ (type.isJoined = true ↔ 2 ≤ groups.flatten.length) := by
  induction formed with
  | @ref name args named _ inductionHypothesis =>
      have each : ∀ arg ∈ args, ∃ reading : TypeExpr,
          (reading.WellFormed ∧ reading.Layered outer) ∧ reading.display = arg.display := by
        intro arg member
        obtain ⟨groups, lays, -⟩ := inductionHypothesis arg member
        obtain ⟨reading, formed, layered, same, -⟩ := lays.exists_reading
        exact ⟨reading, ⟨formed, layered⟩, same⟩
      obtain ⟨readings, all, same⟩ := exists_map_display_eq each
      have sameText : (TypeExpr.ref name readings).display = (TypeExpr.ref name args).display := by
        by_cases someArg : args = []
        · subst someArg
          rw [List.map_eq_nil_iff.mp same]
        · have someReading : readings ≠ [] := by
            rintro rfl
            exact someArg (List.map_eq_nil_iff.mp same.symm)
          rw [display_generic name someArg, display_generic name someReading, same]
      have lays := lays_single (.ref named fun reading member => (all reading member).1)
        (.ref fun reading member => (all reading member).2) rfl
      rw [sameText] at lays
      exact ⟨_, lays, by simp [isJoined]⟩
  | @array element _ inductionHypothesis =>
      obtain ⟨groups, laysElement, joined⟩ := inductionHypothesis
      obtain ⟨reading, formed, layered, same, joinedToo⟩ := laysElement.exists_reading
      have alike : reading.isJoined = element.isJoined := Bool.eq_iff_iff.mpr (joinedToo.trans joined.symm)
      have lays := lays_single (.array formed) (.array layered) rfl
      rw [display_array, framed, same, alike] at lays
      rw [display_array, framed]
      exact ⟨_, lays, by simp [isJoined]⟩
  | @join joint types several _ _ inductionHypothesis =>
      have nonempty : types ≠ [] := by
        rintro rfl
        simp at several
      obtain ⟨groups, lays, atLeast⟩ := exists_lays_join joint nonempty fun type member =>
        (inductionHypothesis type member).imp fun _ both => both.1
      rw [← display_join] at lays
      rw [Joint.isJoined_join]
      exact ⟨groups, lays, by simp only [true_iff]; omega⟩

/-- Every text of a type has one reading for each joint, where this joint is outermost in each row. It is the text of
one type alone exactly if both readings are this type: if no row has bars and ampersands. -/
theorem WellFormed.readings (formed : type.WellFormed) :
    (∀ outer, ∃! reading : TypeExpr, reading.WellFormed ∧ reading.Layered outer ∧
      reading.display = type.display) ∧
    ((∀ other : TypeExpr, other.WellFormed → other.display = type.display → other = type) ↔
      ∀ outer, type.Layered outer) := by
  have exists_reading (outer : Joint) : ∃ reading : TypeExpr, reading.WellFormed ∧ reading.Layered outer ∧
      reading.display = type.display := by
    obtain ⟨groups, lays, -⟩ := formed.exists_lays outer
    obtain ⟨reading, formedReading, layered, same, -⟩ := lays.exists_reading
    exact ⟨reading, formedReading, layered, same⟩
  refine ⟨fun outer => ?_, ?_, ?_⟩
  · obtain ⟨reading, formedReading, layered, same⟩ := exists_reading outer
    refine ⟨reading, ⟨formedReading, layered, same⟩, ?_⟩
    rintro other ⟨formedOther, layeredOther, sameOther⟩
    exact eq_of_display_eq formedOther formedReading (.inl ⟨outer, layeredOther, layered⟩)
      (sameOther.trans same.symm)
  · intro alone outer
    obtain ⟨reading, formedReading, layered, same⟩ := exists_reading outer
    rw [← alone reading formedReading same]
    exact layered
  · intro layered other formedOther same
    exact (eq_of_display_eq formed formedOther (.inr layered) same.symm).symm

end

end TypeExpr

end DeclaredOptions
