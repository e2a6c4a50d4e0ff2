import DeclaredOptions.Declaration.Collection
import DeclaredOptions.Proofs.Source.Word
import DeclaredOptions.Proofs.Text.Surface

/-!
Contract: the texts that types are shown by, taken apart.

Owns:
- types that are built from names, type arguments, arrays, unions and intersections, with the text of each form;
- what such texts show outside of brackets, which tells rows of types from single ones;
- each form's parts, whose texts the text of the whole tells.

Does not own: which of several joints in one row is read first, literal types, and types that are kept as text.
-/

set_option autoImplicit false

namespace DeclaredOptions

namespace TypeExpr

/-! ## Joints -/

namespace Joint

def mark : Joint → Char
  | .bar => '|'
  | .ampersand => '&'

def other : Joint → Joint
  | .bar => .ampersand
  | .ampersand => .bar

def separator (joint : Joint) : List Char := [' ', joint.mark, ' ']

variable {joint second : Joint} {types others : List TypeExpr}

theorem eq_other_of_ne (apart : joint ≠ second) : joint = second.other := by
  cases joint <;> cases second <;> simp_all [other]

theorem other_ne (joint : Joint) : joint.other ≠ joint := by cases joint <;> decide

@[simp] theorem isJoined_join (joint : Joint) (types : List TypeExpr) : (joint.join types).isJoined = true := by
  cases joint <;> rfl

theorem join_inj (same : joint.join types = second.join others) : joint = second ∧ types = others := by
  cases joint <;> cases second <;> simp_all [join]

theorem join_ne_ref (name : String) (args : List TypeExpr) : joint.join types ≠ .ref name args := by
  cases joint <;> exact nofun

theorem join_ne_array (element : TypeExpr) : joint.join types ≠ .array element := by
  cases joint <;> exact nofun

theorem exists_join {type : TypeExpr} (joined : type.isJoined = true) :
    ∃ joint : Joint, ∃ types, type = joint.join types := by
  cases type with
  | union types => exact ⟨.bar, types, rfl⟩
  | intersection types => exact ⟨.ampersand, types, rfl⟩
  | _ => contradiction

theorem plain_separator (joint : Joint) : ∀ c ∈ joint.separator, Text.IsPlain c := by
  cases joint <;> exact Text.forall_isPlain rfl

theorem mark_mem_separator_iff : second.mark ∈ joint.separator ↔ second = joint := by
  cases joint <;> cases second <;> decide

end Joint

/-! ## Texts by form -/

theorem displayAll_eq_map (types : List TypeExpr) : displayAll types = types.map display := by
  induction types with
  | nil => rfl
  | cons type rest inductionHypothesis => rw [displayAll, inductionHypothesis, List.map_cons]

theorem display_join (joint : Joint) (types : List TypeExpr) :
    (joint.join types).display = Text.join joint.separator (types.map display) := by
  rw [← displayAll_eq_map]
  cases joint <;> rw [Joint.join, display] <;> rfl

theorem display_name (name : String) : (ref name []).display = name.toList := by
  rw [display]

theorem display_generic (name : String) {args : List TypeExpr} (someArg : args ≠ []) :
    (ref name args).display =
      name.toList ++ '<' :: (Text.join [',', ' '] (args.map display) ++ ['>']) := by
  obtain ⟨arg, rest, rfl⟩ := List.exists_cons_of_ne_nil someArg
  rw [display, displayAll_eq_map]
  simp

/-- The text of an array's element, with the parentheses that keep it together. -/
def framed (type : TypeExpr) : List Char :=
  if type.isJoined then '(' :: (type.display ++ [')']) else type.display

theorem display_array (element : TypeExpr) : (array element).display = element.framed ++ ['[', ']'] := by
  rw [display]
  rfl

/-! ## Types that are built up -/

/-- The name of a type: words with dots between them. -/
def IsTypeName (name : String) : Prop := ∀ part ∈ Text.pieces '.' name.toList, Source.IsWord part

/-- A type that is built from names, type arguments, arrays, and joins of two members or more, none of which is a join
by the same joint. -/
inductive WellFormed : TypeExpr → Prop where
  | ref {name : String} {args : List TypeExpr} (named : IsTypeName name)
      (formed : ∀ arg ∈ args, WellFormed arg) : WellFormed (.ref name args)
  | array {element : TypeExpr} (formed : WellFormed element) : WellFormed (.array element)
  | join (joint : Joint) {types : List TypeExpr} (several : 2 ≤ types.length)
      (formed : ∀ type ∈ types, WellFormed type)
      (flat : ∀ type ∈ types, ∀ inner, type ≠ joint.join inner) : WellFormed (joint.join types)

theorem WellFormed.of_join {joint : Joint} {types : List TypeExpr} (formed : (joint.join types).WellFormed) :
    2 ≤ types.length ∧ (∀ type ∈ types, type.WellFormed) ∧
      ∀ type ∈ types, ∀ inner, type ≠ joint.join inner := by
  generalize shape : joint.join types = type at formed
  cases formed with
  | ref => exact absurd shape (Joint.join_ne_ref _ _)
  | array => exact absurd shape (Joint.join_ne_array _)
  | join second several members flat =>
      obtain ⟨rfl, rfl⟩ := Joint.join_inj shape
      exact ⟨several, members, flat⟩

/-! ## What texts show -/

/-- The characters that texts of types have besides names. -/
def marks : List Char := " ,|&<>()[]".toList

theorem IsTypeName.nonempty {name : String} (named : IsTypeName name) : name.toList ≠ [] := by
  intro isEmpty
  have word := named [] (by rw [isEmpty]; exact List.mem_singleton_self _)
  exact word.nonempty rfl

theorem IsTypeName.not_mem_marks {name : String} (named : IsTypeName name) {c : Char}
    (member : c ∈ name.toList) : c ∉ marks := by
  have noPart : marks.all (fun mark => mark != '.' && !Source.isWordChar mark) = true := by decide
  intro isMark
  have noneOfBoth := List.all_eq_true.mp noPart c isMark
  rw [Bool.and_eq_true, bne_iff_ne, Bool.not_eq_true'] at noneOfBoth
  obtain ⟨noDot, noWord⟩ := noneOfBoth
  rw [← Text.join_pieces '.' name.toList] at member
  rcases Text.mem_join member with isDot | ⟨part, isPart, inPart⟩
  · exact noDot isDot
  · rw [(named part isPart).chars c inPart] at noWord
    exact Bool.noConfusion noWord

theorem IsTypeName.plain {name : String} (named : IsTypeName name) : ∀ c ∈ name.toList, Text.IsPlain c := by
  intro c member
  have noMark := named.not_mem_marks member
  constructor
  · rw [Bool.eq_false_iff]
    intro opens
    simp only [Text.isOpening, Bool.or_eq_true, beq_iff_eq] at opens
    rcases opens with rfl | rfl <;> exact noMark (by decide)
  · rw [Bool.eq_false_iff]
    intro closes
    simp only [Text.isClosing, Bool.or_eq_true, beq_iff_eq] at closes
    rcases closes with rfl | rfl <;> exact noMark (by decide)

/-- The brackets of a text match. Outside of them it shows no comma, and a bar or an ampersand only in a row. -/
structure Shows (type : TypeExpr) : Prop where
  balanced : Text.Balanced type.display
  noComma : ',' ∉ Text.surface 0 type.display
  noJoint : type.isJoined = false → ∀ joint : Joint, joint.mark ∉ Text.surface 0 type.display

theorem mem_surface_display_join {joint : Joint} {types : List TypeExpr} {c : Char}
    (several : 2 ≤ types.length) (shows : ∀ type ∈ types, type.Shows) :
    c ∈ Text.surface 0 (joint.join types).display ↔
      c ∈ joint.separator ∨ ∃ type ∈ types, c ∈ Text.surface 0 type.display := by
  rw [display_join, Text.mem_surface_join joint.plain_separator
    (List.forall_mem_map.mpr fun type member => (shows type member).balanced), List.length_map,
    and_iff_right several]
  simp

section

variable {name : String} {args types : List TypeExpr} {element : TypeExpr} {joint : Joint}

theorem shows_ref (named : IsTypeName name) (shows : ∀ arg ∈ args, arg.Shows) : (ref name args).Shows := by
  have noMark {mark : Char} (isMark : mark ∈ marks) : mark ∉ name.toList :=
    fun member => named.not_mem_marks member isMark
  have noJoint (joint : Joint) : joint.mark ∉ name.toList := noMark (by cases joint <;> decide)
  have balancedName := Text.balanced_of_plain named.plain
  have nameShows := Text.surface_of_plain named.plain
  by_cases someArg : args = []
  · subst someArg
    refine ⟨?_, ?_, fun _ joint => ?_⟩ <;> rw [display_name]
    · exact balancedName
    · rw [nameShows]
      exact noMark (by decide)
    · rw [nameShows]
      exact noJoint joint
  · have inner : Text.Balanced (Text.join [',', ' '] (args.map display)) :=
      Text.balanced_join (Text.forall_isPlain rfl)
        (List.forall_mem_map.mpr fun arg member => (shows arg member).balanced)
    obtain ⟨balanced, shown⟩ :=
      Text.balanced_between '<' '>' rfl ⟨rfl, rfl⟩ inner
    have whole : Text.surface 0 (ref name args).display = name.toList ++ ['<'] := by
      rw [display_generic name someArg, balancedName.surface_append, shown, nameShows]
    refine ⟨?_, ?_, fun _ joint => ?_⟩
    · rw [display_generic name someArg]
      exact balancedName.append balanced
    · rw [whole, List.mem_append, not_or]
      exact ⟨noMark (by decide), by decide⟩
    · rw [whole, List.mem_append, not_or]
      exact ⟨noJoint joint, by cases joint <;> decide⟩

theorem Shows.framed (shows : element.Shows) :
    Text.Balanced element.framed ∧ ',' ∉ Text.surface 0 element.framed ∧
      ∀ joint : Joint, joint.mark ∉ Text.surface 0 element.framed := by
  unfold TypeExpr.framed
  split
  · obtain ⟨balanced, shown⟩ :=
      Text.balanced_between '(' ')' rfl ⟨rfl, rfl⟩ shows.balanced
    rw [shown]
    exact ⟨balanced, by decide, fun joint => by cases joint <;> decide⟩
  · rename_i noJoin
    exact ⟨shows.balanced, shows.noComma, shows.noJoint (by simpa using noJoin)⟩

theorem shows_array (shows : element.Shows) : (array element).Shows := by
  have plainEnd : ∀ c ∈ ['[', ']'], Text.IsPlain c := Text.forall_isPlain rfl
  obtain ⟨balanced, noComma, noJoint⟩ := shows.framed
  refine ⟨?_, ?_, fun _ joint => ?_⟩ <;> rw [display_array]
  · exact balanced.append (Text.balanced_of_plain plainEnd)
  · rw [balanced.surface_append, Text.surface_of_plain plainEnd, List.mem_append, not_or]
    exact ⟨noComma, by decide⟩
  · rw [balanced.surface_append, Text.surface_of_plain plainEnd, List.mem_append, not_or]
    exact ⟨noJoint joint, by cases joint <;> decide⟩

theorem shows_join (several : 2 ≤ types.length) (shows : ∀ type ∈ types, type.Shows) :
    (joint.join types).Shows := by
  refine ⟨?_, ?_, fun noJoin => ?_⟩
  · rw [display_join]
    exact Text.balanced_join joint.plain_separator
      (List.forall_mem_map.mpr fun type member => (shows type member).balanced)
  · rw [mem_surface_display_join several shows, not_or]
    refine ⟨by cases joint <;> decide, ?_⟩
    rintro ⟨type, member, shown⟩
    exact (shows type member).noComma shown
  · rw [Joint.isJoined_join] at noJoin
    contradiction

end

theorem WellFormed.shows {type : TypeExpr} (formed : type.WellFormed) : type.Shows := by
  induction formed with
  | ref named _ inductionHypothesis => exact shows_ref named inductionHypothesis
  | array _ inductionHypothesis => exact shows_array inductionHypothesis
  | join joint several _ _ inductionHypothesis => exact shows_join several inductionHypothesis

/-- A joined type shows its own joint, and what its members show. -/
theorem WellFormed.mark_mem_iff {joint second : Joint} {types : List TypeExpr}
    (formed : (joint.join types).WellFormed) :
    second.mark ∈ Text.surface 0 (joint.join types).display ↔
      second = joint ∨ ∃ type ∈ types, second.mark ∈ Text.surface 0 type.display := by
  obtain ⟨several, members, -⟩ := formed.of_join
  rw [mem_surface_display_join several fun type member => (members type member).shows,
    Joint.mark_mem_separator_iff]

/-! ## Types by their texts -/

section

variable {type other element second : TypeExpr} {name rename : String} {args others types : List TypeExpr}
  {outer joint : Joint}

theorem isJoined_eq_of_display_eq (formed : type.WellFormed) (formedOther : other.WellFormed)
    (same : type.display = other.display) : type.isJoined = other.isJoined := by
  have shows {type other : TypeExpr} (formed : type.WellFormed) (formedOther : other.WellFormed)
      (same : type.display = other.display) (joined : type.isJoined = true) : other.isJoined = true := by
    obtain ⟨joint, types, rfl⟩ := Joint.exists_join joined
    have shown := formed.mark_mem_iff.mpr (.inl rfl)
    rw [same] at shown
    rw [← Bool.not_eq_false]
    exact fun noJoin => formedOther.shows.noJoint noJoin joint shown
  exact Bool.eq_iff_iff.mpr ⟨shows formed formedOther same, shows formedOther formed same.symm⟩

/-- The last character of a type that is not joined: that of a name, or a bracket. -/
theorem getLast?_display_ref (someArg : args ≠ []) : (ref name args).display.getLast? = some '>' := by
  rw [display_generic name someArg, ← List.cons_append, ← List.append_assoc, List.getLast?_concat]

theorem getLast?_display_array (element : TypeExpr) : (array element).display.getLast? = some ']' := by
  rw [display_array]
  simp

theorem getLast?_display_name (named : IsTypeName name) :
    ∀ c ∈ (ref name []).display.getLast?, c ∉ marks := by
  intro c last
  rw [display_name] at last
  exact named.not_mem_marks (List.mem_of_getLast? last)

theorem getLast?_display_ne (formed : type.WellFormed) (noJoin : type.isJoined = false) :
    type.display.getLast? ≠ some ')' := by
  intro last
  cases formed with
  | @ref name args named =>
      by_cases someArg : args = []
      · subst someArg
        exact getLast?_display_name named _ last (by decide)
      · rw [getLast?_display_ref someArg] at last
        contradiction
  | array =>
      rw [getLast?_display_array] at last
      contradiction
  | join joint =>
      rw [Joint.isJoined_join] at noJoin
      contradiction

theorem display_array_ne_ref (named : IsTypeName name) : (array element).display ≠ (ref name args).display := by
  intro same
  have last := getLast?_display_array element
  rw [same] at last
  by_cases someArg : args = []
  · subst someArg
    exact getLast?_display_name named _ last (by decide)
  · rw [getLast?_display_ref someArg] at last
    contradiction

/-- The text of an array tells its element's. -/
theorem display_array_inj (formed : element.WellFormed) (formedSecond : second.WellFormed)
    (same : (array element).display = (array second).display) : element.display = second.display := by
  have lastFramed (type : TypeExpr) (joined : type.isJoined = true) : type.framed.getLast? = some ')' := by
    rw [framed, if_pos joined, ← List.cons_append, List.getLast?_concat]
  rw [display_array, display_array] at same
  have sameFrame := List.append_cancel_right same
  cases joined : element.isJoined with
  | true =>
      cases joinedSecond : second.isJoined with
      | true => simpa [framed, joined, joinedSecond] using sameFrame
      | false =>
          have last := lastFramed element joined
          rw [sameFrame, framed, joinedSecond] at last
          exact absurd last (getLast?_display_ne formedSecond joinedSecond)
  | false =>
      cases joinedSecond : second.isJoined with
      | true =>
          have last := lastFramed second joinedSecond
          rw [← sameFrame, framed, joined] at last
          exact absurd last (getLast?_display_ne formed joined)
      | false => simpa [framed, joined, joinedSecond] using sameFrame

/-- The text of a name with its arguments tells the name and the arguments' texts. -/
theorem display_ref_inj (named : IsTypeName name) (renamed : IsTypeName rename)
    (formed : ∀ arg ∈ args, arg.WellFormed) (formedOthers : ∀ arg ∈ others, arg.WellFormed)
    (same : (ref name args).display = (ref rename others).display) :
    name = rename ∧ args.map display = others.map display := by
  have bare {name : String} (named : IsTypeName name) :
      Text.Balanced name.toList ∧ '<' ∉ Text.surface 0 name.toList := by
    rw [Text.surface_of_plain named.plain]
    exact ⟨Text.balanced_of_plain named.plain, fun member => named.not_mem_marks member (by decide)⟩
  have hidden {args : List TypeExpr} (formed : ∀ arg ∈ args, arg.WellFormed) :
      ∀ part ∈ args.map display, Text.Balanced part ∧ ',' ∉ Text.surface 0 part :=
    List.forall_mem_map.mpr fun arg member => ⟨(formed arg member).shows.balanced, (formed arg member).shows.noComma⟩
  have apart {name rename : String} (named : IsTypeName name) {others : List TypeExpr} (someOther : others ≠ []) :
      (ref name []).display ≠ (ref rename others).display := by
    intro same
    have last := @getLast?_display_ref rename _ someOther
    rw [← same] at last
    exact getLast?_display_name named _ last (by decide)
  by_cases someArg : args = []
  · by_cases someOther : others = []
    · subst someArg someOther
      rw [display_name, display_name] at same
      exact ⟨String.toList_inj.mp same, rfl⟩
    · subst someArg
      exact absurd same (apart named someOther)
  · by_cases someOther : others = []
    · subst someOther
      exact absurd same.symm (apart renamed someArg)
    · rw [display_generic name someArg, display_generic rename someOther] at same
      obtain ⟨sameName, behind⟩ := Text.append_inj_of_surface (bare named).1 (bare renamed).1
        (bare named).2 (bare renamed).2 same
      refine ⟨String.toList_inj.mp sameName, ?_⟩
      exact Text.join_inj_of_surface [] [' '] (by simp) (by simp) (by simpa using someArg)
        (by simpa using someOther) (hidden formed) (hidden formedOthers) (List.append_cancel_right behind)

/-- The text of a row tells the texts of its members, none of which shows the joint. -/
theorem display_join_inj (formed : (joint.join types).WellFormed) (formedOthers : (joint.join others).WellFormed)
    (hidden : ∀ type ∈ types, joint.mark ∉ Text.surface 0 type.display)
    (hiddenOthers : ∀ type ∈ others, joint.mark ∉ Text.surface 0 type.display)
    (same : (joint.join types).display = (joint.join others).display) :
    types.map display = others.map display := by
  have nonempty {types : List TypeExpr} (formed : (joint.join types).WellFormed) : types.map display ≠ [] := by
    rw [ne_eq, List.map_eq_nil_iff]
    rintro rfl
    exact absurd formed.of_join.1 (by simp)
  have balanced {types : List TypeExpr} (formed : (joint.join types).WellFormed)
      (hidden : ∀ type ∈ types, joint.mark ∉ Text.surface 0 type.display) :
      ∀ part ∈ types.map display, Text.Balanced part ∧ joint.mark ∉ Text.surface 0 part :=
    List.forall_mem_map.mpr fun type member =>
      ⟨(formed.of_join.2.1 type member).shows.balanced, hidden type member⟩
  rw [display_join, display_join] at same
  exact Text.join_inj_of_surface [' '] [' '] (Text.forall_isPlain rfl) (by cases joint <;> decide)
    (nonempty formed) (nonempty formedOthers) (balanced formed hidden) (balanced formedOthers hiddenOthers) same

end

end TypeExpr

end DeclaredOptions
