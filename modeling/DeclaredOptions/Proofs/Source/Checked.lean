import DeclaredOptions.Source.Reading
import DeclaredOptions.Proofs.Source.Fault

/-!
Contract: reading a source text of which a parser gives a tree.

Owns:
- what is asked of the parser: its trees have a fault exactly where a text does not read;
- the agreement of reading with and without a look at the tree, and the report that takes the place of a bare
  refusal.

Does not own: how a parser recovers from a fault, so which places of a text that does not read its tree marks.

A bare refusal tells only the path. The message, the line and the column of a report are those of the first fault of
the tree in preorder.
-/

set_option autoImplicit false

namespace DeclaredOptions.Source

open SyntaxNode (FlagsFaults Reported)

variable {parser : Bool → String → SyntaxNode} {path text : String} {statements : List Statement}

/-- A parser judges texts if its tree of a text has a fault exactly if the text does not read, and the flags of the
tree lead to its faults. -/
structure Judges (parser : Bool → String → SyntaxNode) : Prop where
  flagsFaults (markup : Bool) (text : String) : (parser markup text).FlagsFaults
  isFault_iff (markup : Bool) (text : String) :
    (∃ n ∈ (parser markup text).preorder, n.isFault = true) ↔ statements? markup text.toList = none

/-- The first fault of the tree that a parser gives of a source. -/
def fault? (parser : Bool → String → SyntaxNode) (path text : String) : Option SyntaxNode :=
  (parser (hasMarkup path) text).preorder.find? SyntaxNode.isFault

theorem read_eq_ok_iff :
    read path text = .ok statements ↔ statements? (hasMarkup path) text.toList = some statements := by
  rw [read]
  cases statements? (hasMarkup path) text.toList <;> simp

theorem read_eq_error_iff {failure : Failure} : read path text = .error failure ↔
    statements? (hasMarkup path) text.toList = none ∧ failure = .unreadableSource path := by
  rw [read]
  cases statements? (hasMarkup path) text.toList <;> simp [eq_comm]

namespace Judges

variable (judges : Judges parser)

include judges

theorem fault?_eq_none_iff : fault? parser path text = none ↔ ∃ statements, read path text = .ok statements := by
  have sound : fault? parser path text = none ↔ ¬statements? (hasMarkup path) text.toList = none := by
    simp only [fault?, List.find?_eq_none, ← judges.isFault_iff, not_exists, not_and]
  rw [sound]
  simp only [read_eq_ok_iff, Option.ne_none_iff_exists']

theorem search?_eq_fault? : (parser (hasMarkup path) text).search? = fault? parser path text :=
  SyntaxNode.search?_eq_find? (judges.flagsFaults _ _)

/-- A text that reads gives the same statements after a look at its tree. -/
theorem readChecked_of_fault?_eq_none (sound : fault? parser path text = none) :
    readChecked parser path text = read path text := by
  rw [← judges.search?_eq_fault?] at sound
  have passes : (parser (hasMarkup path) text).check path text = .ok () := by rw [SyntaxNode.check, sound]
  rw [readChecked, passes]
  rfl

/-- A text that does not read is refused with the report of the first fault of its tree. -/
theorem readChecked_of_fault? {fault : SyntaxNode} (found : fault? parser path text = some fault) :
    ∃ failure, readChecked parser path text = .error failure ∧ fault.Reported path text failure := by
  rw [← judges.search?_eq_fault?] at found
  obtain ⟨failure, refused, reported⟩ := @SyntaxNode.exists_check_eq_error path text _ _ found
  refine ⟨failure, ?_, reported⟩
  rw [readChecked, refused]
  rfl

theorem readChecked_eq_ok_iff :
    readChecked parser path text = .ok statements ↔ read path text = .ok statements := by
  cases found : fault? parser path text with
  | none => rw [judges.readChecked_of_fault?_eq_none found]
  | some fault =>
      obtain ⟨failure, refused, -⟩ := judges.readChecked_of_fault? found
      have unread : ¬∃ statements, read path text = .ok statements :=
        fun reads => Option.some_ne_none fault (found.symm.trans (judges.fault?_eq_none_iff.mpr reads))
      rw [refused]
      exact iff_of_false nofun fun reads => unread ⟨statements, reads⟩

/-- A look at the tree replaces the bare refusal of a text, and no other outcome, by the report of the first fault. -/
theorem read_eq_unreadable_iff : read path text = .error (.unreadableSource path) ↔
    ∃ fault failure, fault? parser path text = some fault ∧ readChecked parser path text = .error failure ∧
      fault.Reported path text failure := by
  constructor
  · intro unread
    cases found : fault? parser path text with
    | none =>
        obtain ⟨statements, reads⟩ := judges.fault?_eq_none_iff.mp found
        rw [unread] at reads
        contradiction
    | some fault =>
        obtain ⟨failure, refused, reported⟩ := judges.readChecked_of_fault? found
        exact ⟨fault, failure, rfl, refused, reported⟩
  · rintro ⟨fault, failure, -, refused, -⟩
    cases reads : read path text with
    | ok statements =>
        rw [judges.readChecked_eq_ok_iff.mpr reads] at refused
        contradiction
    | error bare => rw [(read_eq_error_iff.mp reads).2]

end Judges

/-- A tree of one node, which is erroneous if the text does not read. -/
def verdict (markup : Bool) (text : String) : SyntaxNode :=
  let unread := (statements? markup text.toList).isNone
  .node (if unread then "ERROR" else "program") ⟨0, 0⟩ 0 text.utf8ByteSize false unread []

/-- Such a parser exists: it marks the whole of a text that does not read. -/
theorem judges_verdict : Judges verdict where
  flagsFaults markup text := by
    cases read : statements? markup text.toList <;>
      simp [FlagsFaults, verdict, SyntaxNode.preorder, SyntaxNode.preorderAmong, SyntaxNode.isFault,
        SyntaxNode.missing, SyntaxNode.erroneous, SyntaxNode.kind, SyntaxNode.flagged, read]
  isFault_iff markup text := by
    cases read : statements? markup text.toList <;>
      simp [verdict, SyntaxNode.preorder, SyntaxNode.preorderAmong, SyntaxNode.isFault, SyntaxNode.missing,
        SyntaxNode.erroneous, SyntaxNode.kind, read]

end DeclaredOptions.Source
