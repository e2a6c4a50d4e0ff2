import DeclaredOptions.Source.Fault

/-!
Contract: the first fault of a syntax tree, as the search with a stack finds and reports it.

Owns:
- the nodes of a tree in preorder, and the flags that lead to all faults of a tree;
- the agreement of the search, and of the plain recursive one, with the order of the nodes;
- what is reported of a fault.

Does not own: how such trees are built.

The stack holds the roots of what is left of the preorder. A subtree that is not entered may be left out of it
because no fault stands in it, which only the flags tell.
-/

set_option autoImplicit false

namespace DeclaredOptions.SyntaxNode

/-! ## Nodes in order -/

mutual

/-- The nodes of a tree in preorder. -/
def preorder (n : SyntaxNode) : List SyntaxNode :=
  match n with
  | node kind place first last missing flagged children =>
    node kind place first last missing flagged children :: preorderAmong children

/-- The nodes of several trees in preorder, one tree after the other. -/
def preorderAmong (nodes : List SyntaxNode) : List SyntaxNode :=
  match nodes with
  | [] => []
  | n :: rest => preorder n ++ preorderAmong rest

end

theorem preorderAmong_eq_flatMap (nodes : List SyntaxNode) :
    preorderAmong nodes = nodes.flatMap preorder := by
  induction nodes with
  | nil => rw [preorderAmong, List.flatMap_nil]
  | cons n rest inductionHypothesis =>
      rw [preorderAmong, List.flatMap_cons, inductionHypothesis]

/-- A node comes before the nodes of its children. -/
theorem preorder_eq_cons (n : SyntaxNode) : n.preorder = n :: n.children.flatMap preorder := by
  cases n with
  | node => rw [preorder, preorderAmong_eq_flatMap, children]

theorem mem_preorder_self (n : SyntaxNode) : n ∈ n.preorder := by
  rw [preorder_eq_cons]
  exact List.mem_cons_self

theorem mem_preorder_of_child {n child below : SyntaxNode} (isChild : child ∈ n.children)
    (member : below ∈ child.preorder) : below ∈ n.preorder := by
  rw [preorder_eq_cons]
  exact List.mem_cons_of_mem _ (List.mem_flatMap.mpr ⟨child, isChild, member⟩)

/-- Every node that has a fault in it or below it is flagged; others may be. -/
def FlagsFaults (root : SyntaxNode) : Prop :=
  ∀ n ∈ root.preorder, (∃ fault ∈ n.preorder, fault.isFault = true) → n.flagged = true

instance (root : SyntaxNode) : Decidable root.FlagsFaults :=
  inferInstanceAs (Decidable (∀ n ∈ root.preorder,
    (∃ fault ∈ n.preorder, fault.isFault = true) → n.flagged = true))

namespace FlagsFaults

variable {n : SyntaxNode} (flagsFaults : n.FlagsFaults)

include flagsFaults

theorem child {child : SyntaxNode} (isChild : child ∈ n.children) : child.FlagsFaults :=
  fun below member => flagsFaults below (mem_preorder_of_child isChild member)

theorem find?_eq_none (notFlagged : ¬n.flagged = true) : n.preorder.find? isFault = none := by
  rw [List.find?_eq_none]
  intro fault member isFault
  exact notFlagged (flagsFaults n n.mem_preorder_self ⟨fault, member, isFault⟩)

end FlagsFaults

/-! ## Searches -/

/-- The trees that are not entered hold no fault. -/
theorem find?_flatMap_entered {nodes : List SyntaxNode} (each : ∀ n ∈ nodes, n.FlagsFaults) :
    ((nodes.filter isEntered).flatMap preorder).find? isFault =
      (nodes.flatMap preorder).find? isFault := by
  induction nodes with
  | nil => rfl
  | cons n rest inductionHypothesis =>
      rw [List.forall_mem_cons] at each
      rw [List.filter_cons, List.flatMap_cons, List.find?_append, ← inductionHypothesis each.2]
      split
      · rw [List.flatMap_cons, List.find?_append]
      · rename_i passedBy
        have notFlagged : ¬n.flagged = true := by
          intro flagged
          exact passedBy (by rw [isEntered, flagged, Bool.true_or])
        rw [each.1.find?_eq_none notFlagged, Option.none_or]

/-- The search comes upon the nodes of the pending trees in their order. -/
theorem searchPending_eq_find? {pending : List SyntaxNode} (each : ∀ n ∈ pending, n.FlagsFaults) :
    searchPending pending = (pending.flatMap preorder).find? isFault := by
  induction pending using searchPending.induct with
  | case1 => rw [searchPending, List.flatMap_nil, List.find?_nil]
  | case2 n rest found =>
      rw [searchPending, if_pos found, List.flatMap_cons, preorder_eq_cons, List.cons_append,
        List.find?_cons_of_pos found]
  | case3 n rest notFound inductionHypothesis =>
      rw [List.forall_mem_cons] at each
      have children : ∀ child ∈ n.children, child.FlagsFaults := fun _ => each.1.child
      have entered : ∀ child ∈ n.children.filter isEntered, child.FlagsFaults :=
        fun child member => children child ((List.mem_filter.mp member).1)
      rw [searchPending, if_neg notFound,
        inductionHypothesis (List.forall_mem_append.mpr ⟨entered, each.2⟩), List.flatMap_append,
        List.find?_append, find?_flatMap_entered children, ← List.find?_append, List.flatMap_cons,
        preorder_eq_cons, List.cons_append, List.find?_cons_of_neg notFound]

theorem search?_eq_find? {root : SyntaxNode} (flagsFaults : root.FlagsFaults) :
    root.search? = root.preorder.find? isFault := by
  unfold search?
  split
  · rw [searchPending_eq_find? (List.forall_mem_singleton.mpr flagsFaults), List.flatMap_singleton]
  · rename_i notFlagged
    exact (flagsFaults.find?_eq_none notFlagged).symm

mutual

theorem firstFault?_eq_find? (n : SyntaxNode) : n.firstFault? = n.preorder.find? isFault := by
  match n with
  | node kind place first last missing flagged children =>
    rw [firstFault?, preorder, List.find?_cons, firstFaultAmong?_eq_find? children]
    cases found : missing || kind == "ERROR" with
    | true => simp [isFault, erroneous, SyntaxNode.missing, SyntaxNode.kind, found]
    | false => simp [isFault, erroneous, SyntaxNode.missing, SyntaxNode.kind, found]

theorem firstFaultAmong?_eq_find? (nodes : List SyntaxNode) :
    firstFaultAmong? nodes = (preorderAmong nodes).find? isFault := by
  match nodes with
  | [] => rfl
  | n :: rest =>
    rw [firstFaultAmong?, preorderAmong, List.find?_append, firstFault?_eq_find? n,
      firstFaultAmong?_eq_find? rest]
    cases n.preorder.find? isFault <;> rfl

end

/-! ## Reports -/

theorem fromUTF8?_eq_some_iff {bytes : ByteArray} {whole : String} :
    String.fromUTF8? bytes = some whole ↔ whole.toUTF8 = bytes := by
  unfold String.fromUTF8?
  constructor
  · intro decoded
    split at decoded
    · rw [← Option.some.inj decoded]
      rfl
    · contradiction
  · rintro rfl
    exact dif_pos whole.isValidUTF8

/-- The bytes of a node in a text. -/
def bytesIn (text : String) (n : SyntaxNode) : ByteArray :=
  text.toUTF8.extract n.span.1 n.span.2

/-- The start of the first line of a text. -/
def opening (whole : String) : List Char :=
  (whole.toList.takeWhile (· != '\n')).take snippetLength

/-- The report at the place of a node, lines and columns being counted from one. -/
def reportAt (path : String) (n : SyntaxNode) (what : String) : Failure :=
  .sourceFault path (n.place.row + 1) (n.place.column + 1) what

/-- The report of a fault in a text: a missing node is expected, and any other is unexpected, as it opens in the
text. Bytes that are no text have no opening. -/
inductive Reported (path text : String) (n : SyntaxNode) : Failure → Prop where
  | expected (missing : n.missing = true) :
      Reported path text n (n.reportAt path ("Expected " ++ quotedName n.kind))
  | unexpected {whole : String} (notMissing : n.missing = false)
      (covers : whole.toUTF8 = n.bytesIn text) (nonempty : opening whole ≠ []) :
      Reported path text n
        (n.reportAt path ("Unexpected " ++ String.ofList (Text.quotedChars (opening whole))))
  | atEnd {whole : String} (notMissing : n.missing = false)
      (covers : whole.toUTF8 = n.bytesIn text) (nothing : opening whole = []) :
      Reported path text n (n.reportAt path "Unexpected end of file")
  | undecodable (notMissing : n.missing = false)
      (noText : ∀ whole : String, whole.toUTF8 ≠ n.bytesIn text) :
      Reported path text n (.notUtf8 0 0 0 "")

variable {path text : String} {root fault : SyntaxNode}

theorem faultText_of_covers {whole : String} (notMissing : fault.missing = false)
    (covers : whole.toUTF8 = fault.bytesIn text) :
    faultText text fault = .ok (if (opening whole).isEmpty then "Unexpected end of file"
      else "Unexpected " ++ String.ofList (Text.quotedChars (opening whole))) := by
  have decoded : spanText text fault.span.1 fault.span.2 = .ok whole := by
    have isText := fromUTF8?_eq_some_iff.mpr covers
    rw [bytesIn] at isText
    rw [spanText, isText]
  rw [faultText, notMissing, if_neg Bool.false_ne_true, decoded]
  rfl

theorem faultText_of_noText (notMissing : fault.missing = false)
    (noText : ∀ whole : String, whole.toUTF8 ≠ fault.bytesIn text) :
    faultText text fault = .error (.notUtf8 0 0 0 "") := by
  have undecoded : spanText text fault.span.1 fault.span.2 = .error (.notUtf8 0 0 0 "") := by
    unfold spanText
    dsimp only
    split
    · rename_i whole decoded
      exact absurd (fromUTF8?_eq_some_iff.mp decoded) (noText whole)
    · rfl
  rw [faultText, notMissing, if_neg Bool.false_ne_true, undecoded]
  rfl

/-- A fault that is found is reported. -/
theorem exists_check_eq_error (found : root.search? = some fault) :
    ∃ failure, check path text root = .error failure ∧ fault.Reported path text failure := by
  have checked : check path text root =
      faultText text fault >>= fun what => .error (fault.reportAt path what) := by
    rw [check, found]
    rfl
  rw [checked]
  cases missing : fault.missing with
  | true =>
      rw [faultText, missing, if_pos rfl]
      exact ⟨_, rfl, .expected missing⟩
  | false =>
      by_cases covered : ∃ whole : String, whole.toUTF8 = fault.bytesIn text
      · obtain ⟨whole, covers⟩ := covered
        rw [faultText_of_covers missing covers]
        by_cases nothing : opening whole = []
        · rw [nothing]
          exact ⟨_, rfl, .atEnd missing covers nothing⟩
        · rw [if_neg (by simpa using nothing)]
          exact ⟨_, rfl, .unexpected missing covers nothing⟩
      · have noText : ∀ whole : String, whole.toUTF8 ≠ fault.bytesIn text :=
          fun whole covers => covered ⟨whole, covers⟩
        rw [faultText_of_noText missing noText]
        exact ⟨_, rfl, .undecodable missing noText⟩

/-- Where the flags lead to all faults of a tree, the search finds what the recursive search does. The tree is refused
exactly if a node of it is a fault, and then the first such node in preorder is reported. -/
theorem check_of_flagsFaults (flagsFaults : root.FlagsFaults) (path text : String) :
    root.search? = root.firstFault? ∧
      ((∃ failure, check path text root = .error failure) ↔
        ∃ n ∈ root.preorder, n.missing = true ∨ n.kind = "ERROR") ∧
      ∀ before fault after, root.preorder = before ++ fault :: after →
        (∀ earlier ∈ before, ¬(earlier.missing = true ∨ earlier.kind = "ERROR")) →
        fault.missing = true ∨ fault.kind = "ERROR" →
        ∃ failure, check path text root = .error failure ∧ fault.Reported path text failure := by
  have isFault_iff (n : SyntaxNode) : n.isFault = true ↔ n.missing = true ∨ n.kind = "ERROR" := by
    simp [isFault, erroneous]
  have finds := search?_eq_find? flagsFaults
  refine ⟨finds.trans root.firstFault?_eq_find?.symm, ?_, ?_⟩
  · simp only [← isFault_iff]
    cases found : root.preorder.find? isFault with
    | none =>
        rw [found] at finds
        have passes : check path text root = .ok () := by rw [check, finds]
        rw [passes]
        refine iff_of_false nofun ?_
        rintro ⟨n, member, isFault⟩
        exact List.find?_eq_none.mp found n member isFault
    | some fault =>
        obtain ⟨failure, refused, -⟩ := exists_check_eq_error (finds.trans found)
        exact iff_of_true ⟨failure, refused⟩
          ⟨fault, List.mem_of_find?_eq_some found, List.find?_some found⟩
  · simp only [← isFault_iff]
    intro before fault after split noneBefore isFault
    refine exists_check_eq_error (finds.trans ?_)
    rw [List.find?_eq_some_iff_append]
    exact ⟨isFault, before, after, split, fun earlier member => by simpa using noneBefore earlier member⟩

/-- A text that fits nowhere, with a string in it. -/
def unfitText : SyntaxNode :=
  node "ERROR" ⟨0, 9⟩ 9 14 false true [node "string" ⟨0, 11⟩ 11 14 false false []]

/-- A call behind a comment, with such a text in its arguments and without its last bracket. The name of the call is
flagged although nothing is wrong with it. -/
def brokenCall : SyntaxNode :=
  let callee := node "identifier" ⟨0, 7⟩ 7 8 false true []
  let missingBracket := node ")" ⟨0, 14⟩ 14 14 true true []
  node "program" ⟨0, 0⟩ 0 14 false true
    [node "comment" ⟨0, 0⟩ 0 6 false false [],
      node "call_expression" ⟨0, 7⟩ 7 14 false true
        [callee, node "arguments" ⟨0, 8⟩ 8 14 false true [unfitText, missingBracket]]]

theorem check_of_flagsFaults_call :
    brokenCall.FlagsFaults ∧
      check "a.ts" "/*é*/ f(? 'x'" brokenCall =
        .error (.sourceFault "a.ts" 1 10 "Unexpected \"? 'x'\"") := by
  have flagsFaults : brokenCall.FlagsFaults := by decide +kernel
  have split : brokenCall.preorder =
      brokenCall.preorder.take 5 ++ unfitText :: brokenCall.preorder.drop 6 := rfl
  have first := (check_of_flagsFaults flagsFaults "a.ts" "/*é*/ f(? 'x'").2.2 _ _ _ split
    (by decide +kernel) (.inr rfl)
  have bytes : unfitText.bytesIn "/*é*/ f(? 'x'" = "? 'x'".toUTF8 := by decide +kernel
  obtain ⟨failure, refused, reported⟩ := first
  refine ⟨flagsFaults, refused.trans (congrArg _ ?_)⟩
  cases reported with
  | expected missing => contradiction
  | unexpected _ covers _ =>
      rw [bytes] at covers
      rw [String.toByteArray_inj.mp covers]
      decide +kernel
  | atEnd _ covers nothing =>
      rw [bytes] at covers
      rw [String.toByteArray_inj.mp covers] at nothing
      exact absurd nothing (by decide +kernel)
  | undecodable _ noText => exact absurd bytes.symm (noText _)

end DeclaredOptions.SyntaxNode
