import DeclaredOptions.Path
import DeclaredOptions.Proofs.Text.Cutting

/-!
Contract: the normal form of paths.

Owns:
- components, which cut a path apart and put it together again;
- reduced lists of components, in which steps up come before all names;
- the normal form, which is reached in one step, with either kind of slash.

Does not own: the way from one path to another.
-/

set_option autoImplicit false

namespace DeclaredOptions.Path

/-! ## Components -/

theorem toList_ofComponents (parts : List String) :
    (ofComponents parts).toList = Text.join ['/'] (parts.map String.toList) := by
  simp [ofComponents, Text.joined]

@[simp] theorem ofComponents_components (path : String) : ofComponents (components path) = path :=
  (Text.joined_cut '/' path.toList).trans String.ofList_toList

theorem slash_not_mem {path part : String} (member : part ∈ components path) :
    '/' ∉ part.toList := by
  unfold components Text.cutAt at member
  obtain ⟨piece, isPiece, rfl⟩ := List.mem_map.mp member
  rw [String.toList_ofList]
  exact Text.not_mem_of_mem_pieces isPiece

theorem components_ofComponents {parts : List String} (nonempty : parts ≠ [])
    (bare : ∀ part ∈ parts, '/' ∉ part.toList) : components (ofComponents parts) = parts := by
  have nonemptyTexts : parts.map String.toList ≠ [] := by simpa using nonempty
  have bareTexts : ∀ text ∈ parts.map String.toList, '/' ∉ text := List.forall_mem_map.mpr bare
  unfold components Text.cutAt
  rw [toList_ofComponents, Text.pieces_join nonemptyTexts bareTexts, List.map_map]
  exact (List.map_congr_left fun part _ => String.ofList_toList).trans (List.map_id parts)

/-- A path with a slash in it has the components on both sides. -/
theorem components_append (upper lower : String) :
    components (upper ++ "/" ++ lower) = components upper ++ components lower := by
  have whole : (upper ++ "/" ++ lower).toList = upper.toList ++ '/' :: lower.toList := by
    simp
  unfold components Text.cutAt
  rw [whole, Text.pieces_append, List.map_append]

theorem mem_ofComponents {parts : List String} {c : Char}
    (member : c ∈ (ofComponents parts).toList) : c = '/' ∨ ∃ part ∈ parts, c ∈ part.toList := by
  rw [toList_ofComponents] at member
  rcases Text.mem_join member with isSlash | ⟨text, isText, inText⟩
  · exact .inl isSlash
  · obtain ⟨part, isPart, rfl⟩ := List.mem_map.mp isText
    exact .inr ⟨part, isPart, inText⟩

theorem mem_of_mem_components {path part : String} (isPart : part ∈ components path) {c : Char}
    (member : c ∈ part.toList) : c ∈ path.toList := by
  unfold components Text.cutAt at isPart
  obtain ⟨piece, isPiece, rfl⟩ := List.mem_map.mp isPart
  rw [String.toList_ofList] at member
  exact Text.mem_of_mem_pieces isPiece member

/-! ## Reduced lists -/

/-- A component that names something below a directory. -/
structure IsName (part : String) : Prop where
  nonempty : part ≠ ""
  notHere : part ≠ "."
  notUpper : part ≠ ".."
  bare : '/' ∉ part.toList

/-- Reduced components, held in reverse: names on top of steps up, which a root does not have. -/
inductive Reduced (rooted : Bool) : List String → Prop where
  | ups (count : Nat) (below : rooted = true → count = 0) :
      Reduced rooted (List.replicate count "..")
  | name {part : String} {rest : List String} (isName : IsName part) (reduced : Reduced rooted rest) :
      Reduced rooted (part :: rest)

variable {rooted : Bool}

theorem reduceStep_ignored {part : String} (ignored : part = "" ∨ part = ".") (reduced : List String) :
    reduceStep rooted reduced part = reduced := by
  unfold reduceStep
  rw [if_pos (by simpa using ignored)]

theorem reduceStep_name {part : String} (isName : IsName part) (reduced : List String) :
    reduceStep rooted reduced part = part :: reduced := by
  unfold reduceStep
  rw [if_neg (by simp [isName.nonempty, isName.notHere]), if_pos (by simp [isName.notUpper])]

/-- A step up takes a name away. -/
theorem reduceStep_up {part : String} (isName : IsName part) (reduced : List String) :
    reduceStep rooted (part :: reduced) ".." = reduced := by
  unfold reduceStep
  rw [if_neg (by decide), if_neg (by decide)]
  simp [isName.notUpper]

/-- Where nothing but steps up is left, a step up is one more of them, and nothing below a root. -/
theorem reduceStep_replicate (count : Nat) :
    reduceStep rooted (List.replicate count "..") ".." =
      if rooted = true ∧ count = 0 then [] else List.replicate (count + 1) ".." := by
  unfold reduceStep
  rw [if_neg (by decide), if_neg (by decide)]
  cases count with
  | zero => cases rooted <;> rfl
  | succ count => simp [List.replicate_succ]

theorem reduced_reduceStep {stack : List String} (reduced : Reduced rooted stack) {part : String}
    (bare : '/' ∉ part.toList) : Reduced rooted (reduceStep rooted stack part) := by
  by_cases ignored : part = "" ∨ part = "."
  · rw [reduceStep_ignored ignored]
    exact reduced
  · rw [not_or] at ignored
    by_cases isUp : part = ".."
    · subst isUp
      cases reduced with
      | ups count below =>
          rw [reduceStep_replicate]
          split
          · exact .ups 0 fun _ => rfl
          · rename_i notRoot
            refine .ups (count + 1) fun isRooted => ?_
            exact absurd ⟨isRooted, below isRooted⟩ notRoot
      | name isName reducedRest =>
          rw [reduceStep_up isName]
          exact reducedRest
    · have isName : IsName part := ⟨ignored.1, ignored.2, isUp, bare⟩
      rw [reduceStep_name isName]
      exact .name isName reduced

theorem reduced_foldl {parts stack : List String} (bare : ∀ part ∈ parts, '/' ∉ part.toList)
    (reduced : Reduced rooted stack) : Reduced rooted (parts.foldl (reduceStep rooted) stack) := by
  induction parts generalizing stack with
  | nil => exact reduced
  | cons part rest inductionHypothesis =>
      rw [List.forall_mem_cons] at bare
      exact inductionHypothesis bare.2 (reduced_reduceStep reduced bare.1)

theorem reduced_components (path : String) :
    Reduced rooted (reduce rooted (components path)).reverse := by
  unfold reduce
  rw [List.reverse_reverse]
  exact reduced_foldl (fun _ member => slash_not_mem member) (.ups 0 fun _ => rfl)

/-- Reduced components are left as they are. -/
theorem Reduced.reduce_eq {parts : List String} (reduced : Reduced rooted parts.reverse) :
    reduce rooted parts = parts := by
  have rebuilt {stack : List String} (reduced : Reduced rooted stack) :
      stack.reverse.foldl (reduceStep rooted) [] = stack := by
    induction reduced with
    | ups count below =>
        induction count with
        | zero => rfl
        | succ count inductionHypothesis =>
            have notRooted : ¬rooted = true := fun isRooted => nomatch below isRooted
            rw [List.reverse_replicate] at inductionHypothesis ⊢
            rw [List.replicate_succ', List.foldl_append,
              inductionHypothesis fun isRooted => absurd isRooted notRooted, List.foldl_cons,
              List.foldl_nil, reduceStep_replicate, if_neg fun both => notRooted both.1,
              ← List.replicate_succ']
    | name isName _ inductionHypothesis =>
        rw [List.reverse_cons, List.foldl_append, inductionHypothesis, List.foldl_cons,
          List.foldl_nil, reduceStep_name isName]
  have whole := rebuilt reduced
  rw [List.reverse_reverse] at whole
  rw [reduce, whole, List.reverse_reverse]

/-- A reduced component is there and holds no slash. -/
theorem Reduced.part {stack : List String} (reduced : Reduced rooted stack) :
    ∀ part ∈ stack, part ≠ "" ∧ '/' ∉ part.toList := by
  induction reduced with
  | ups count below =>
      intro part member
      rw [List.eq_of_mem_replicate member]
      decide
  | name isName _ inductionHypothesis =>
      exact List.forall_mem_cons.mpr ⟨⟨isName.nonempty, isName.bare⟩, inductionHypothesis⟩

/-- Reduced components are steps up before names. -/
theorem Reduced.split {stack : List String} (reduced : Reduced rooted stack) :
    ∃ ups names, stack.reverse = List.replicate ups ".." ++ names ∧ ∀ name ∈ names, IsName name := by
  induction reduced with
  | ups count below => exact ⟨count, [], by simp, by simp⟩
  | @name part rest isName _ inductionHypothesis =>
      obtain ⟨ups, names, split, areNames⟩ := inductionHypothesis
      refine ⟨ups, names ++ [part], by rw [List.reverse_cons, split, List.append_assoc], ?_⟩
      rw [List.forall_mem_append, List.forall_mem_singleton]
      exact ⟨areNames, isName⟩

/-! ## Slashes before the components -/

theorem head?_ofComponents {parts : List String}
    (there : ∀ part ∈ parts, part ≠ "" ∧ '/' ∉ part.toList) :
    (ofComponents parts).toList.head? ≠ some '/' := by
  cases parts with
  | nil => exact nofun
  | cons first more =>
      rw [List.forall_mem_cons] at there
      have firstChars : first.toList ≠ [] := by simpa using there.1.1
      obtain ⟨c, rest, chars⟩ := List.exists_cons_of_ne_nil firstChars
      have begins : (ofComponents (first :: more)).toList.head? = some c := by
        rw [toList_ofComponents, List.map_cons]
        cases more with
        | nil => rw [List.map_nil, Text.join, chars, List.head?_cons]
        | cons next last =>
            rw [Text.join_cons_of_ne_nil _ _ (by simp), chars]
            rfl
      rw [begins]
      rintro ⟨⟩
      exact there.1.2 (by simp [chars])

theorem leadingSlashes_le (path : String) : leadingSlashes path ≤ 2 := by
  unfold leadingSlashes
  split <;> omega

/-- Up to two slashes before a text without a slash at its start are counted. -/
theorem leadingSlashes_append {slashes : Nat} (few : slashes ≤ 2) {body : String}
    (bareHead : body.toList.head? ≠ some '/') :
    leadingSlashes (String.ofList (List.replicate slashes '/') ++ body) = slashes := by
  unfold leadingSlashes
  rw [String.toList_append, String.toList_ofList]
  cases chars : body.toList with
  | nil =>
      have cases : slashes = 0 ∨ slashes = 1 ∨ slashes = 2 := by omega
      rcases cases with rfl | rfl | rfl <;> rfl
  | cons c rest =>
      have other : c ≠ '/' := by simpa [chars] using bareHead
      have cases : slashes = 0 ∨ slashes = 1 ∨ slashes = 2 := by omega
      rcases cases with rfl | rfl | rfl <;> simp [List.replicate_succ, other]

theorem leadingSlashes_eq_zero {path : String} (bareHead : path.toList.head? ≠ some '/') :
    leadingSlashes path = 0 := by
  simpa using leadingSlashes_append (Nat.zero_le 2) bareHead

theorem head?_ne_of_startsWith {path : String} (relative : path.startsWith "/" = false) :
    path.toList.head? ≠ some '/' := by
  rw [String.startsWith_string_eq_false_iff] at relative
  intro begins
  obtain ⟨rest, chars⟩ := List.head?_eq_some_iff.mp begins
  exact relative ⟨rest, chars.symm⟩

theorem startsWith_of_head?_ne {path : String} (bareHead : path.toList.head? ≠ some '/') :
    path.startsWith "/" = false := by
  rw [String.startsWith_string_eq_false_iff]
  rintro ⟨rest, chars⟩
  exact bareHead (by rw [← chars]; rfl)

/-- Slashes before a path are as many empty components. -/
theorem components_replicate (slashes : Nat) (body : String) :
    components (String.ofList (List.replicate slashes '/') ++ body) =
      List.replicate slashes "" ++ components body := by
  unfold components Text.cutAt
  rw [String.toList_append, String.toList_ofList]
  induction slashes with
  | zero => rfl
  | succ slashes inductionHypothesis =>
      rw [List.replicate_succ, List.cons_append, Text.pieces_cons_separator, List.map_cons,
        inductionHypothesis]
      rfl

private theorem foldl_replicate_empty (slashes : Nat) (stack : List String) :
    (List.replicate slashes "").foldl (reduceStep rooted) stack = stack := by
  induction slashes with
  | zero => rfl
  | succ slashes inductionHypothesis =>
      rw [List.replicate_succ, List.foldl_cons, reduceStep_ignored (.inl rfl), inductionHypothesis]

/-- The components of a path that is put together from reduced ones reduce to them. -/
theorem Reduced.reduce_components {parts : List String} (reduced : Reduced rooted parts.reverse)
    (slashes : Nat) :
    reduce rooted (components
      (String.ofList (List.replicate slashes '/') ++ ofComponents parts)) = parts := by
  have there : ∀ part ∈ parts, part ≠ "" ∧ '/' ∉ part.toList :=
    fun part member => reduced.part part (List.mem_reverse.mpr member)
  rw [components_replicate, reduce, List.foldl_append, foldl_replicate_empty]
  cases parts with
  | nil => rfl
  | cons first more =>
      rw [components_ofComponents (List.cons_ne_nil _ _) fun part member => (there part member).2]
      exact reduced.reduce_eq

/-! ## The normal form -/

theorem normalize_of_ne_nil {path : String} (relative : path.toList.head? ≠ some '/')
    (nonempty : reduce false (components path) ≠ []) :
    normalize path = ofComponents (reduce false (components path)) := by
  have reduced : Reduced false (reduce false (components path)).reverse := reduced_components path
  have bodyThere : ofComponents (reduce false (components path)) ≠ "" := by
    intro isEmpty
    have back := reduced.reduce_components 0
    rw [isEmpty] at back
    exact nonempty back.symm
  unfold normalize
  rw [leadingSlashes_eq_zero relative]
  simp [bodyThere]

@[simp] theorem normalize_normalize (path : String) : normalize (normalize path) = normalize path := by
  have reduced : Reduced (leadingSlashes path != 0)
      (reduce (leadingSlashes path != 0) (components path)).reverse := reduced_components path
  have there := fun part member => reduced.part part (List.mem_reverse.mpr member)
  have slashes := leadingSlashes_append (leadingSlashes_le path) (head?_ofComponents there)
  have parts := reduced.reduce_components (leadingSlashes path)
  by_cases wholeEmpty : (String.ofList (List.replicate (leadingSlashes path) '/') ++
      ofComponents (reduce (leadingSlashes path != 0) (components path))).isEmpty
  · have isHere : normalize path = "." := if_pos wholeEmpty
    rw [isHere]
    decide
  · have isWhole : normalize path = String.ofList (List.replicate (leadingSlashes path) '/') ++
        ofComponents (reduce (leadingSlashes path != 0) (components path)) := if_neg wholeEmpty
    rw [isWhole, normalize, slashes, parts, if_neg wholeEmpty]

/-! ## Both kinds of slash -/

theorem withSlashes_of_not_mem {path : String} (bare : '\\' ∉ path.toList) :
    withSlashes path = path := by
  have kept : Text.substitute '\\' ['/'] path.toList = path.toList.flatMap fun c => [c] := by
    refine List.flatMap_congr fun c member => ?_
    rw [if_neg]
    rintro isBackslash
    exact bare (beq_iff_eq.mp isBackslash ▸ member)
  rw [withSlashes, kept, List.flatMap_singleton', String.ofList_toList]

theorem backslash_not_mem_withSlashes (path : String) : '\\' ∉ (withSlashes path).toList := by
  unfold withSlashes Text.substitute
  rw [String.toList_ofList, List.mem_flatMap]
  rintro ⟨c, -, member⟩
  split at member
  · simp at member
  · rename_i other
    exact other (by simpa using (List.mem_singleton.mp member).symm)

theorem mem_reduce {parts : List String} {part : String} (member : part ∈ reduce rooted parts) :
    part = ".." ∨ part ∈ parts := by
  have grown (parts stack : List String) :
      part ∈ parts.foldl (reduceStep rooted) stack → part = ".." ∨ part ∈ parts ∨ part ∈ stack := by
    induction parts generalizing stack with
    | nil => exact fun inStack => .inr (.inr inStack)
    | cons first rest inductionHypothesis =>
        intro inResult
        rcases inductionHypothesis _ inResult with isUp | inRest | inStep
        · exact .inl isUp
        · exact .inr (.inl (List.mem_cons_of_mem _ inRest))
        · unfold reduceStep at inStep
          split at inStep
          · exact .inr (.inr inStep)
          · split at inStep
            · rcases List.mem_cons.mp inStep with rfl | inStack
              · exact .inr (.inl List.mem_cons_self)
              · exact .inr (.inr inStack)
            · split at inStep
              · split at inStep
                · contradiction
                · exact .inl (List.mem_singleton.mp inStep)
              · split at inStep
                · rcases List.mem_cons.mp inStep with isUp | inStack
                  · exact .inl isUp
                  · exact .inr (.inr inStack)
                · exact .inr (.inr (List.mem_cons_of_mem _ inStep))
  unfold reduce at member
  rcases grown parts [] (List.mem_reverse.mp member) with isUp | inParts | impossible
  · exact .inl isUp
  · exact .inr inParts
  · contradiction

/-- Normalizing brings in slashes and dots only. -/
theorem mem_normalize {path : String} {c : Char} (member : c ∈ (normalize path).toList) :
    c = '/' ∨ c = '.' ∨ c ∈ path.toList := by
  unfold normalize at member
  dsimp only at member
  split at member
  · exact .inr (.inl (by simpa using member))
  · rw [String.toList_append, String.toList_ofList, List.mem_append] at member
    rcases member with inSlashes | inBody
    · exact .inl (List.eq_of_mem_replicate inSlashes)
    · rcases mem_ofComponents inBody with isSlash | ⟨part, isPart, inPart⟩
      · exact .inl isSlash
      · rcases mem_reduce isPart with rfl | isComponent
        · exact .inr (.inl (by simpa using inPart))
        · exact .inr (.inr (mem_of_mem_components isComponent inPart))

theorem backslash_not_mem_normalize {path : String} (bare : '\\' ∉ path.toList) :
    '\\' ∉ (normalize path).toList := by
  intro member
  rcases mem_normalize member with isSlash | isDot | inPath
  · exact absurd isSlash (by decide)
  · exact absurd isDot (by decide)
  · exact bare inPath

end DeclaredOptions.Path
