import DeclaredOptions.Proofs.Text.Cutting

/-!
Contract: texts with brackets in them, as they look from outside of the brackets.

Owns:
- the characters of a text around which no bracket is open;
- texts whose brackets match, which are told apart from what stands behind a mark that they do not show;
- joined texts, which show their separators and what their parts show.

Does not own: what stands between brackets.

Angle brackets and parentheses count alike. A square bracket is no bracket here: it is closed at once.
-/

set_option autoImplicit false

namespace DeclaredOptions.Text

/-! ## Brackets -/

def isOpening (c : Char) : Bool := c == '(' || c == '<'

def isClosing (c : Char) : Bool := c == ')' || c == '>'

/-- A character that is no bracket. -/
def IsPlain (c : Char) : Prop := isOpening c = false ∧ isClosing c = false

instance (c : Char) : Decidable (IsPlain c) := inferInstanceAs (Decidable (_ ∧ _))

/-- The number of open brackets behind a character. -/
def depthAfter (depth : Nat) (c : Char) : Nat :=
  if isOpening c then depth + 1 else if isClosing c then depth - 1 else depth

/-- The characters that stand where no bracket is open. -/
def surface (depth : Nat) : List Char → List Char
  | [] => []
  | c :: rest =>
    if depth = 0 then c :: surface (depthAfter depth c) rest else surface (depthAfter depth c) rest

/-- A text that closes what it opens and nothing else. -/
structure Balanced (text : List Char) : Prop where
  returns : ∀ depth, text.foldl depthAfter depth = depth
  hides : ∀ depth, surface (depth + 1) text = []

variable {text first second rest other : List Char} {c mark : Char}

/-- It is the characters of the text that are checked, and not all characters there are. -/
theorem forall_isPlain (checked : text.all (IsPlain ·) = true) : ∀ c ∈ text, IsPlain c := by
  simpa using checked

theorem depthAfter_of_isPlain (plain : IsPlain c) (depth : Nat) : depthAfter depth c = depth := by
  simp [depthAfter, plain.1, plain.2]

theorem surface_append (depth : Nat) (first rest : List Char) :
    surface depth (first ++ rest) = surface depth first ++ surface (first.foldl depthAfter depth) rest := by
  induction first generalizing depth with
  | nil => rfl
  | cons c more inductionHypothesis =>
      simp only [List.cons_append, surface, List.foldl_cons, inductionHypothesis]
      split <;> rfl

theorem Balanced.surface_append (balanced : Balanced first) (rest : List Char) :
    surface 0 (first ++ rest) = surface 0 first ++ surface 0 rest := by
  rw [Text.surface_append, balanced.returns]

theorem Balanced.append (balanced : Balanced first) (after : Balanced rest) : Balanced (first ++ rest) where
  returns depth := by rw [List.foldl_append, balanced.returns, after.returns]
  hides depth := by rw [Text.surface_append, balanced.returns, balanced.hides, after.hides, List.append_nil]

theorem balanced_of_plain (plain : ∀ c ∈ text, IsPlain c) : Balanced text := by
  induction text with
  | nil => exact ⟨fun _ => rfl, fun _ => rfl⟩
  | cons c rest inductionHypothesis =>
      rw [List.forall_mem_cons] at plain
      obtain ⟨returns, hides⟩ := inductionHypothesis plain.2
      constructor
      · intro depth
        rw [List.foldl_cons, depthAfter_of_isPlain plain.1, returns]
      · intro depth
        rw [surface, if_neg (by omega), depthAfter_of_isPlain plain.1, hides]

theorem surface_of_plain (plain : ∀ c ∈ text, IsPlain c) : surface 0 text = text := by
  induction text with
  | nil => rfl
  | cons c rest inductionHypothesis =>
      rw [List.forall_mem_cons] at plain
      rw [surface, if_pos rfl, depthAfter_of_isPlain plain.1, inductionHypothesis plain.2]

/-- What stands between brackets does not show. -/
theorem balanced_between (opening closing : Char) (opens : isOpening opening = true)
    (closes : isOpening closing = false ∧ isClosing closing = true) (balanced : Balanced text) :
    Balanced (opening :: (text ++ [closing])) ∧ surface 0 (opening :: (text ++ [closing])) = [opening] := by
  have opened (depth : Nat) : depthAfter depth opening = depth + 1 := by simp [depthAfter, opens]
  have closed (depth : Nat) : depthAfter (depth + 1) closing = depth := by
    simp [depthAfter, closes.1, closes.2]
  have hidden (depth : Nat) : surface (depth + 1) (text ++ [closing]) = [] := by
    rw [surface_append, balanced.returns, balanced.hides, List.nil_append, surface, if_neg (by omega), surface]
  refine ⟨⟨fun depth => ?_, fun depth => ?_⟩, ?_⟩
  · rw [List.foldl_cons, List.foldl_append, opened, balanced.returns, List.foldl_cons, List.foldl_nil, closed]
  · rw [surface, if_neg (by omega), opened, hidden]
  · rw [surface, if_pos rfl, opened, hidden]

/-- A text that does not show a mark is told apart from what stands behind the mark. -/
theorem append_inj_of_surface (balanced : Balanced first) (balancedSecond : Balanced second)
    (hidden : mark ∉ surface 0 first) (hiddenSecond : mark ∉ surface 0 second)
    (same : first ++ mark :: rest = second ++ mark :: other) : first = second ∧ rest = other := by
  -- The longer text would show the mark that stands behind the shorter one.
  have shows {shorter more : List Char} (balanced : Balanced shorter) :
      mark ∈ surface 0 (shorter ++ mark :: more) := by
    rw [balanced.surface_append, surface, if_pos rfl]
    simp
  rcases List.append_eq_append_iff.mp same with ⟨more, isSecond, behind⟩ | ⟨more, isFirst, behind⟩
  · cases more with
    | nil =>
        rw [List.append_nil] at isSecond
        exact ⟨isSecond.symm, (List.cons.inj behind).2⟩
    | cons c more =>
        rw [isSecond, ← (List.cons.inj behind).1] at hiddenSecond
        exact absurd (shows balanced) hiddenSecond
  · cases more with
    | nil =>
        rw [List.append_nil] at isFirst
        exact ⟨isFirst, (List.cons.inj behind).2.symm⟩
    | cons c more =>
        rw [isFirst, ← (List.cons.inj behind).1] at hidden
        exact absurd (shows balancedSecond) hidden

/-! ## Joined texts -/

section Joined

variable {separator : List Char} {parts others : List (List Char)}

theorem balanced_join (plain : ∀ c ∈ separator, IsPlain c) (balanced : ∀ part ∈ parts, Balanced part) :
    Balanced (join separator parts) := by
  induction parts with
  | nil => exact balanced_of_plain (by simp [join])
  | cons part more inductionHypothesis =>
      rw [List.forall_mem_cons] at balanced
      cases more with
      | nil => exact balanced.1
      | cons next last =>
          rw [join_cons_of_ne_nil _ _ (List.cons_ne_nil next last)]
          exact (balanced.1.append (balanced_of_plain plain)).append (inductionHypothesis balanced.2)

/-- A joined text shows the separator, if there is more than one part, and what its parts show. -/
theorem mem_surface_join (plain : ∀ c ∈ separator, IsPlain c) (balanced : ∀ part ∈ parts, Balanced part) :
    c ∈ surface 0 (join separator parts) ↔
      2 ≤ parts.length ∧ c ∈ separator ∨ ∃ part ∈ parts, c ∈ surface 0 part := by
  induction parts with
  | nil => simp [join, surface]
  | cons part more inductionHypothesis =>
      rw [List.forall_mem_cons] at balanced
      cases more with
      | nil => simp [join]
      | cons next last =>
          rw [join_cons_of_ne_nil _ _ (List.cons_ne_nil next last), List.append_assoc,
            balanced.1.surface_append, (balanced_of_plain plain).surface_append, surface_of_plain plain,
            List.mem_append, List.mem_append, inductionHypothesis balanced.2, List.exists_mem_cons_iff _ part,
            and_iff_right (show 2 ≤ (part :: next :: last).length by simp)]
          tauto

/-- Parts that do not show the mark of their separator are told apart by the joined text. -/
theorem join_inj_of_surface (gap behind : List Char) (plain : ∀ c ∈ gap, IsPlain c) (noMark : mark ∉ gap)
    (nonempty : parts ≠ []) (nonemptyOthers : others ≠ [])
    (hidden : ∀ part ∈ parts, Balanced part ∧ mark ∉ surface 0 part)
    (hiddenOthers : ∀ part ∈ others, Balanced part ∧ mark ∉ surface 0 part)
    (same : join (gap ++ mark :: behind) parts = join (gap ++ mark :: behind) others) : parts = others := by
  have withGap {part : List Char} (hidden : Balanced part ∧ mark ∉ surface 0 part) :
      Balanced (part ++ gap) ∧ mark ∉ surface 0 (part ++ gap) := by
    refine ⟨hidden.1.append (balanced_of_plain plain), ?_⟩
    rw [hidden.1.surface_append, surface_of_plain plain, List.mem_append, not_or]
    exact ⟨hidden.2, noMark⟩
  have split {part : List Char} {more : List (List Char)} (moreThere : more ≠ []) :
      join (gap ++ mark :: behind) (part :: more) =
        (part ++ gap) ++ mark :: (behind ++ join (gap ++ mark :: behind) more) := by
    rw [join_cons_of_ne_nil _ _ moreThere]
    simp only [List.append_assoc, List.cons_append]
  have apart {part next : List Char} {more : List (List Char)} (hidden : Balanced part ∧ mark ∉ surface 0 part)
      (balanced : Balanced next ∧ mark ∉ surface 0 next) (moreThere : more ≠ []) :
      part ≠ join (gap ++ mark :: behind) (next :: more) := by
    intro same
    rw [same, split moreThere, (withGap balanced).1.surface_append, surface, if_pos rfl] at hidden
    exact hidden.2 (by simp)
  induction parts generalizing others with
  | nil => contradiction
  | cons part more inductionHypothesis =>
      cases others with
      | nil => contradiction
      | cons next last =>
          rw [List.forall_mem_cons] at hidden hiddenOthers
          by_cases moreThere : more = []
          · by_cases lastThere : last = []
            · subst moreThere lastThere
              exact congrArg (· :: []) same
            · subst moreThere
              exact absurd same (apart hidden.1 hiddenOthers.1 lastThere)
          · by_cases lastThere : last = []
            · subst lastThere
              exact absurd same.symm (apart hiddenOthers.1 hidden.1 moreThere)
            · rw [split moreThere, split lastThere] at same
              obtain ⟨sameFirst, sameRest⟩ := append_inj_of_surface (withGap hidden.1).1
                (withGap hiddenOthers.1).1 (withGap hidden.1).2 (withGap hiddenOthers.1).2 same
              rw [List.append_cancel_right sameFirst, inductionHypothesis moreThere lastThere hidden.2
                hiddenOthers.2 (List.append_cancel_left sameRest)]

end Joined

end DeclaredOptions.Text
