import DeclaredOptions.Text.Cut
import Mathlib.Data.List.Basic

/-!
Contract: laws of trimming, of pieces and of joining.

Owns:
- texts whose ends are no blanks, which trimming leaves alone, and the fact that trimming gives such texts, from
  whichever end it starts;
- pieces as the inverse of joining;
- expected beginnings and endings, which are taken off exactly where they stand.

Does not own: which characters are blanks.
-/

set_option autoImplicit false

namespace DeclaredOptions.Text

/-! ## Trimming -/

/-- A text that neither begins nor ends with a blank. -/
def HasBareEnds (text : List Char) : Prop :=
  (∀ c ∈ text.head?, isBlank c = false) ∧ ∀ c ∈ text.getLast?, isBlank c = false

theorem dropWhile_of_head {p : Char → Bool} {text : List Char}
    (bareHead : ∀ c ∈ text.head?, p c = false) : text.dropWhile p = text := by
  cases text with
  | nil => rfl
  | cons c rest =>
      have stays : p c = false := bareHead c rfl
      rw [List.dropWhile_cons_of_neg (by simp [stays])]

theorem head_dropWhile (p : Char → Bool) (text : List Char) :
    ∀ c ∈ (text.dropWhile p).head?, p c = false := by
  intro c first
  have stopped := List.head?_dropWhile_not p text
  rw [Option.mem_def.mp first] at stopped
  simpa using stopped

theorem dropEndWhile_prefix (p : Char → Bool) (text : List Char) :
    dropEndWhile p text <+: text := by
  unfold dropEndWhile
  rw [← List.reverse_suffix, List.reverse_reverse]
  exact List.dropWhile_suffix p

theorem trim_of_hasBareEnds {text : List Char} (bare : HasBareEnds text) : trim text = text := by
  unfold trim trimEnd trimStart dropEndWhile
  rw [dropWhile_of_head bare.1, dropWhile_of_head (by simpa using bare.2), List.reverse_reverse]

theorem hasBareEnds_trim (text : List Char) : HasBareEnds (trim text) := by
  constructor
  · intro c first
    obtain ⟨rest, split⟩ := dropEndWhile_prefix isBlank (trimStart text)
    apply head_dropWhile isBlank text
    change c ∈ (trimStart text).head?
    rw [← split, List.head?_append]
    change c ∈ (trimEnd (trimStart text)).head? at first
    simp only [trimEnd] at first
    rw [first]
    rfl
  · intro c last
    unfold trim trimEnd dropEndWhile at last
    rw [List.getLast?_reverse] at last
    exact head_dropWhile isBlank _ c last

@[simp] theorem trim_trim (text : List Char) : trim (trim text) = trim text :=
  trim_of_hasBareEnds (hasBareEnds_trim text)

theorem hasBareEnds_between {mark : Char} (inner : List Char) (bareMark : isBlank mark = false) :
    HasBareEnds (mark :: inner ++ [mark]) := by
  constructor
  · intro c first
    rw [List.cons_append, List.head?_cons, Option.mem_some_iff] at first
    rw [← first, bareMark]
  · intro c last
    rw [List.getLast?_append, List.getLast?_singleton] at last
    have markLast : mark = c := by simpa using last
    rw [← markLast, bareMark]

theorem dropEndWhile_append_cons {p : Char → Bool} {mark : Char} (stays : p mark = false)
    (first rest : List Char) :
    dropEndWhile p (first ++ mark :: rest) = first ++ mark :: dropEndWhile p rest := by
  unfold dropEndWhile
  rw [List.reverse_append, List.reverse_cons, List.append_assoc, List.dropWhile_append]
  split
  · rename_i allDropped
    rw [List.isEmpty_iff.mp allDropped, List.singleton_append,
      List.dropWhile_cons_of_neg (by simp [stays])]
    simp
  · simp

theorem dropEndWhile_append_of_all {p : Char → Bool} (first : List Char) {rest : List Char}
    (all : ∀ c ∈ rest, p c = true) : dropEndWhile p (first ++ rest) = dropEndWhile p first := by
  unfold dropEndWhile
  have allReversed : ∀ c ∈ rest.reverse, p c = true := fun c member => all c (by simpa using member)
  rw [List.reverse_append, List.dropWhile_append_of_pos allReversed]

theorem dropEndWhile_of_last {p : Char → Bool} {text : List Char}
    (stays : ∀ c ∈ text.getLast?, p c = false) : dropEndWhile p text = text := by
  unfold dropEndWhile
  rw [dropWhile_of_head (by simpa using stays), List.reverse_reverse]

/-- Trimming does not reach beyond a mark that is no blank, where a text begins with none. -/
theorem trim_append_cons {mark : Char} {first : List Char} (bareMark : isBlank mark = false)
    (bareHead : ∀ c ∈ first.head?, isBlank c = false) (rest : List Char) :
    trim (first ++ mark :: rest) = first ++ mark :: trimEnd rest := by
  have bareStart : ∀ c ∈ (first ++ mark :: rest).head?, isBlank c = false := by
    cases first with
    | nil => simpa using bareMark
    | cons c more => simpa using bareHead
  unfold trim trimStart
  rw [dropWhile_of_head bareStart]
  exact dropEndWhile_append_cons bareMark first rest

/-- Blanks alone. -/
def IsGap (gap : List Char) : Prop := ∀ c ∈ gap, isBlank c = true

instance (gap : List Char) : Decidable (IsGap gap) :=
  List.decidableBAll (fun c => isBlank c = true) gap

theorem trimStart_append {gap rest : List Char} (blanks : IsGap gap)
    (bareHead : ∀ c ∈ rest.head?, isBlank c = false) : trimStart (gap ++ rest) = rest := by
  unfold trimStart
  rw [List.dropWhile_append_of_pos blanks]
  exact dropWhile_of_head bareHead

/-- A text is trimmed alike from either end first. -/
theorem trimStart_trimEnd (text : List Char) : trimStart (trimEnd text) = trim text := by
  have split : text.takeWhile isBlank ++ trimStart text = text := List.takeWhile_append_dropWhile
  have blanks : IsGap (text.takeWhile isBlank) := List.all_eq_true.mp List.all_takeWhile
  cases left : trimStart text with
  | nil =>
      have allBlank : IsGap text := by
        rw [← split, left, List.append_nil]
        exact blanks
      have noEnd : trimEnd text = [] := dropEndWhile_append_of_all [] allBlank
      rw [noEnd, trim, left]
      rfl
  | cons c rest =>
      have bare : isBlank c = false := head_dropWhile isBlank text c (by
        show c ∈ (trimStart text).head?
        rw [left]
        rfl)
      have ending : trimEnd text = text.takeWhile isBlank ++ c :: trimEnd rest := by
        conv_lhs => rw [← split, left]
        exact dropEndWhile_append_cons bare _ rest
      rw [ending, trimStart_append blanks (by simpa using bare), trim, left]
      exact (dropEndWhile_append_cons bare [] rest).symm

theorem trim_between {before after text : List Char} (blanksBefore : IsGap before)
    (blanksAfter : IsGap after) (bare : HasBareEnds text) (nonempty : text ≠ []) :
    trim (before ++ text ++ after) = text := by
  have bareHead : ∀ c ∈ (text ++ after).head?, isBlank c = false := by
    rw [List.head?_append_of_ne_nil _ nonempty]
    exact bare.1
  unfold trim
  rw [List.append_assoc, trimStart_append blanksBefore bareHead]
  show dropEndWhile isBlank (text ++ after) = text
  rw [dropEndWhile_append_of_all text blanksAfter, dropEndWhile_of_last bare.2]

/-- A text is cut where a class of characters that its beginning is of ends. -/
theorem cut_append {p : Char → Bool} {first rest : List Char} (all : ∀ c ∈ first, p c = true)
    (stops : ∀ c ∈ rest.head?, p c = false) :
    (first ++ rest).takeWhile p = first ∧ (first ++ rest).dropWhile p = rest := by
  rw [List.takeWhile_append_of_pos all, List.dropWhile_append_of_pos all, dropWhile_of_head stops]
  refine ⟨?_, rfl⟩
  cases rest with
  | nil => simp
  | cons c more => rw [List.takeWhile_cons_of_neg (by simpa using stops c rfl), List.append_nil]

theorem trimEnd_trim (text : List Char) : trimEnd (trim text) = trim text :=
  dropEndWhile_of_last (hasBareEnds_trim text).2

/-! ## Pieces -/

theorem pieces_ne_nil (separator : Char) (text : List Char) : pieces separator text ≠ [] := by
  induction text with
  | nil => simp [pieces]
  | cons c rest inductionHypothesis =>
      unfold pieces
      split
      · simp
      · split <;> simp

theorem pieces_cons_separator (separator : Char) (rest : List Char) :
    pieces separator (separator :: rest) = [] :: pieces separator rest := by
  simp [pieces]

theorem pieces_cons_of_ne {separator c : Char} (other : c ≠ separator) (rest : List Char) :
    pieces separator (c :: rest) =
      (c :: (pieces separator rest).headD []) :: (pieces separator rest).tail := by
  rw [pieces, if_neg (by simpa using other)]
  cases cut : pieces separator rest with
  | nil => exact absurd cut (pieces_ne_nil separator rest)
  | cons first more => rfl

theorem join_cons_of_ne_nil (separator first : List Char) {more : List (List Char)}
    (moreThere : more ≠ []) :
    join separator (first :: more) = first ++ separator ++ join separator more := by
  cases more with
  | nil => exact absurd rfl moreThere
  | cons next rest => rfl

/-- Joining the pieces of a text gives the text back. -/
theorem join_pieces (separator : Char) (text : List Char) :
    join [separator] (pieces separator text) = text := by
  induction text with
  | nil => rfl
  | cons c rest inductionHypothesis =>
      by_cases isSeparator : c = separator
      · subst isSeparator
        rw [pieces_cons_separator, join_cons_of_ne_nil _ _ (pieces_ne_nil c rest),
          inductionHypothesis]
        rfl
      · rw [pieces_cons_of_ne isSeparator]
        cases cut : pieces separator rest with
        | nil => exact absurd cut (pieces_ne_nil separator rest)
        | cons first more =>
            rw [cut] at inductionHypothesis
            cases more with
            | nil =>
                rw [← inductionHypothesis]
                rfl
            | cons next last =>
                rw [← inductionHypothesis]
                rfl

/-- A text without separators before the first one is the first piece. -/
theorem pieces_append_separator {separator : Char} {first : List Char}
    (bare : separator ∉ first) (rest : List Char) :
    pieces separator (first ++ separator :: rest) = first :: pieces separator rest := by
  induction first with
  | nil => exact pieces_cons_separator separator rest
  | cons c more inductionHypothesis =>
      have other : c ≠ separator := fun equal => bare (by simp [equal])
      rw [List.cons_append, pieces_cons_of_ne other,
        inductionHypothesis fun member => bare (List.mem_cons_of_mem _ member)]
      rfl

/-- A text with a separator in it is cut into the pieces on both sides. -/
theorem pieces_append (separator : Char) (first rest : List Char) :
    pieces separator (first ++ separator :: rest) =
      pieces separator first ++ pieces separator rest := by
  induction first with
  | nil => exact pieces_cons_separator separator rest
  | cons c more inductionHypothesis =>
      by_cases isSeparator : c = separator
      · subst isSeparator
        rw [List.cons_append, pieces_cons_separator, pieces_cons_separator, inductionHypothesis,
          List.cons_append]
      · rw [List.cons_append, pieces_cons_of_ne isSeparator, pieces_cons_of_ne isSeparator,
          inductionHypothesis]
        cases cut : pieces separator more with
        | nil => exact absurd cut (pieces_ne_nil separator more)
        | cons piece others => rfl

theorem pieces_of_not_mem {separator : Char} {text : List Char} (bare : separator ∉ text) :
    pieces separator text = [text] := by
  induction text with
  | nil => rfl
  | cons c rest inductionHypothesis =>
      rw [List.mem_cons, not_or] at bare
      rw [pieces_cons_of_ne (Ne.symm bare.1), inductionHypothesis bare.2]
      rfl

theorem not_mem_of_mem_pieces {separator : Char} {text piece : List Char}
    (member : piece ∈ pieces separator text) : separator ∉ piece := by
  induction text generalizing piece with
  | nil =>
      rw [List.mem_singleton.mp member]
      exact List.not_mem_nil
  | cons c rest inductionHypothesis =>
      by_cases isSeparator : c = separator
      · subst isSeparator
        rw [pieces_cons_separator] at member
        rcases List.mem_cons.mp member with rfl | later
        · exact List.not_mem_nil
        · exact inductionHypothesis later
      · rw [pieces_cons_of_ne isSeparator] at member
        cases cut : pieces separator rest with
        | nil => exact absurd cut (pieces_ne_nil separator rest)
        | cons first more =>
            rw [cut] at member inductionHypothesis
            rcases List.mem_cons.mp member with rfl | later
            · have bareFirst := inductionHypothesis List.mem_cons_self
              simp [Ne.symm isSeparator, bareFirst]
            · exact inductionHypothesis (List.mem_cons_of_mem _ later)

theorem mem_of_mem_pieces {separator c : Char} {text piece : List Char}
    (isPiece : piece ∈ pieces separator text) (member : c ∈ piece) : c ∈ text := by
  induction text generalizing piece with
  | nil =>
      rw [List.mem_singleton.mp isPiece] at member
      contradiction
  | cons head rest inductionHypothesis =>
      by_cases isSeparator : head = separator
      · subst isSeparator
        rw [pieces_cons_separator] at isPiece
        rcases List.mem_cons.mp isPiece with rfl | later
        · contradiction
        · exact List.mem_cons_of_mem _ (inductionHypothesis later member)
      · rw [pieces_cons_of_ne isSeparator] at isPiece
        cases cut : pieces separator rest with
        | nil => exact absurd cut (pieces_ne_nil separator rest)
        | cons first more =>
            rw [cut] at isPiece inductionHypothesis
            rcases List.mem_cons.mp isPiece with rfl | later
            · rcases List.mem_cons.mp member with rfl | inFirst
              · exact List.mem_cons_self
              · exact List.mem_cons_of_mem _ (inductionHypothesis List.mem_cons_self inFirst)
            · exact List.mem_cons_of_mem _
                (inductionHypothesis (List.mem_cons_of_mem _ later) member)

/-- Joined pieces are cut apart where they were joined, if none of them holds the separator. -/
theorem pieces_join {separator : Char} {parts : List (List Char)} (nonempty : parts ≠ [])
    (bare : ∀ part ∈ parts, separator ∉ part) : pieces separator (join [separator] parts) = parts := by
  induction parts with
  | nil => contradiction
  | cons first more inductionHypothesis =>
      rw [List.forall_mem_cons] at bare
      cases more with
      | nil => exact pieces_of_not_mem bare.1
      | cons next last =>
          have moreThere : next :: last ≠ [] := List.cons_ne_nil next last
          rw [join_cons_of_ne_nil _ _ moreThere, List.append_assoc, List.singleton_append,
            pieces_append_separator bare.1, inductionHypothesis moreThere bare.2]

theorem join_concat (separator last : List Char) {parts : List (List Char)}
    (nonempty : parts ≠ []) :
    join separator (parts ++ [last]) = join separator parts ++ separator ++ last := by
  induction parts with
  | nil => contradiction
  | cons first more inductionHypothesis =>
      cases more with
      | nil => rfl
      | cons next rest =>
          have moreThere : next :: rest ≠ [] := List.cons_ne_nil next rest
          rw [List.cons_append, join_cons_of_ne_nil _ _ (by simp), inductionHypothesis moreThere,
            join_cons_of_ne_nil _ _ moreThere]
          simp only [List.append_assoc]

theorem join_append_of_ne_nil (separator : List Char) {parts others : List (List Char)}
    (nonempty : parts ≠ []) (nonemptyOthers : others ≠ []) :
    join separator (parts ++ others) = join separator parts ++ separator ++ join separator others := by
  induction parts with
  | nil => contradiction
  | cons first more inductionHypothesis =>
      by_cases moreThere : more = []
      · subst moreThere
        exact join_cons_of_ne_nil separator first nonemptyOthers
      · rw [List.cons_append, join_cons_of_ne_nil _ _ (by simp [moreThere]), inductionHypothesis moreThere,
          join_cons_of_ne_nil _ _ moreThere]
        simp only [List.append_assoc]

/-- Two joined texts with a text between them, which makes their neighbouring parts one. -/
theorem join_glue (separator between last first : List Char) (earlier later : List (List Char)) :
    join separator (earlier ++ [last]) ++ between ++ join separator (first :: later) =
      join separator (earlier ++ (last ++ between ++ first) :: later) := by
  have atEnd (part : List Char) : join separator (part :: later) = part ++ join separator ([] :: later) := by
    cases later with
    | nil => simp [join]
    | cons next rest => simp [join]
  induction earlier with
  | nil =>
      rw [List.nil_append, List.nil_append, atEnd first, atEnd (last ++ between ++ first)]
      simp [join]
  | cons part rest inductionHypothesis =>
      rw [List.cons_append, List.cons_append,
        join_cons_of_ne_nil separator part (show rest ++ [last] ≠ [] by simp),
        join_cons_of_ne_nil separator part (show rest ++ (last ++ between ++ first) :: later ≠ [] by simp),
        ← inductionHypothesis]
      simp only [List.append_assoc]

theorem mem_join {separator c : Char} {parts : List (List Char)}
    (member : c ∈ join [separator] parts) : c = separator ∨ ∃ part ∈ parts, c ∈ part := by
  induction parts with
  | nil => contradiction
  | cons first more inductionHypothesis =>
      cases more with
      | nil => exact .inr ⟨first, List.mem_singleton_self first, member⟩
      | cons next rest =>
          rw [join_cons_of_ne_nil _ _ (List.cons_ne_nil next rest), List.append_assoc,
            List.mem_append, List.singleton_append, List.mem_cons] at member
          rcases member with inFirst | isSeparator | later
          · exact .inr ⟨first, List.mem_cons_self, inFirst⟩
          · exact .inl isSeparator
          · rcases inductionHypothesis later with isSeparator | ⟨part, inMore, inPart⟩
            · exact .inl isSeparator
            · exact .inr ⟨part, List.mem_cons_of_mem _ inMore, inPart⟩

/-- What holds of a separator holds of a joined text exactly if it holds of the parts. -/
theorem forall_mem_join {P : Char → Prop} {separator : List Char} (separates : ∀ c ∈ separator, P c)
    {parts : List (List Char)} :
    (∀ c ∈ join separator parts, P c) ↔ ∀ part ∈ parts, ∀ c ∈ part, P c := by
  induction parts with
  | nil => simp [join]
  | cons first more inductionHypothesis =>
      cases more with
      | nil => simp [join]
      | cons next rest =>
          rw [join_cons_of_ne_nil _ _ (List.cons_ne_nil next rest), List.forall_mem_append,
            List.forall_mem_append, inductionHypothesis, and_iff_left separates]
          symm
          rw [List.forall_mem_cons]

theorem joined_cut (separator : Char) (text : List Char) :
    joined (String.ofList [separator]) ((pieces separator text).map String.ofList) =
      String.ofList text := by
  rw [joined, String.toList_ofList, List.map_map, show String.toList ∘ String.ofList = id from
    funext fun _ => String.toList_ofList, List.map_id, join_pieces]

/-! ## Beginnings and endings -/

/-- A beginning is taken off exactly where a text starts with it. -/
theorem after?_eq_some_iff {start text rest : List Char} :
    after? start text = some rest ↔ text = start ++ rest := by
  induction start generalizing text with
  | nil => simp [after?]
  | cons s start inductionHypothesis =>
      cases text with
      | nil => simp [after?]
      | cons c text =>
          unfold after?
          by_cases same : s = c
          · simp [same, inductionHypothesis]
          · simp [same, Ne.symm same]

/-- An ending is taken off exactly where a text stops with it. -/
theorem before?_eq_some_iff {ending text rest : List Char} :
    before? ending text = some rest ↔ text = rest ++ ending := by
  unfold before?
  rw [Option.map_eq_some_iff]
  constructor
  · rintro ⟨reversed, taken, rfl⟩
    rw [← List.reverse_reverse text, after?_eq_some_iff.mp taken, List.reverse_append,
      List.reverse_reverse]
  · rintro rfl
    exact ⟨rest.reverse, after?_eq_some_iff.mpr List.reverse_append, List.reverse_reverse rest⟩

theorem hasEnding_iff {ending text : List Char} : hasEnding ending text = true ↔ ending <:+ text := by
  have taken : hasEnding ending text = (before? ending text).isSome := Option.isSome_map.symm
  rw [taken, Option.isSome_iff_exists]
  constructor
  · rintro ⟨rest, ends⟩
    exact ⟨rest, (before?_eq_some_iff.mp ends).symm⟩
  · rintro ⟨rest, whole⟩
    exact ⟨rest, before?_eq_some_iff.mpr whole.symm⟩

/-- An ending without a mark is taken off what stands after the mark. -/
theorem before?_append {mark : Char} {ending : List Char} (bare : mark ∉ ending)
    (upper last : List Char) :
    before? ending (upper ++ mark :: last) = (before? ending last).map (upper ++ mark :: ·) := by
  refine Option.ext fun rest => ?_
  rw [Option.map_eq_some_iff, before?_eq_some_iff]
  constructor
  · intro whole
    rw [← List.singleton_append, ← List.append_assoc, List.append_eq_append_iff] at whole
    rcases whole with ⟨own, isRest, isLast⟩ | ⟨more, isUpper, isEnding⟩
    · exact ⟨own, before?_eq_some_iff.mpr isLast, by simp [isRest]⟩
    · -- the ending would reach back over the mark
      cases more.eq_nil_or_concat with
      | inl noMore =>
          subst noMore
          refine ⟨[], before?_eq_some_iff.mpr (by simpa using isEnding.symm), ?_⟩
          simpa using isUpper
      | inr moreThere =>
          obtain ⟨init, c, rfl⟩ := moreThere
          rw [List.concat_eq_append, ← List.append_assoc] at isUpper
          have isMark : mark = c := List.singleton_inj.mp (List.append_inj_right' isUpper rfl)
          exact absurd (by simp [isEnding, isMark]) bare
  · rintro ⟨own, taken, rfl⟩
    rw [before?_eq_some_iff.mp taken]
    simp

end DeclaredOptions.Text
