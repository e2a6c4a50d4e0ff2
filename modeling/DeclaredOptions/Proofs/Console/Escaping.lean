import DeclaredOptions.Console
import DeclaredOptions.Console.Listing
import DeclaredOptions.Proofs.Text.Cutting
import Mathlib.Data.List.Chain
import Mathlib.Data.List.TakeWhile

/-!
Contract: texts that a console shows without looking for styles in them.

Owns:
- texts without tags, which close nothing that is not open;
- escaped texts, in which no tag keeps its meaning;
- messages behind a heading of the console's own, which closes only what it opened;
- warnings, which are shown or not by their own texts.

Does not own: what a text with tags looks like.

Escaping makes the number of backslashes before a tag odd, and what looks like a tag to the one looks like it to the
other. So rendering an escaped text comes to no tag at all.
-/

set_option autoImplicit false

namespace DeclaredOptions.Console

/-! ## Texts without tags -/

/-- A piece is text, and no tag. -/
def Piece.IsPlain : Piece → Prop
  | .plain _ => True
  | .tag .. => False

theorem tagBody?_eq_some {text body after : List Char} (found : tagBody? text = some (body, after)) :
    text = body ++ ']' :: after ∧ body ≠ [] := by
  cases text with
  | nil => contradiction
  | cons first rest =>
      unfold tagBody? at found
      dsimp only at found
      split at found
      · split at found
        · rename_i rest' closes
          cases found
          have whole := List.takeWhile_append_dropWhile (p := fun c => c != '[' && c != ']') (l := rest)
          rw [closes] at whole
          exact ⟨by rw [List.cons_append, whole], List.cons_ne_nil _ _⟩
        · contradiction
      · contradiction

theorem isPlain_of_mem_piecesFrom {text : List Char} (noOpening : '[' ∉ text)
    {fuel position slashes : Nat} {plain : List Char} :
    ∀ piece ∈ piecesFrom position slashes plain fuel text, piece.IsPlain := by
  induction fuel generalizing text position slashes plain with
  | zero => simp [piecesFrom, Piece.IsPlain]
  | succ fuel inductionHypothesis =>
      cases text with
      | nil => simp [piecesFrom, Piece.IsPlain]
      | cons c rest =>
          rw [List.mem_cons, not_or] at noOpening
          unfold piecesFrom
          split
          · exact absurd rfl noOpening.1
          · exact inductionHypothesis noOpening.2

/-! ## Rendering -/

/-- The styles that are open after pieces, unless one of them closes what is not open. -/
def stylesAfter (opened : List String) : List Piece → Except MarkupFault (List String)
  | [] => .ok opened
  | .plain _ :: rest => stylesAfter opened rest
  | .tag position body :: rest =>
    match afterTag opened position body with
    | .ok next => stylesAfter next rest
    | .error fault => .error fault

/-- Pieces render exactly if they close nothing that is not open. -/
theorem exists_render_iff {pieces : List Piece} {opened : List String} :
    (∃ shown, render opened pieces = .ok shown) ↔ ∃ last, stylesAfter opened pieces = .ok last := by
  induction pieces generalizing opened with
  | nil => exact iff_of_true ⟨[], rfl⟩ ⟨opened, rfl⟩
  | cons piece rest inductionHypothesis =>
      cases piece with
      | plain chars =>
          rw [stylesAfter, ← inductionHypothesis, render]
          cases render opened rest with
          | ok shown => exact iff_of_true ⟨_, rfl⟩ ⟨_, rfl⟩
          | error fault => exact iff_of_false nofun nofun
      | tag position body =>
          rw [stylesAfter, render]
          cases afterTag opened position body with
          | ok next => exact inductionHypothesis
          | error fault => exact iff_of_false nofun nofun

theorem stylesAfter_append {first more : List Piece} {opened next : List String}
    (through : stylesAfter opened first = .ok next) :
    stylesAfter opened (first ++ more) = stylesAfter next more := by
  induction first generalizing opened with
  | nil => rw [← Except.ok.inj through, List.nil_append]
  | cons piece rest inductionHypothesis =>
      cases piece with
      | plain chars => exact inductionHypothesis through
      | tag position body =>
          rw [List.cons_append, stylesAfter]
          rw [stylesAfter] at through
          cases step : afterTag opened position body with
          | ok middle =>
              rw [step] at through
              exact inductionHypothesis through
          | error fault =>
              rw [step] at through
              contradiction

theorem stylesAfter_of_isPlain {pieces : List Piece} (plain : ∀ piece ∈ pieces, piece.IsPlain)
    (opened : List String) : stylesAfter opened pieces = .ok opened := by
  induction pieces with
  | nil => rfl
  | cons piece rest inductionHypothesis =>
      rw [List.forall_mem_cons] at plain
      cases piece with
      | plain chars => exact inductionHypothesis plain.2
      | tag => exact absurd plain.1 id

/-! ## Escaping -/

/-- The first bracket of a text closes. -/
inductive Closes : List Char → Prop where
  | here {rest : List Char} : Closes (']' :: rest)
  | later {c : Char} {rest : List Char} (inside : c ≠ '[') (closes : Closes rest) : Closes (c :: rest)

theorem closes_iff {text : List Char} :
    Closes text ↔ ∃ after, text.dropWhile (fun c => c != '[' && c != ']') = ']' :: after := by
  induction text with
  | nil => exact iff_of_false nofun (by simp)
  | cons c rest inductionHypothesis =>
      rw [List.dropWhile_cons]
      by_cases opening : c = '['
      · subst opening
        refine iff_of_false ?_ (by simp)
        rintro (⟨⟩ | ⟨inside, -⟩)
        exact inside rfl
      by_cases closing : c = ']'
      · subst closing
        exact iff_of_true .here ⟨rest, rfl⟩
      · rw [if_pos (by simp [opening, closing]), ← inductionHypothesis]
        constructor
        · rintro (⟨⟩ | ⟨-, closes⟩)
          · exact absurd rfl closing
          · exact closes
        · exact .later opening

theorem tagBody?_isSome_iff {first : Char} {rest : List Char} :
    (tagBody? (first :: rest)).isSome = true ↔ opensTag first = true ∧ Closes rest := by
  rw [closes_iff]
  unfold tagBody?
  dsimp only
  split
  · rename_i opens
    rw [and_iff_right opens]
    split
    · rename_i after shape
      exact iff_of_true rfl ⟨after, shape⟩
    · rename_i noAfter
      exact iff_of_false nofun fun ⟨after, shape⟩ => noAfter after shape
  · rename_i noOpening
    exact iff_of_false nofun fun both => noOpening both.1

/-- A tag is read whatever follows it. -/
theorem tagBody?_append {text body after : List Char} (found : tagBody? text = some (body, after))
    (other : List Char) : tagBody? (body ++ ']' :: other) = some (body, other) := by
  cases text with
  | nil => contradiction
  | cons first rest =>
      unfold tagBody? at found
      dsimp only at found
      split at found
      · rename_i opens
        split at found
        · cases found
          have inside : ∀ c ∈ rest.takeWhile (fun c => c != '[' && c != ']'),
              (c != '[' && c != ']') = true := fun c => List.mem_takeWhile_imp
          rw [List.cons_append, tagBody?]
          simp only [opens, if_true]
          rw [List.takeWhile_append_of_pos inside, List.dropWhile_append_of_pos inside]
          simp
        · contradiction
      · contradiction

theorem closes_of_append {text tail : List Char} (closes : Closes (text ++ tail)) (noneLater : ']' ∉ tail) :
    Closes text := by
  induction text with
  | nil =>
      refine absurd closes ?_
      clear closes
      induction tail with
      | nil => nofun
      | cons c rest inductionHypothesis =>
          rw [List.mem_cons, not_or] at noneLater
          rintro (⟨⟩ | ⟨-, later⟩)
          · exact noneLater.1 rfl
          · exact inductionHypothesis noneLater.2 later
  | cons c rest inductionHypothesis =>
      cases closes with
      | here => exact .here
      | later inside later => exact .later inside (inductionHypothesis later)

theorem not_closes_replicate (count : Nat) (more : List Char) :
    ¬Closes (List.replicate count '\\' ++ '[' :: more) := by
  induction count with
  | zero =>
      rintro (⟨⟩ | ⟨inside, -⟩)
      exact inside rfl
  | succ count inductionHypothesis =>
      rw [List.replicate_succ, List.cons_append]
      rintro (⟨⟩ | ⟨-, later⟩)
      exact inductionHypothesis later

/-- Escaping puts backslashes before opening brackets only, which close nothing. -/
theorem closes_of_escapeFrom {text tail : List Char} (noneLater : ']' ∉ tail) {slashes fuel : Nat}
    (closes : Closes (escapeFrom slashes fuel text ++ tail)) : Closes text := by
  induction fuel generalizing text slashes with
  | zero => exact closes_of_append closes noneLater
  | succ fuel inductionHypothesis =>
      cases text with
      | nil => exact closes_of_append closes noneLater
      | cons c rest =>
          unfold escapeFrom at closes
          split at closes
          · rw [List.append_assoc, List.append_assoc] at closes
            exact absurd closes (not_closes_replicate _ _)
          · cases closes with
            | here => exact .here
            | later inside later => exact .later inside (inductionHypothesis later)

/-- What begins no tag begins none once the text behind it is escaped. -/
theorem tagBody?_escapeFrom {text tail : List Char} (noneLater : ']' ∉ tail)
    (noTag : tagBody? text = none) (fuel : Nat) (noHead : ∀ c ∈ tail.head?, opensTag c = false) :
    tagBody? (escapeFrom 0 fuel text ++ tail) = none := by
  have fromTail : tagBody? tail = none := by
    cases tail with
    | nil => rfl
    | cons first rest =>
        rw [← Option.not_isSome_iff_eq_none, tagBody?_isSome_iff, noHead first rfl]
        exact fun both => Bool.false_ne_true both.1
  cases text with
  | nil => cases fuel <;> exact fromTail
  | cons first rest =>
      rw [← Option.not_isSome_iff_eq_none, tagBody?_isSome_iff, not_and] at noTag
      rw [← Option.not_isSome_iff_eq_none]
      cases fuel with
      | zero =>
          rw [escapeFrom, List.cons_append, tagBody?_isSome_iff, not_and]
          exact fun opens closes => noTag opens (closes_of_append closes noneLater)
      | succ fuel =>
          unfold escapeFrom
          split
          · rw [Nat.zero_add, List.replicate_one, List.append_assoc, List.append_assoc,
              List.singleton_append, tagBody?_isSome_iff]
            exact fun both => absurd both.1 (by decide)
          · rw [List.cons_append, tagBody?_isSome_iff, not_and]
            exact fun opens closes => noTag opens (closes_of_escapeFrom noneLater closes)

/-- A tag behind an odd number of backslashes is plain. -/
theorem piecesFrom_odd {text body after : List Char} (found : tagBody? text = some (body, after)) {slashes : Nat}
    (odd : slashes % 2 = 1) {fuel position : Nat} {plain more : List Char} :
    piecesFrom position slashes plain (fuel + 1) ('[' :: (body ++ ']' :: more)) =
      .plain (plain.drop slashes).reverse :: .plain (List.replicate (slashes / 2) '\\') ::
        .plain ('[' :: body ++ [']']) :: piecesFrom (position + body.length + 2) 0 [] fuel more := by
  conv_lhs => unfold piecesFrom
  rw [tagBody?_append found]
  simp only [odd, beq_self_eq_true, if_true]

/-- Backslashes before a text are counted, and are no pieces of their own. -/
theorem isPlain_of_mem_piecesFrom_replicate {text : List Char} {count slashes : Nat}
    (later : ∀ {fuel position : Nat} {plain : List Char},
      ∀ piece ∈ piecesFrom position (slashes + count) plain fuel text, piece.IsPlain)
    {fuel position : Nat} {plain : List Char} :
    ∀ piece ∈ piecesFrom position slashes plain fuel (List.replicate count '\\' ++ text), piece.IsPlain := by
  induction count generalizing slashes fuel position plain with
  | zero => exact later
  | succ count inductionHypothesis =>
      cases fuel with
      | zero => simp [piecesFrom, Piece.IsPlain]
      | succ fuel =>
          rw [List.replicate_succ, List.cons_append]
          apply @inductionHypothesis (slashes + 1)
          rw [Nat.add_right_comm slashes 1 count]
          exact later

/-- An escaped text holds no tag, nor does what follows it without a bracket. -/
theorem isPlain_of_mem_piecesFrom_escapeFrom {text tail : List Char} (noOpening : '[' ∉ tail)
    (noneLater : ']' ∉ tail) (noHead : ∀ c ∈ tail.head?, opensTag c = false) {slashes enough : Nat}
    (isEnough : text.length ≤ enough) {fuel position : Nat} {plain : List Char} :
    ∀ piece ∈ piecesFrom position slashes plain fuel (escapeFrom slashes enough text ++ tail), piece.IsPlain := by
  have fromTail {slashes fuel position : Nat} {plain : List Char} :
      ∀ piece ∈ piecesFrom position slashes plain fuel tail, piece.IsPlain :=
    isPlain_of_mem_piecesFrom noOpening
  induction enough generalizing text slashes fuel position plain with
  | zero =>
      rw [List.length_eq_zero_iff.mp (Nat.le_zero.mp isEnough)]
      exact fromTail
  | succ enough inductionHypothesis =>
      cases text with
      | nil => exact fromTail
      | cons c rest =>
          have restEnough : rest.length ≤ enough := Nat.le_of_succ_le_succ isEnough
          unfold escapeFrom
          split
          · rename_i body after found
            obtain ⟨shape, -⟩ := tagBody?_eq_some found
            have afterEnough : after.length ≤ enough := by
              rw [shape, List.length_append, List.length_cons] at restEnough
              omega
            rw [List.append_assoc, List.append_assoc]
            apply isPlain_of_mem_piecesFrom_replicate
            intro fuel position plain
            -- There are as many backslashes as before, and as many again and one.
            have odd : (slashes + (slashes + 1)) % 2 = 1 := by omega
            cases fuel with
            | zero => simp [piecesFrom, Piece.IsPlain]
            | succ fuel =>
                have shown : '[' :: body ++ (']' :: escapeFrom 0 enough after ++ tail) =
                    '[' :: (body ++ ']' :: (escapeFrom 0 enough after ++ tail)) := rfl
                rw [shown, piecesFrom_odd found odd, List.forall_mem_cons, List.forall_mem_cons,
                  List.forall_mem_cons]
                exact ⟨trivial, trivial, trivial, inductionHypothesis afterEnough⟩
          · rename_i noTag
            cases fuel with
            | zero => simp [piecesFrom, Piece.IsPlain]
            | succ fuel =>
                rw [List.cons_append]
                unfold piecesFrom
                split
                · rename_i body after found
                  have noBody : tagBody? rest = none :=
                    Option.eq_none_iff_forall_ne_some.mpr fun pair same => noTag pair.1 pair.2 rfl same
                  have noneFound := tagBody?_escapeFrom noneLater noBody enough noHead
                  exact absurd (noneFound.symm.trans found) nofun
                · exact inductionHypothesis restEnough

theorem closingSlash_eq (text : List Char) : closingSlash text = [] ∨ closingSlash text = ['\\'] := by
  unfold closingSlash
  split
  · split
    · exact .inl rfl
    · exact .inr rfl
  · exact .inl rfl

/-- An escaped text that ends a line holds no tag. -/
theorem isPlain_of_mem_piecesFrom_escape {text : List Char} {fuel position : Nat} {plain : List Char} :
    ∀ piece ∈ piecesFrom position 0 plain fuel (escape text ++ ['\n']), piece.IsPlain := by
  unfold escape
  rw [List.append_assoc]
  rcases closingSlash_eq (escapeFrom 0 text.length text) with none | one
  · rw [none]
    exact isPlain_of_mem_piecesFrom_escapeFrom (by decide) (by decide) (by rintro _ ⟨⟩; decide) (Nat.le_refl _)
  · rw [one]
    exact isPlain_of_mem_piecesFrom_escapeFrom (by decide) (by decide) (by rintro _ ⟨⟩; decide) (Nat.le_refl _)

/-! ## Headings -/

/-- A heading that closes what it opens can be shown before every text without tags. -/
private theorem exists_plainText {heading rest : List Char} {first : List Piece}
    {position fuel : Nat} {plain : List Char}
    (cut : pieces (heading ++ rest) = first ++ piecesFrom position 0 plain fuel rest)
    (closes : stylesAfter [] first = .ok [])
    (noTags : ∀ piece ∈ piecesFrom position 0 plain fuel rest, piece.IsPlain) :
    ∃ shown, plainText (heading ++ rest) = .ok shown := by
  unfold plainText
  rw [exists_render_iff, cut, stylesAfter_append closes]
  exact ⟨[], stylesAfter_of_isPlain noTags []⟩

variable {rest : List Char}

/-- The heading of an error that users are told of. -/
def errorHeading : String := "[bold red]Error[/bold red]: "

/-- The heading of an error that nobody reckoned with. -/
def surpriseHeading : String := "[bold red]ERROR[/bold red]: An unexpected exception occurred: "

private theorem cut_error :
    pieces (('\n' :: '\n' :: errorHeading.toList) ++ rest) =
      [.plain ['\n', '\n'], .plain [], .tag 2 "bold red".toList, .plain "Error".toList, .plain [],
        .tag 17 "/bold red".toList] ++ piecesFrom 30 0 [' ', ':'] (rest.length + 19) rest := by
  have length : (('\n' :: '\n' :: errorHeading.toList) ++ rest).length = rest.length + 30 := by
    simp [errorHeading]
  unfold pieces
  rw [length]
  rfl

private theorem cut_surprise :
    pieces (('\n' :: '\n' :: surpriseHeading.toList) ++ rest) =
      [.plain ['\n', '\n'], .plain [], .tag 2 "bold red".toList, .plain "ERROR".toList, .plain [],
        .tag 17 "/bold red".toList] ++
        piecesFrom 64 0 (": An unexpected exception occurred: ".toList.reverse) (rest.length + 19)
          rest := by
  have length : (('\n' :: '\n' :: surpriseHeading.toList) ++ rest).length = rest.length + 64 := by
    simp [surpriseHeading]
  unfold pieces
  rw [length]
  rfl

theorem exists_printed {text : List Char} (renders : ∃ shown, plainText text = .ok shown) :
    ∃ shown, printed text = .ok shown := by
  obtain ⟨shown, isShown⟩ := renders
  exact ⟨layout shown, by rw [printed, isShown]; rfl⟩

/-- An error behind one of its headings can be shown, whatever its message holds, since that is escaped. -/
theorem exists_error {heading : String} (isHeading : heading = errorHeading ∨ heading = surpriseHeading)
    (message : String) (console : Console) :
    ∃ next, console.error (heading ++ String.ofList (escape message.toList)) = .ok next := by
  have shape : ['\n', '\n'] ++ (heading ++ String.ofList (escape message.toList)).toList ++ ['\n'] =
      ('\n' :: '\n' :: heading.toList) ++ (escape message.toList ++ ['\n']) := by simp
  have renders : ∃ shown, plainText (('\n' :: '\n' :: heading.toList) ++ (escape message.toList ++ ['\n'])) =
      .ok shown := by
    rcases isHeading with rfl | rfl
    · exact exists_plainText cut_error rfl isPlain_of_mem_piecesFrom_escape
    · exact exists_plainText cut_surprise rfl isPlain_of_mem_piecesFrom_escape
  obtain ⟨shown, isShown⟩ := exists_printed renders
  exact ⟨_, by rw [error, shape, isShown]; rfl⟩

/-! ## Warnings -/

/-- On a console that does not indent, a warning adds what it adds to a blank one, or cannot be shown on either. -/
theorem warn_eq_map {console : Console} (flush : console.depth = 0) (message : String) :
    console.warn message =
      (blank.warn message).map fun shown => { console with err := console.err ++ shown.err } := by
  have same : indentLines blank.depth = indentLines console.depth := by rw [flush]; rfl
  unfold warn
  dsimp only
  rw [same]
  cases printed (indentLines console.depth ("[bold yellow]Warning[/bold yellow]: ".toList ++ message.toList)) with
  | error fault => rfl
  | ok shown =>
      change Except.ok _ = Except.ok _
      simp [blank, String.append_assoc]

end DeclaredOptions.Console
