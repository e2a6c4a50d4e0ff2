import DeclaredOptions.Proofs.Literal.Body

/-!
Contract: fragments in quotation marks.

Owns:
- single-quoted bodies, whose double-quoted form spells what they spell;
- the fragments that are quoted texts, with the text of each.

Does not own: fragments without quotation marks.
-/

set_option autoImplicit false

namespace DeclaredOptions.Literal

open Escape (decode fourHex? requote)
open Text (codeUnits ofUnits)

/-! ## The double-quoted form -/

theorem closed_requote {body : List Char} (closed : Closed '\'' body) :
    Closed '"' (requote body) := by
  induction closed with
  | nil => exact .nil
  | @plain c rest notMark notBackslash notFeed _ inductionHypothesis =>
      by_cases isDouble : c = '"'
      · subst isDouble
        exact .escaped (by decide) inductionHypothesis
      · simpa [requote, isDouble, notBackslash] using
          Closed.plain isDouble notBackslash notFeed inductionHypothesis
  | @escaped c rest notFeed _ inductionHypothesis =>
      by_cases isSingle : c = '\''
      · subst isSingle
        exact .plain (by decide) (by decide) (by decide) inductionHypothesis
      · simpa [requote, isSingle] using Closed.escaped notFeed inductionHypothesis

theorem requote_plain {c : Char} (rest : List Char) (notBackslash : c ≠ '\\')
    (notDouble : c ≠ '"') : requote (c :: rest) = c :: requote rest := by
  simp [requote, notBackslash]

theorem requote_escaped_pair {c : Char} (rest : List Char) (notSingle : c ≠ '\'') :
    requote ('\\' :: c :: rest) = '\\' :: c :: requote rest := by
  simp [requote]

theorem requote_digit {digit : Char} (isHex : Text.isHex digit = true) (rest : List Char) :
    requote (digit :: rest) = digit :: requote rest :=
  requote_plain rest (ne_of_isHex isHex (by decide)) (ne_of_isHex isHex (by decide))

theorem requote_unit {a b c d : Char} {unit : Nat} (hex : fourHex? a b c d = some unit)
    (rest : List Char) :
    requote ('\\' :: 'u' :: a :: b :: c :: d :: rest) =
      '\\' :: 'u' :: a :: b :: c :: d :: requote rest := by
  have digits := fourHex?_digits hex
  rw [requote_escaped_pair _ (by decide), requote_digit (digits a (by simp)),
    requote_digit (digits b (by simp)), requote_digit (digits c (by simp)),
    requote_digit (digits d (by simp))]

/-- What a single-quoted body spells, its double-quoted form spells. -/
theorem Spells.requote {body : List Char} {units : List Nat} (spelled : Spells '\'' body units) :
    Spells '"' (requote body) units := by
  induction spelled with
  | nil => exact .nil
  | @plain c rest units notControl notMark notBackslash _ inductionHypothesis =>
      by_cases isDouble : c = '"'
      · subst isDouble
        exact .letter (by decide) inductionHypothesis
      · rw [requote_plain rest notBackslash isDouble]
        exact .plain notControl isDouble notBackslash inductionHypothesis
  | @letter c unit rest units known _ inductionHypothesis =>
      by_cases isSingle : c = '\''
      · subst isSingle
        have isCode : unit = 0x27 := by
          revert known
          simp [letterEscapes]
        subst isCode
        exact .plain (by decide) (by decide) (by decide) inductionHypothesis
      · rw [requote_escaped_pair rest isSingle]
        rcases letterEscapes_subset _ known with common | ⟨-, single, -⟩
        · exact .letter common inductionHypothesis
        · exact absurd single isSingle
  | @unit a b c d unit rest units hex _ inductionHypothesis =>
      rw [requote_unit hex]
      exact .unit hex inductionHypothesis

/-- A character of a double-quoted form was there before, or its backslash was lost or gained. -/
theorem requote_eq_cons {body : List Char} {c : Char} {more : List Char}
    (closed : Closed '\'' body) (shape : requote body = c :: more) :
    (∃ rest, body = '\\' :: '\'' :: rest ∧ c = '\'' ∧ more = requote rest ∧ Closed '\'' rest) ∨
    (∃ rest, body = '"' :: rest ∧ c = '\\' ∧ more = '"' :: requote rest ∧ Closed '\'' rest) ∨
    (∃ d rest, body = '\\' :: d :: rest ∧ d ≠ '\'' ∧ c = '\\' ∧ more = d :: requote rest ∧
      Closed '\'' rest) ∨
    (∃ rest, body = c :: rest ∧ c ≠ '\'' ∧ c ≠ '"' ∧ c ≠ '\\' ∧ more = requote rest ∧
      Closed '\'' rest) := by
  cases closed with
  | nil => contradiction
  | @plain first rest notMark notBackslash notFeed closed =>
      by_cases isDouble : first = '"'
      · subst isDouble
        obtain ⟨rfl, rfl⟩ := List.cons.inj shape
        exact .inr (.inl ⟨rest, rfl, rfl, rfl, closed⟩)
      · rw [requote_plain rest notBackslash isDouble] at shape
        obtain ⟨rfl, rfl⟩ := List.cons.inj shape
        exact .inr (.inr (.inr ⟨rest, rfl, notMark, isDouble, notBackslash, rfl, closed⟩))
  | @escaped first rest notFeed closed =>
      by_cases isSingle : first = '\''
      · subst isSingle
        obtain ⟨rfl, rfl⟩ := List.cons.inj shape
        exact .inl ⟨rest, rfl, rfl, rfl, closed⟩
      · rw [requote_escaped_pair rest isSingle] at shape
        obtain ⟨rfl, rfl⟩ := List.cons.inj shape
        exact .inr (.inr (.inl ⟨first, rest, rfl, isSingle, rfl, rfl, closed⟩))

theorem digit_of_requote {body : List Char} {digit : Char} {more : List Char}
    (closed : Closed '\'' body) (isHex : Text.isHex digit = true)
    (shape : requote body = digit :: more) :
    ∃ rest, body = digit :: rest ∧ more = requote rest ∧ Closed '\'' rest := by
  rcases requote_eq_cons closed shape with
    ⟨rest, -, impossible, -⟩ | ⟨rest, -, impossible, -⟩ | ⟨d, rest, -, -, impossible, -⟩ |
      ⟨rest, rfl, -, -, -, rfl, closedRest⟩
  · exact absurd impossible (ne_of_isHex isHex (by decide))
  · exact absurd impossible (ne_of_isHex isHex (by decide))
  · exact absurd impossible (ne_of_isHex isHex (by decide))
  · exact ⟨rest, rfl, rfl, closedRest⟩

theorem requote_eq_nil {body : List Char} (shape : requote body = []) : body = [] := by
  unfold requote at shape
  split at shape
  · rfl
  all_goals contradiction

/-- What the double-quoted form of a closed body spells up to some point, the body spelled before, up to the point
whose double-quoted form is left. -/
theorem exists_spells_of_requote {body target more : List Char} {units : List Nat}
    (closed : Closed '\'' body) (shape : requote body = target ++ more)
    (spelled : Spells '"' target units) :
    ∃ spelt rest, body = spelt ++ rest ∧ Spells '\'' spelt units ∧ requote rest = more ∧
      Closed '\'' rest := by
  induction spelled generalizing body with
  | nil => exact ⟨[], body, rfl, .nil, shape, closed⟩
  | @plain c tail units notControl notMark notBackslash _ inductionHypothesis =>
      rcases requote_eq_cons closed shape with
        ⟨behind, rfl, rfl, next, closedRest⟩ | ⟨behind, -, impossible, -⟩ |
          ⟨d, behind, -, -, impossible, -⟩ | ⟨behind, rfl, notSingle, -, -, next, closedRest⟩
      · obtain ⟨spelt, rest, rfl, before, left⟩ := inductionHypothesis closedRest next.symm
        exact ⟨'\\' :: '\'' :: spelt, rest, rfl, .letter (by decide) before, left⟩
      · exact absurd impossible notBackslash
      · exact absurd impossible notBackslash
      · obtain ⟨spelt, rest, rfl, before, left⟩ := inductionHypothesis closedRest next.symm
        exact ⟨c :: spelt, rest, rfl, .plain notControl notSingle notBackslash before, left⟩
  | @letter c unit tail units known _ inductionHypothesis =>
      rcases requote_eq_cons closed shape with
        ⟨behind, -, impossible, -⟩ | ⟨behind, rfl, -, next, closedRest⟩ |
          ⟨d, behind, rfl, notSingle, -, next, closedRest⟩ | ⟨behind, -, -, -, impossible, -⟩
      · exact absurd impossible (by decide)
      · obtain ⟨rfl, afterMark⟩ := List.cons.inj next
        have isCode : unit = 0x22 := by
          revert known
          simp [letterEscapes]
        subst isCode
        obtain ⟨spelt, rest, rfl, before, left⟩ := inductionHypothesis closedRest afterMark.symm
        exact ⟨'"' :: spelt, rest, rfl, .plain (by decide) (by decide) (by decide) before, left⟩
      · obtain ⟨rfl, afterMark⟩ := List.cons.inj next
        obtain ⟨spelt, rest, rfl, before, left⟩ := inductionHypothesis closedRest afterMark.symm
        exact ⟨'\\' :: c :: spelt, rest, rfl, .letter (letterEscapes_of_double _ known) before, left⟩
      · exact absurd rfl impossible
  | @unit a b c d unit tail units hex _ inductionHypothesis =>
      have digits := fourHex?_digits hex
      rcases requote_eq_cons closed shape with
        ⟨behind, -, impossible, -⟩ | ⟨behind, -, -, impossible, -⟩ |
          ⟨e, behind, rfl, notSingle, -, next, closedRest⟩ | ⟨behind, -, -, -, impossible, -⟩
      · exact absurd impossible (by decide)
      · exact absurd (List.cons.inj impossible).1 (by decide)
      · obtain ⟨rfl, afterU⟩ := List.cons.inj next
        obtain ⟨restA, rfl, afterA, closedA⟩ :=
          digit_of_requote closedRest (digits a (by simp)) afterU.symm
        obtain ⟨restB, rfl, afterB, closedB⟩ :=
          digit_of_requote closedA (digits b (by simp)) afterA.symm
        obtain ⟨restC, rfl, afterC, closedC⟩ :=
          digit_of_requote closedB (digits c (by simp)) afterB.symm
        obtain ⟨restD, rfl, afterD, closedD⟩ :=
          digit_of_requote closedC (digits d (by simp)) afterC.symm
        obtain ⟨spelt, rest, rfl, before, left⟩ := inductionHypothesis closedD afterD.symm
        exact ⟨'\\' :: 'u' :: a :: b :: c :: d :: spelt, rest, rfl, .unit hex before, left⟩
      · exact absurd rfl impossible

/-- What the double-quoted form of a closed body spells, the body spelled before. -/
theorem spells_of_requote {body target : List Char} {units : List Nat}
    (closed : Closed '\'' body) (shape : requote body = target) (spelled : Spells '"' target units) :
    Spells '\'' body units := by
  rw [← List.append_nil target] at shape
  obtain ⟨spelt, rest, rfl, before, nothingLeft, -⟩ := exists_spells_of_requote closed shape spelled
  rw [requote_eq_nil nothingLeft, List.append_nil]
  exact before

/-! ## Quoted fragments -/

/-- A fragment in quotation marks, with the text that its body spells. -/
inductive Quotes (fragment value : List Char) : Prop where
  | intro {mark : Char} {body : List Char} {units : List Nat} (isMark : mark = '"' ∨ mark = '\'')
      (shape : fragment = mark :: body ++ [mark]) (spelled : Spells mark body units)
      (text : ofUnits units = value)

theorem quotedForm?_of_closed {mark : Char} {body : List Char} (isMark : mark = '"' ∨ mark = '\'')
    (closed : Closed mark body) :
    quotedForm? (mark :: body ++ [mark]) = some (if mark = '"' then body else requote body) := by
  rcases isMark with rfl | rfl
  · exact (quotedBody?_eq_some_iff (by decide) (by decide)).mpr ⟨rfl, closed⟩
  · have cut : quotedBody? '\'' (body ++ ['\'']) = some body :=
      (quotedBody?_eq_some_iff (by decide) (by decide)).mpr ⟨rfl, closed⟩
    rw [List.cons_append, quotedForm?, cut]
    rfl

theorem exists_of_quotedForm? {fragment doubled : List Char}
    (cut : quotedForm? fragment = some doubled) :
    ∃ mark body, (mark = '"' ∨ mark = '\'') ∧ fragment = mark :: body ++ [mark] ∧
      Closed mark body ∧ doubled = if mark = '"' then body else requote body := by
  unfold quotedForm? at cut
  split at cut
  · rename_i rest
    obtain ⟨rfl, closed⟩ := (quotedBody?_eq_some_iff (by decide) (by decide)).mp cut
    exact ⟨'"', doubled, .inl rfl, rfl, closed, rfl⟩
  · rename_i rest
    obtain ⟨body, cutBody, rfl⟩ := Option.map_eq_some_iff.mp cut
    obtain ⟨rfl, closed⟩ := (quotedBody?_eq_some_iff (by decide) (by decide)).mp cutBody
    exact ⟨'\'', body, .inr rfl, rfl, closed, rfl⟩
  · contradiction

/-- The double-quoted form of a fragment decodes exactly to the text that the fragment quotes. -/
theorem quotes_iff {fragment value : List Char} :
    Quotes fragment value ↔ ∃ doubled, quotedForm? fragment = some doubled ∧
      decode doubled = .ok value := by
  constructor
  · rintro ⟨isMark, rfl, spelled, rfl⟩
    refine ⟨_, quotedForm?_of_closed isMark (spelled.closed ?_), ?_⟩
    · rcases isMark with rfl | rfl <;> decide
    · rcases isMark with rfl | rfl
      · exact decode_of_spells spelled
      · exact decode_of_spells spelled.requote
  · rintro ⟨doubled, cut, decoded⟩
    obtain ⟨mark, body, isMark, rfl, closed, rfl⟩ := exists_of_quotedForm? cut
    rcases isMark with rfl | rfl
    · obtain ⟨units, spelled, text⟩ := exists_spells_of_decode closed decoded
      exact ⟨.inl rfl, rfl, spelled, text⟩
    · obtain ⟨units, spelled, text⟩ := exists_spells_of_decode (closed_requote closed) decoded
      exact ⟨.inr rfl, rfl, spells_of_requote closed rfl spelled, text⟩

end DeclaredOptions.Literal
