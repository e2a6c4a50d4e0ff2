import DeclaredOptions.Proofs.Literal.Quoted

/-!
Contract: fragments in quotation marks that quote no text.

Owns:
- the points at which a body spells nothing further, with the fault of each;
- decoding, which refuses a body with the fault that it breaks off with, and no other body;
- the fragments in quotation marks whose bodies break off.

Does not own: the wording of a refusal.

## No fault beyond three

A body that is cut out of its marks does not end in the backslash of an escape. What is left to go wrong is a control
that stands for itself, a letter behind a backslash, and the digits behind such a letter. A single-quoted body breaks off
where its double-quoted form does, although the two differ in their backslashes.
-/

set_option autoImplicit false

namespace DeclaredOptions.Literal

open Escape (Fault decode fourHex? requote)

/-! ## Where a body breaks off -/

/-- A text begins with what spells nothing: a control, a backslash before a letter that no escape has, or the letter of
an escape by number without four hexadecimal digits behind it. -/
inductive Stops (mark : Char) : List Char → Fault → Prop where
  | control {c : Char} {rest : List Char} (isControl : c.toNat < 0x20) :
      Stops mark (c :: rest) .rawControl
  | letter {c : Char} {rest : List Char} (notUnit : c ≠ 'u')
      (unknown : ∀ unit, (c, unit) ∉ letterEscapes mark) : Stops mark ('\\' :: c :: rest) .unknownEscape
  | unit {rest : List Char}
      (noNumber : ∀ a b c d more, rest = a :: b :: c :: d :: more → fourHex? a b c d = none) :
      Stops mark ('\\' :: 'u' :: rest) .badNumber

/-- A body breaks off with a fault: it stops behind a part that spells units. -/
inductive BreaksOff (mark : Char) (body : List Char) (fault : Fault) : Prop where
  | intro {spelt rest : List Char} {units : List Nat} (shape : body = spelt ++ rest)
      (spelled : Spells mark spelt units) (stops : Stops mark rest fault)

section

variable {mark c : Char} {spelt rest body : List Char} {units before : List Nat} {fault other : Fault}

theorem Stops.breaksOff (stops : Stops mark body fault) : BreaksOff mark body fault :=
  ⟨rfl, .nil, stops⟩

theorem BreaksOff.plain (notControl : 0x20 ≤ c.toNat) (notMark : c ≠ mark) (notBackslash : c ≠ '\\')
    (later : BreaksOff mark rest fault) : BreaksOff mark (c :: rest) fault := by
  obtain ⟨rfl, spelled, stops⟩ := later
  exact ⟨rfl, .plain notControl notMark notBackslash spelled, stops⟩

theorem BreaksOff.letter {unit : Nat} (known : (c, unit) ∈ letterEscapes mark)
    (later : BreaksOff mark rest fault) : BreaksOff mark ('\\' :: c :: rest) fault := by
  obtain ⟨rfl, spelled, stops⟩ := later
  exact ⟨rfl, .letter known spelled, stops⟩

theorem BreaksOff.unit {a b c d : Char} {unit : Nat} (hex : fourHex? a b c d = some unit)
    (later : BreaksOff mark rest fault) :
    BreaksOff mark ('\\' :: 'u' :: a :: b :: c :: d :: rest) fault := by
  obtain ⟨rfl, spelled, stops⟩ := later
  exact ⟨rfl, .unit hex spelled, stops⟩

theorem breaksOff_of_fourHex?_eq_none {a b c d : Char} (noHex : fourHex? a b c d = none) :
    BreaksOff mark ('\\' :: 'u' :: a :: b :: c :: d :: rest) .badNumber := by
  apply Stops.breaksOff
  apply Stops.unit
  rintro _ _ _ _ _ ⟨⟩
  exact noHex

/-- What is left of a body behind a part that spells units spells units too. -/
theorem Spells.exists_rest (spelled : Spells mark (spelt ++ rest) units) (front : Spells mark spelt before) :
    ∃ others, Spells mark rest others := by
  induction front generalizing units with
  | nil => exact ⟨units, spelled⟩
  | plain _ _ notBackslash _ inductionHypothesis =>
      obtain ⟨-, _, -, others⟩ := spelled.of_plain notBackslash
      exact inductionHypothesis others
  | @letter c unit _ _ known _ inductionHypothesis =>
      have notUnit : c ≠ 'u' := by
        rintro rfl
        exact not_mem_letterEscapes_u mark unit known
      obtain ⟨_, _, -, -, others⟩ := spelled.of_letter notUnit
      exact inductionHypothesis others
  | unit hex _ inductionHypothesis =>
      obtain ⟨_, -, others⟩ := spelled.of_unit hex
      exact inductionHypothesis others

/-- Nothing is spelled in front of the point where a text stops. -/
theorem Stops.eq_nil_of_spells (stops : Stops mark (spelt ++ rest) fault) (front : Spells mark spelt units) :
    spelt = [] := by
  generalize shape : spelt ++ rest = text at stops
  cases front with
  | nil => rfl
  | plain notControl _ notBackslash =>
      cases stops with
      | control isControl =>
          obtain ⟨rfl, -⟩ := List.cons.inj shape
          omega
      | letter => exact absurd (List.cons.inj shape).1 notBackslash
      | unit => exact absurd (List.cons.inj shape).1 notBackslash
  | @letter c unit _ _ known =>
      cases stops with
      | control isControl =>
          obtain ⟨rfl, -⟩ := List.cons.inj shape
          exact absurd isControl (by decide)
      | letter _ unknown =>
          obtain ⟨rfl, -⟩ := List.cons.inj (List.cons.inj shape).2
          exact absurd known (unknown unit)
      | unit =>
          obtain ⟨rfl, -⟩ := List.cons.inj (List.cons.inj shape).2
          exact absurd known (not_mem_letterEscapes_u mark unit)
  | @unit a b c d unit _ _ hex =>
      cases stops with
      | control isControl =>
          obtain ⟨rfl, -⟩ := List.cons.inj shape
          exact absurd isControl (by decide)
      | letter notUnit => exact absurd (List.cons.inj (List.cons.inj shape).2).1.symm notUnit
      | unit noNumber =>
          rw [noNumber a b c d _ (List.cons.inj (List.cons.inj shape).2).2.symm] at hex
          contradiction

theorem Stops.unique (stops : Stops mark rest fault) (stopsToo : Stops mark rest other) : fault = other := by
  cases stops with
  | control isControl =>
      cases stopsToo with
      | control => rfl
      | letter => exact absurd isControl (by decide)
      | unit => exact absurd isControl (by decide)
  | letter notUnit =>
      cases stopsToo with
      | control isControl => exact absurd isControl (by decide)
      | letter => rfl
      | unit => exact absurd rfl notUnit
  | unit =>
      cases stopsToo with
      | control isControl => exact absurd isControl (by decide)
      | letter notUnit => exact absurd rfl notUnit
      | unit => rfl

theorem BreaksOff.not_spells (breaksOff : BreaksOff mark body fault) : ¬Spells mark body units := by
  obtain ⟨rfl, front, stops⟩ := breaksOff
  rename_i spelt rest _
  intro spelled
  obtain ⟨others, behind⟩ := spelled.exists_rest front
  rw [← List.append_nil rest] at stops
  rw [stops.eq_nil_of_spells behind] at stops
  cases stops

/-- A body breaks off with one fault. -/
theorem BreaksOff.unique (breaksOff : BreaksOff mark body fault) (breaksOffToo : BreaksOff mark body other) :
    fault = other := by
  obtain ⟨rfl, front, stops⟩ := breaksOff
  obtain ⟨shape, frontToo, stopsToo⟩ := breaksOffToo
  -- the parts that are spelled are one: neither goes on behind the other
  rcases List.append_eq_append_iff.mp shape with ⟨behind, rfl, rfl⟩ | ⟨behind, rfl, rfl⟩
  · obtain ⟨_, spelled⟩ := frontToo.exists_rest front
    rw [stops.eq_nil_of_spells spelled] at stops
    exact stops.unique stopsToo
  · obtain ⟨_, spelled⟩ := front.exists_rest frontToo
    rw [stopsToo.eq_nil_of_spells spelled] at stopsToo
    exact stops.unique stopsToo

end

/-! ## Decoding -/

private theorem cons_map_eq_error {c : Char} {decoded : Except Fault (List Char)} {fault : Fault}
    (refused : (c :: ·) <$> decoded = .error fault) : decoded = .error fault := by
  cases decoded with
  | ok => contradiction
  | error => simpa [Functor.map, Except.map] using refused

/-- A body that is refused breaks off with the fault that it is refused for. -/
theorem breaksOff_of_decode {body : List Char} {fault : Fault} (closed : Closed '"' body)
    (refused : decode body = .error fault) : BreaksOff '"' body fault := by
  -- one escape at a time, as a body that decodes spells its units
  fun_induction decode body with
  | case1 => contradiction
  | case2 a b c d e f g h rest noHex =>
      cases refused
      exact breaksOff_of_fourHex?_eq_none noHex
  | case3 a b c d e f g h rest high hexHigh _ noHex =>
      cases refused
      exact .unit hexHigh (breaksOff_of_fourHex?_eq_none noHex)
  | case4 a b c d e f g h rest high hexHigh _ low hexLow _ inductionHypothesis =>
      have closedRest := (closed.of_unit hexHigh).of_unit hexLow
      exact .unit hexHigh (.unit hexLow (inductionHypothesis closedRest (cons_map_eq_error refused)))
  | case5 a b c d e f g h rest high hexHigh _ low _ _ inductionHypothesis =>
      exact .unit hexHigh (inductionHypothesis (closed.of_unit hexHigh) (cons_map_eq_error refused))
  | case6 a b c d e f g h rest unit hex _ inductionHypothesis =>
      exact .unit hex (inductionHypothesis (closed.of_unit hex) (cons_map_eq_error refused))
  | case7 a b c d rest _ noHex =>
      cases refused
      exact breaksOff_of_fourHex?_eq_none noHex
  | case8 a b c d rest _ unit hex inductionHypothesis =>
      exact .unit hex (inductionHypothesis (closed.of_unit hex) (cons_map_eq_error refused))
  | case9 tail _ noDigits =>
      cases refused
      apply Stops.breaksOff
      exact .unit fun a b c d more shape => (noDigits a b c d more shape).elim
  | case10 c rest _ _ _ letter known inductionHypothesis =>
      obtain ⟨unit, listed, -⟩ := mem_letterEscapes_of_letter? known
      exact .letter listed (inductionHypothesis closed.of_escaped (cons_map_eq_error refused))
  | case11 c rest _ _ notUnit unknown =>
      cases refused
      apply Stops.breaksOff
      refine .letter notUnit fun unit known => ?_
      rw [(letter?_of_mem known).1] at unknown
      contradiction
  | case12 =>
      cases closed with
      | plain _ notBackslash => exact absurd rfl notBackslash
  | case13 c rest _ _ _ _ _ isControl =>
      cases refused
      exact (Stops.control isControl).breaksOff
  | case14 c rest _ _ _ noPair noEnd notControl inductionHypothesis =>
      have notBackslash := ne_backslash noPair noEnd
      obtain ⟨notMark, -, closedRest⟩ := closed.of_cons notBackslash
      exact .plain (Nat.not_lt.mp notControl) notMark notBackslash
        (inductionHypothesis closedRest (cons_map_eq_error refused))

/-- Where the double-quoted form of a closed body stops, the body stopped before. -/
theorem stops_of_requote {body target : List Char} {fault : Fault} (closed : Closed '\'' body)
    (shape : requote body = target) (stops : Stops '"' target fault) : Stops '\'' body fault := by
  cases stops with
  | @control c more isControl =>
      rcases requote_eq_cons closed shape with
        ⟨rest, -, rfl, -⟩ | ⟨rest, -, rfl, -⟩ | ⟨d, rest, -, -, rfl, -⟩ | ⟨rest, rfl, -⟩
      · exact absurd isControl (by decide)
      · exact absurd isControl (by decide)
      · exact absurd isControl (by decide)
      · exact .control isControl
  | @letter c more notUnit unknown =>
      rcases requote_eq_cons closed shape with
        ⟨rest, -, impossible, -⟩ | ⟨rest, -, -, next, -⟩ | ⟨d, rest, rfl, notSingle, -, next, -⟩ |
          ⟨rest, -, -, -, impossible, -⟩
      · exact absurd impossible (by decide)
      · obtain ⟨rfl, -⟩ := List.cons.inj next
        exact absurd (by decide) (unknown 0x22)
      · obtain ⟨rfl, -⟩ := List.cons.inj next
        refine .letter notUnit fun unit known => ?_
        rcases letterEscapes_subset '\'' known with common | ⟨-, isSingle, -⟩
        · exact unknown unit common
        · exact notSingle isSingle
      · exact absurd rfl impossible
  | @unit more noNumber =>
      rcases requote_eq_cons closed shape with
        ⟨rest, -, impossible, -⟩ | ⟨rest, -, -, next, -⟩ | ⟨d, rest, rfl, -, -, next, -⟩ |
          ⟨rest, -, -, -, impossible, -⟩
      · exact absurd impossible (by decide)
      · exact absurd (List.cons.inj next).1 (by decide)
      · obtain ⟨rfl, rfl⟩ := List.cons.inj next
        refine .unit ?_
        rintro a b c d rest rfl
        by_contra isNumber
        obtain ⟨unit, hex⟩ := Option.ne_none_iff_exists'.mp isNumber
        have digits := fourHex?_digits hex
        apply isNumber
        apply noNumber a b c d (requote rest)
        rw [requote_digit (digits a (by simp)), requote_digit (digits b (by simp)),
          requote_digit (digits c (by simp)), requote_digit (digits d (by simp))]
      · exact absurd rfl impossible

theorem breaksOff_of_requote {body : List Char} {fault : Fault} (closed : Closed '\'' body)
    (breaksOff : BreaksOff '"' (requote body) fault) : BreaksOff '\'' body fault := by
  obtain ⟨shape, spelled, stops⟩ := breaksOff
  obtain ⟨spelt, rest, rfl, before, left, closedRest⟩ := exists_spells_of_requote closed shape spelled
  exact ⟨rfl, before, stops_of_requote closedRest left stops⟩

/-! ## Fragments -/

/-- A fragment in quotation marks, whether its body decodes or not. -/
def InQuotes (fragment : List Char) : Prop :=
  ∃ mark body, (mark = '"' ∨ mark = '\'') ∧ fragment = mark :: body ++ [mark] ∧ Closed mark body

/-- A fragment in quotation marks whose body breaks off with a fault. -/
inductive Misquotes (fragment : List Char) (fault : Fault) : Prop where
  | intro {mark : Char} {body : List Char} (isMark : mark = '"' ∨ mark = '\'')
      (shape : fragment = mark :: body ++ [mark]) (closed : Closed mark body)
      (breaksOff : BreaksOff mark body fault)

section

variable {fragment doubled value : List Char} {fault other : Fault}

theorem inQuotes_iff : InQuotes fragment ↔ (quotedForm? fragment).isSome := by
  constructor
  · rintro ⟨mark, body, isMark, rfl, closed⟩
    rw [quotedForm?_of_closed isMark closed]
    rfl
  · intro cut
    obtain ⟨doubled, isForm⟩ := Option.isSome_iff_exists.mp cut
    obtain ⟨mark, body, isMark, shape, closed, -⟩ := exists_of_quotedForm? isForm
    exact ⟨mark, body, isMark, shape, closed⟩

theorem Misquotes.inQuotes (misquotes : Misquotes fragment fault) : InQuotes fragment := by
  obtain ⟨isMark, shape, closed, -⟩ := misquotes
  exact ⟨_, _, isMark, shape, closed⟩

theorem exists_cut_of_inQuotes (quoted : InQuotes fragment) :
    ∃ doubled, quotedForm? fragment = some doubled :=
  Option.isSome_iff_exists.mp (inQuotes_iff.mp quoted)

theorem Misquotes.not_quotes (misquotes : Misquotes fragment fault) : ¬Quotes fragment value := by
  obtain ⟨-, rfl, -, breaksOff⟩ := misquotes
  rintro ⟨-, same, spelled, -⟩
  obtain ⟨rfl, sameRest⟩ := List.cons.inj same
  obtain ⟨rfl, -⟩ := List.append_inj' sameRest rfl
  exact breaksOff.not_spells spelled

theorem Misquotes.unique (misquotes : Misquotes fragment fault) (misquotesToo : Misquotes fragment other) :
    fault = other := by
  obtain ⟨-, rfl, -, breaksOff⟩ := misquotes
  obtain ⟨-, same, -, breaksOffToo⟩ := misquotesToo
  obtain ⟨rfl, sameRest⟩ := List.cons.inj same
  obtain ⟨rfl, -⟩ := List.append_inj' sameRest rfl
  exact breaksOff.unique breaksOffToo

/-- The fault that the double-quoted form of a body is refused for is that of the body. -/
theorem misquotes_of_decode (cut : quotedForm? fragment = some doubled)
    (refused : decode doubled = .error fault) : Misquotes fragment fault := by
  obtain ⟨mark, body, isMark, rfl, closed, rfl⟩ := exists_of_quotedForm? cut
  refine ⟨isMark, rfl, closed, ?_⟩
  rcases isMark with rfl | rfl
  · exact breaksOff_of_decode closed refused
  · exact breaksOff_of_requote closed (breaksOff_of_decode (closed_requote closed) refused)

/-- The double-quoted form of a fragment is refused exactly for the fault that the fragment's body breaks off with. -/
theorem misquotes_iff :
    Misquotes fragment fault ↔ ∃ doubled, quotedForm? fragment = some doubled ∧
      decode doubled = .error fault := by
  constructor
  · intro misquotes
    obtain ⟨doubled, cut⟩ := exists_cut_of_inQuotes misquotes.inQuotes
    refine ⟨doubled, cut, ?_⟩
    cases decoded : decode doubled with
    | ok value => exact absurd (quotes_iff.mpr ⟨doubled, cut, decoded⟩) misquotes.not_quotes
    | error own => rw [misquotes.unique (misquotes_of_decode cut decoded)]
  · rintro ⟨doubled, cut, refused⟩
    exact misquotes_of_decode cut refused

/-- A fragment in quotation marks quotes nothing exactly if its body breaks off. -/
theorem exists_misquotes_iff :
    (∃ fault, Misquotes fragment fault) ↔ InQuotes fragment ∧ ¬∃ value, Quotes fragment value := by
  constructor
  · rintro ⟨fault, misquotes⟩
    exact ⟨misquotes.inQuotes, fun ⟨value, quoted⟩ => misquotes.not_quotes quoted⟩
  · rintro ⟨quoted, noValue⟩
    obtain ⟨doubled, cut⟩ := exists_cut_of_inQuotes quoted
    cases decoded : decode doubled with
    | ok value => exact absurd ⟨value, quotes_iff.mpr ⟨doubled, cut, decoded⟩⟩ noValue
    | error fault => exact ⟨fault, misquotes_of_decode cut decoded⟩

end

end DeclaredOptions.Literal
