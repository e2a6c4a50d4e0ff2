import DeclaredOptions.Proofs.Literal.RoundTrip
import DeclaredOptions.Proofs.Text.Units

/-!
Contract: the bodies that stand between the quotes of a text literal.

Owns:
- bodies that no quote closes early, which are those that a quoted form is cut into;
- the escapes that a body may hold, and the units that it spells with them;
- decoding, which gives the text of the units that a body spells, and refuses every other body.

Does not own: the marks around a body, and single quotes as marks.

## Why units

An escape of four digits gives a unit, and a character beyond sixteen bits takes two of them. Whether a high
surrogate is a character of its own is told by the escape after it. The spelling of a body is therefore said of
units, one escape at a time, and the text is read off the units in the end.
-/

set_option autoImplicit false

namespace DeclaredOptions.Literal

open Escape (decode fourHex? isHigh isLow letter? unitChar)
open Text (codeUnits ofUnits)

/-! ## Where a body closes -/

/-- No mark in a body closes it early, and no line feed breaks it off. -/
inductive Closed (mark : Char) : List Char → Prop where
  | nil : Closed mark []
  | plain {c : Char} {rest : List Char} (notMark : c ≠ mark) (notBackslash : c ≠ '\\')
      (notFeed : c ≠ '\n') (closed : Closed mark rest) : Closed mark (c :: rest)
  | escaped {c : Char} {rest : List Char} (notFeed : c ≠ '\n') (closed : Closed mark rest) :
      Closed mark ('\\' :: c :: rest)

theorem Closed.of_cons {mark c : Char} {rest : List Char} (closed : Closed mark (c :: rest))
    (notBackslash : c ≠ '\\') : c ≠ mark ∧ c ≠ '\n' ∧ Closed mark rest := by
  cases closed with
  | plain notMark _ notFeed closed => exact ⟨notMark, notFeed, closed⟩
  | escaped => exact absurd rfl notBackslash

theorem Closed.of_escaped {mark c : Char} {rest : List Char}
    (closed : Closed mark ('\\' :: c :: rest)) : Closed mark rest := by
  cases closed with
  | plain _ notBackslash => exact absurd rfl notBackslash
  | escaped _ closed => exact closed

theorem quotedBody?_eq_some_iff {mark : Char} (markNotFeed : mark ≠ '\n')
    (markNotBackslash : mark ≠ '\\') {text body : List Char} :
    quotedBody? mark text = some body ↔ text = body ++ [mark] ∧ Closed mark body := by
  constructor
  · intro cut
    fun_induction quotedBody? mark text generalizing body with
    | case1 c rest isFeed => contradiction
    | case2 c rest notFeed inductionHypothesis =>
        obtain ⟨inner, cutRest, rfl⟩ := Option.map_eq_some_iff.mp cut
        obtain ⟨rfl, closed⟩ := inductionHypothesis cutRest
        exact ⟨rfl, .escaped (by simpa using notFeed) closed⟩
    | case3 c rest _ isMark isLast =>
        obtain rfl := Option.some.inj cut
        rw [List.isEmpty_iff.mp isLast, beq_iff_eq.mp isMark]
        exact ⟨rfl, .nil⟩
    | case4 => contradiction
    | case5 => contradiction
    | case6 c rest _ notMark notOther inductionHypothesis =>
        obtain ⟨inner, cutRest, rfl⟩ := Option.map_eq_some_iff.mp cut
        obtain ⟨rfl, closed⟩ := inductionHypothesis cutRest
        have others : c ≠ '\\' ∧ c ≠ '\n' := by simpa using notOther
        exact ⟨rfl, .plain (by simpa using notMark) others.1 others.2 closed⟩
    | case7 => contradiction
  · rintro ⟨rfl, closed⟩
    induction closed with
    | nil => simp [quotedBody?]
    | plain notMark notBackslash notFeed _ inductionHypothesis =>
        rw [List.cons_append, quotedBody?_plain _ notMark notBackslash notFeed,
          inductionHypothesis]
        rfl
    | escaped notFeed _ inductionHypothesis =>
        rw [List.cons_append, List.cons_append, quotedBody?_escape_pair _ _ _ notFeed,
          inductionHypothesis]
        rfl

/-! ## What a body spells -/

/-- The escapes of one letter with the units they give; a single quote needs one between single quotes only. -/
def letterEscapes (mark : Char) : List (Char × Nat) :=
  [('"', 0x22), ('\\', 0x5c), ('/', 0x2f), ('b', 0x08), ('f', 0x0c), ('n', 0x0a), ('r', 0x0d),
    ('t', 0x09)] ++ if mark = '\'' then [('\'', 0x27)] else []

/-- A body between two marks spells units: its characters stand for themselves, but for controls, the mark and
the backslash, and it holds no escapes but those of one letter and those of four hexadecimal digits. -/
inductive Spells (mark : Char) : List Char → List Nat → Prop where
  | nil : Spells mark [] []
  | plain {c : Char} {rest : List Char} {units : List Nat} (notControl : 0x20 ≤ c.toNat)
      (notMark : c ≠ mark) (notBackslash : c ≠ '\\') (others : Spells mark rest units) :
      Spells mark (c :: rest) (codeUnits c.toNat ++ units)
  | letter {c : Char} {unit : Nat} {rest : List Char} {units : List Nat}
      (known : (c, unit) ∈ letterEscapes mark) (others : Spells mark rest units) :
      Spells mark ('\\' :: c :: rest) (unit :: units)
  | unit {a b c d : Char} {unit : Nat} {rest : List Char} {units : List Nat}
      (hex : fourHex? a b c d = some unit) (others : Spells mark rest units) :
      Spells mark ('\\' :: 'u' :: a :: b :: c :: d :: rest) (unit :: units)

theorem letterEscapes_subset (mark : Char) {c : Char} {unit : Nat}
    (known : (c, unit) ∈ letterEscapes mark) :
    (c, unit) ∈ letterEscapes '"' ∨ mark = '\'' ∧ c = '\'' ∧ unit = 0x27 := by
  unfold letterEscapes at known ⊢
  rcases List.mem_append.mp known with common | own
  · exact .inl (List.mem_append_left _ common)
  · by_cases isSingle : mark = '\''
    · rw [if_pos isSingle, List.mem_singleton, Prod.mk.injEq] at own
      exact .inr ⟨isSingle, own⟩
    · rw [if_neg isSingle] at own
      contradiction

theorem letterEscapes_of_double (mark : Char) {c : Char} {unit : Nat}
    (known : (c, unit) ∈ letterEscapes '"') : (c, unit) ∈ letterEscapes mark := by
  unfold letterEscapes at known ⊢
  rw [if_neg (by decide), List.append_nil] at known
  exact List.mem_append_left _ known

theorem letter?_of_mem {c : Char} {unit : Nat} (known : (c, unit) ∈ letterEscapes '"') :
    letter? c = some (unitChar unit) ∧ unit < 0x80 := by
  have all : ∀ pair ∈ letterEscapes '"',
      letter? pair.1 = some (unitChar pair.2) ∧ pair.2 < 0x80 := by decide
  exact all _ known

theorem mem_letterEscapes_of_letter? {c letter : Char} (known : letter? c = some letter) :
    ∃ unit, (c, unit) ∈ letterEscapes '"' ∧ unitChar unit = letter := by
  unfold letter? at known
  simp only [Bool.or_eq_true, beq_iff_eq] at known
  split_ifs at known with same isB isF isN isR isT
  · rcases same with (rfl | rfl) | rfl <;> cases known
    · exact ⟨0x22, by decide, by decide⟩
    · exact ⟨0x5c, by decide, by decide⟩
    · exact ⟨0x2f, by decide, by decide⟩
  all_goals
    cases known
    subst c
  · exact ⟨0x08, by decide, by decide⟩
  · exact ⟨0x0c, by decide, by decide⟩
  · exact ⟨0x0a, by decide, by decide⟩
  · exact ⟨0x0d, by decide, by decide⟩
  · exact ⟨0x09, by decide, by decide⟩

theorem not_mem_letterEscapes_u (mark : Char) (unit : Nat) : ('u', unit) ∉ letterEscapes mark := by
  intro known
  rcases letterEscapes_subset mark known with common | ⟨-, impossible, -⟩
  · have letter := (letter?_of_mem common).1
    have noLetter : letter? 'u' = none := by decide
    rw [noLetter] at letter
    contradiction
  · revert impossible
    decide

/-- Only an escape of four digits gives a low surrogate. -/
theorem Spells.opens_low {mark : Char} {body : List Char} {units : List Nat} {next : Nat}
    (spelled : Spells mark body units) (first : units.head? = some next) (low : isLow next = true) :
    ∃ a b c d rest, body = '\\' :: 'u' :: a :: b :: c :: d :: rest ∧
      fourHex? a b c d = some next := by
  cases spelled with
  | nil => contradiction
  | plain _ _ _ others =>
      have notLow := Text.isLow_head_codeUnits_append _ _ next first
      rw [low] at notLow
      contradiction
  | letter known others =>
      have same := Option.some.inj first
      have ascii : next < 0x80 := by
        rcases letterEscapes_subset mark known with common | ⟨-, -, single⟩
        · rw [← same]
          exact (letter?_of_mem common).2
        · omega
      simp only [isLow, Bool.and_eq_true, decide_eq_true_eq] at low
      omega
  | unit hex others =>
      rw [← Option.some.inj first]
      exact ⟨_, _, _, _, _, rfl, hex⟩

/-- A unit opens no pair with what a body spells that does not begin with an escape of four digits. -/
theorem Spells.alone {mark : Char} {body : List Char} {units : List Nat}
    (spelled : Spells mark body units)
    (noEscape : ∀ a b c d rest, body = '\\' :: 'u' :: a :: b :: c :: d :: rest → False) (unit : Nat) :
    ∀ next ∈ units.head?, (isHigh unit && isLow next) = false := by
  intro next first
  by_cases low : isLow next = true
  · obtain ⟨a, b, c, d, rest, shape, -⟩ := spelled.opens_low first low
    exact (noEscape a b c d rest shape).elim
  · simp [low]

theorem not_isHigh_of_mem {c : Char} {unit : Nat} (known : (c, unit) ∈ letterEscapes '"') :
    isHigh unit = false := by
  have ascii := (letter?_of_mem known).2
  simp only [isHigh, Bool.and_eq_false_iff, decide_eq_false_iff_not]
  omega

/-! ## Decoding -/

/-- A character that is a backslash neither at the end of a text nor before another character is none. -/
theorem ne_backslash {c : Char} {rest : List Char}
    (noPair : ∀ next more, c = '\\' → rest = next :: more → False)
    (noEnd : c = '\\' → rest = [] → False) : c ≠ '\\' := by
  intro isBackslash
  cases rest with
  | nil => exact noEnd isBackslash rfl
  | cons next more => exact noPair next more isBackslash rfl

theorem fourHex?_digits {a b c d : Char} {unit : Nat} (hex : fourHex? a b c d = some unit) :
    ∀ digit ∈ [a, b, c, d], Text.isHex digit = true := by
  unfold fourHex? at hex
  simp only [bind, Option.bind_eq_some_iff] at hex
  obtain ⟨first, firstDigit, second, secondDigit, third, thirdDigit, fourth, fourthDigit, -⟩ := hex
  simp [Text.isHex, firstDigit, secondDigit, thirdDigit, fourthDigit]

theorem ne_of_isHex {digit c : Char} (hex : Text.isHex digit = true) (other : Text.isHex c = false) :
    digit ≠ c := by
  intro equal
  rw [equal, other] at hex
  contradiction

theorem Closed.of_unit {mark a b c d : Char} {unit : Nat} {rest : List Char}
    (hex : fourHex? a b c d = some unit)
    (closed : Closed mark ('\\' :: 'u' :: a :: b :: c :: d :: rest)) : Closed mark rest := by
  have digits := fourHex?_digits hex
  have noBackslash : ∀ digit ∈ [a, b, c, d], digit ≠ '\\' := fun digit member =>
    ne_of_isHex (digits digit member) (by decide)
  have afterA := (closed.of_escaped.of_cons (noBackslash a (by simp))).2.2
  have afterB := (afterA.of_cons (noBackslash b (by simp))).2.2
  have afterC := (afterB.of_cons (noBackslash c (by simp))).2.2
  exact (afterC.of_cons (noBackslash d (by simp))).2.2

theorem Closed.unit {mark a b c d : Char} {unit : Nat} {rest : List Char}
    (markNoDigit : Text.isHex mark = false) (hex : fourHex? a b c d = some unit)
    (closed : Closed mark rest) : Closed mark ('\\' :: 'u' :: a :: b :: c :: d :: rest) := by
  have digits := fourHex?_digits hex
  have stays : ∀ digit ∈ [a, b, c, d], digit ≠ mark ∧ digit ≠ '\\' ∧ digit ≠ '\n' := by
    intro digit member
    have isHex := digits digit member
    exact ⟨ne_of_isHex isHex markNoDigit, ne_of_isHex isHex (by decide),
      ne_of_isHex isHex (by decide)⟩
  obtain ⟨⟨a1, a2, a3⟩, ⟨b1, b2, b3⟩, ⟨c1, c2, c3⟩, ⟨d1, d2, d3⟩⟩ :
      (a ≠ mark ∧ a ≠ '\\' ∧ a ≠ '\n') ∧ (b ≠ mark ∧ b ≠ '\\' ∧ b ≠ '\n') ∧
        (c ≠ mark ∧ c ≠ '\\' ∧ c ≠ '\n') ∧ (d ≠ mark ∧ d ≠ '\\' ∧ d ≠ '\n') := by
    simpa using stays
  apply Closed.escaped (by decide)
  exact .plain a1 a2 a3 (.plain b1 b2 b3 (.plain c1 c2 c3 (.plain d1 d2 d3 closed)))

/-- What spells units between two marks is closed by neither of them. -/
theorem Spells.closed {mark : Char} (markNoDigit : Text.isHex mark = false) {body : List Char}
    {units : List Nat} (spelled : Spells mark body units) : Closed mark body := by
  induction spelled with
  | nil => exact .nil
  | plain notControl notMark notBackslash _ inductionHypothesis =>
      apply Closed.plain notMark notBackslash _ inductionHypothesis
      rintro rfl
      revert notControl
      decide
  | letter known _ inductionHypothesis =>
      apply Closed.escaped _ inductionHypothesis
      rintro rfl
      rcases letterEscapes_subset _ known with common | ⟨-, impossible, -⟩
      · have letter := (letter?_of_mem common).1
        have noLetter : letter? '\n' = none := by decide
        rw [noLetter] at letter
        contradiction
      · revert impossible
        decide
  | unit hex _ inductionHypothesis => exact inductionHypothesis.unit markNoDigit hex

private theorem cons_map_eq_ok {c : Char} {decoded : Except Escape.Fault (List Char)}
    {value : List Char} :
    (c :: ·) <$> decoded = .ok value ↔ ∃ inner, decoded = .ok inner ∧ c :: inner = value := by
  cases decoded <;> simp [Functor.map, Except.map]

/-- A body that decodes spells the units of its text. -/
theorem exists_spells_of_decode {body value : List Char} (closed : Closed '"' body)
    (decoded : decode body = .ok value) : ∃ units, Spells '"' body units ∧ ofUnits units = value := by
  -- one escape at a time: whether its unit opens a pair is settled by the escape after it
  fun_induction decode body generalizing value with
  | case1 => exact ⟨[], .nil, Except.ok.inj decoded⟩
  -- the refused bodies, which decode to nothing
  | case2 | case3 | case7 | case9 | case11 | case12 | case13 => contradiction
  -- a surrogate pair is two escapes of one character
  | case4 a b c d e f g h rest high hexHigh isHigh low hexLow isLow inductionHypothesis =>
      obtain ⟨inner, decodedRest, rfl⟩ := cons_map_eq_ok.mp decoded
      have closedRest := (closed.of_unit hexHigh).of_unit hexLow
      obtain ⟨units, spelled, rfl⟩ := inductionHypothesis closedRest decodedRest
      refine ⟨high :: low :: units, .unit hexHigh (.unit hexLow spelled), ?_⟩
      exact Text.ofUnits_pair (by simp [isHigh, isLow]) units
  | case5 a b c d e f g h rest high hexHigh _ low hexLow notLow inductionHypothesis =>
      obtain ⟨inner, decodedRest, rfl⟩ := cons_map_eq_ok.mp decoded
      obtain ⟨units, spelled, rfl⟩ := inductionHypothesis (closed.of_unit hexHigh) decodedRest
      refine ⟨high :: units, .unit hexHigh spelled, ?_⟩
      apply Text.ofUnits_cons_of_alone
      intro next first
      -- the next unit is the one of the second escape, which is no low surrogate
      by_cases low' : Escape.isLow next = true
      · obtain ⟨_, _, _, _, _, shape, hexNext⟩ := spelled.opens_low first low'
        simp only [List.cons.injEq, true_and] at shape
        obtain ⟨rfl, rfl, rfl, rfl, -⟩ := shape
        rw [hexLow] at hexNext
        rw [Option.some.inj hexNext] at notLow
        contradiction
      · simp [low']
  | case6 a b c d e f g h rest unit hex notHigh inductionHypothesis =>
      obtain ⟨inner, decodedRest, rfl⟩ := cons_map_eq_ok.mp decoded
      obtain ⟨units, spelled, rfl⟩ := inductionHypothesis (closed.of_unit hex) decodedRest
      refine ⟨unit :: units, .unit hex spelled, ?_⟩
      apply Text.ofUnits_cons_of_alone
      intro next _
      simp [notHigh]
  -- no escape of four digits follows, so the unit is alone whatever it is
  | case8 a b c d rest noEscape unit hex inductionHypothesis =>
      obtain ⟨inner, decodedRest, rfl⟩ := cons_map_eq_ok.mp decoded
      obtain ⟨units, spelled, rfl⟩ := inductionHypothesis (closed.of_unit hex) decodedRest
      refine ⟨unit :: units, .unit hex spelled, ?_⟩
      exact Text.ofUnits_cons_of_alone (spelled.alone noEscape unit)
  | case10 c rest _ _ _ letter known inductionHypothesis =>
      obtain ⟨inner, decodedRest, rfl⟩ := cons_map_eq_ok.mp decoded
      obtain ⟨units, spelled, rfl⟩ := inductionHypothesis closed.of_escaped decodedRest
      obtain ⟨unit, listed, rfl⟩ := mem_letterEscapes_of_letter? known
      refine ⟨unit :: units, .letter listed spelled, ?_⟩
      apply Text.ofUnits_cons_of_alone
      intro next _
      rw [not_isHigh_of_mem listed, Bool.false_and]
  | case14 c rest _ _ _ noPair noEnd notControl inductionHypothesis =>
      obtain ⟨inner, decodedRest, rfl⟩ := cons_map_eq_ok.mp decoded
      have notBackslash := ne_backslash noPair noEnd
      obtain ⟨notMark, -, closedRest⟩ := closed.of_cons notBackslash
      obtain ⟨units, spelled, rfl⟩ := inductionHypothesis closedRest decodedRest
      refine ⟨codeUnits c.toNat ++ units, .plain (by omega) notMark notBackslash spelled, ?_⟩
      exact Text.ofUnits_codeUnits_append c units

theorem Spells.exists_digits {mark : Char} {tail : List Char} {units : List Nat}
    (spelled : Spells mark ('\\' :: 'u' :: tail) units) :
    ∃ a b c d rest, tail = a :: b :: c :: d :: rest := by
  cases spelled with
  | plain _ _ notBackslash => exact absurd rfl notBackslash
  | letter known => exact absurd known (not_mem_letterEscapes_u mark _)
  | unit => exact ⟨_, _, _, _, _, rfl⟩

theorem Spells.exists_unit {mark a b c d : Char} {rest : List Char} {units : List Nat}
    (spelled : Spells mark ('\\' :: 'u' :: a :: b :: c :: d :: rest) units) :
    ∃ unit others, fourHex? a b c d = some unit ∧ units = unit :: others ∧
      Spells mark rest others := by
  cases spelled with
  | plain _ _ notBackslash => exact absurd rfl notBackslash
  | letter known => exact absurd known (not_mem_letterEscapes_u mark _)
  | unit hex others => exact ⟨_, _, hex, rfl, others⟩

theorem Spells.of_unit {mark a b c d : Char} {unit : Nat} {rest : List Char} {units : List Nat}
    (hex : fourHex? a b c d = some unit)
    (spelled : Spells mark ('\\' :: 'u' :: a :: b :: c :: d :: rest) units) :
    ∃ others, units = unit :: others ∧ Spells mark rest others := by
  obtain ⟨own, others, ownHex, rfl, spelledRest⟩ := spelled.exists_unit
  have same : unit = own := Option.some.inj (hex.symm.trans ownHex)
  rw [same]
  exact ⟨others, rfl, spelledRest⟩

theorem Spells.of_letter {mark c : Char} {rest : List Char} {units : List Nat} (notUnit : c ≠ 'u')
    (spelled : Spells mark ('\\' :: c :: rest) units) :
    ∃ unit others, (c, unit) ∈ letterEscapes mark ∧ units = unit :: others ∧
      Spells mark rest others := by
  cases spelled with
  | plain _ _ notBackslash => exact absurd rfl notBackslash
  | letter known others => exact ⟨_, _, known, rfl, others⟩
  | unit => exact absurd rfl notUnit

theorem Spells.of_plain {mark c : Char} {rest : List Char} {units : List Nat}
    (notBackslash : c ≠ '\\') (spelled : Spells mark (c :: rest) units) :
    0x20 ≤ c.toNat ∧ ∃ others, units = codeUnits c.toNat ++ others ∧ Spells mark rest others := by
  cases spelled with
  | plain notControl _ _ others => exact ⟨notControl, _, rfl, others⟩
  | letter => exact absurd rfl notBackslash
  | unit => exact absurd rfl notBackslash

/-- Every body that spells units decodes to their text. -/
theorem decode_of_spells {body : List Char} {units : List Nat} (spelled : Spells '"' body units) :
    decode body = .ok (ofUnits units) := by
  -- the refused bodies spell nothing: an escape of them has no four digits, or no known letter
  fun_induction decode body generalizing units with
  | case1 =>
      cases spelled
      rfl
  | case2 a b c d e f g h rest noHex =>
      obtain ⟨unit, others, hex, -, -⟩ := spelled.exists_unit
      rw [noHex] at hex
      contradiction
  | case3 a b c d e f g h rest high hexHigh _ noHex =>
      obtain ⟨others, -, spelledRest⟩ := spelled.of_unit hexHigh
      obtain ⟨unit, more, hex, -, -⟩ := spelledRest.exists_unit
      rw [noHex] at hex
      contradiction
  | case4 a b c d e f g h rest high hexHigh isHigh low hexLow isLow inductionHypothesis =>
      obtain ⟨others, rfl, spelledRest⟩ := spelled.of_unit hexHigh
      obtain ⟨more, rfl, spelledMore⟩ := spelledRest.of_unit hexLow
      rw [inductionHypothesis spelledMore, Text.ofUnits_pair (by simp [isHigh, isLow])]
      rfl
  | case5 a b c d e f g h rest high hexHigh _ low hexLow notLow inductionHypothesis =>
      obtain ⟨others, rfl, spelledRest⟩ := spelled.of_unit hexHigh
      obtain ⟨more, rfl, -⟩ := spelledRest.of_unit hexLow
      have alone : (Escape.isHigh high && Escape.isLow low) = false := by simp [notLow]
      rw [inductionHypothesis spelledRest, Text.ofUnits, alone]
      rfl
  | case6 a b c d e f g h rest unit hex notHigh inductionHypothesis =>
      obtain ⟨others, rfl, spelledRest⟩ := spelled.of_unit hex
      rw [inductionHypothesis spelledRest, Text.ofUnits_cons_of_alone (by simp [notHigh])]
      rfl
  | case7 a b c d rest _ noHex =>
      obtain ⟨unit, others, hex, -, -⟩ := spelled.exists_unit
      rw [noHex] at hex
      contradiction
  | case8 a b c d rest noEscape unit hex inductionHypothesis =>
      obtain ⟨others, rfl, spelledRest⟩ := spelled.of_unit hex
      rw [inductionHypothesis spelledRest,
        Text.ofUnits_cons_of_alone (spelledRest.alone noEscape unit)]
      rfl
  | case9 tail _ noDigits =>
      obtain ⟨a, b, c, d, rest, shape⟩ := spelled.exists_digits
      exact (noDigits a b c d rest shape).elim
  | case10 c rest _ _ notUnit letter known inductionHypothesis =>
      obtain ⟨unit, others, listed, rfl, spelledRest⟩ := spelled.of_letter notUnit
      have isLetter : letter = unitChar unit :=
        Option.some.inj (known.symm.trans (letter?_of_mem listed).1)
      have notHigh := not_isHigh_of_mem listed
      rw [inductionHypothesis spelledRest, Text.ofUnits_cons_of_alone (by simp [notHigh]), isLetter]
      rfl
  | case11 c rest _ _ notUnit unknown =>
      obtain ⟨unit, others, listed, -, -⟩ := spelled.of_letter notUnit
      rw [(letter?_of_mem listed).1] at unknown
      contradiction
  | case12 =>
      cases spelled with
      | plain _ _ notBackslash => exact absurd rfl notBackslash
  | case13 c rest _ _ _ noPair noEnd control =>
      have notBackslash := ne_backslash noPair noEnd
      have notControl := (spelled.of_plain notBackslash).1
      omega
  | case14 c rest _ _ _ noPair noEnd _ inductionHypothesis =>
      have notBackslash := ne_backslash noPair noEnd
      obtain ⟨-, others, rfl, spelledRest⟩ := spelled.of_plain notBackslash
      rw [inductionHypothesis spelledRest, Text.ofUnits_codeUnits_append]
      rfl

end DeclaredOptions.Literal
