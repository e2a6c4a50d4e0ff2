import DeclaredOptions.Literal.Numeral
import Mathlib.Data.List.TakeWhile

/-!
Contract: the grammar of numerals, as a grammar.

Owns:
- the texts that are numerals, by their parts: sign, radix prefix, point and exponent;
- the recognizer, which accepts these texts and no others;
- the characters that numerals begin with, and those that they hold.

Does not own: the values of numerals.
-/

set_option autoImplicit false

namespace DeclaredOptions.Numeral

/-! ## The grammar -/

/-- A text of one character or more, all of one class. -/
def IsRun (p : Char → Bool) (text : List Char) : Prop := text ≠ [] ∧ ∀ c ∈ text, p c = true

def isOctal (c : Char) : Bool := 0x30 ≤ c.toNat && c.toNat ≤ 0x37

def isBinary (c : Char) : Bool := 0x30 ≤ c.toNat && c.toNat ≤ 0x31

/-- A whole number with a radix prefix, in base sixteen, eight or two. -/
inductive Radix : List Char → Prop where
  | hexadecimal {letter : Char} {digits : List Char} (isPrefix : letter = 'x' ∨ letter = 'X')
      (run : IsRun Text.isHex digits) : Radix ('0' :: letter :: digits)
  | octal {letter : Char} {digits : List Char} (isPrefix : letter = 'o' ∨ letter = 'O')
      (run : IsRun isOctal digits) : Radix ('0' :: letter :: digits)
  | binary {letter : Char} {digits : List Char} (isPrefix : letter = 'b' ∨ letter = 'B')
      (run : IsRun isBinary digits) : Radix ('0' :: letter :: digits)

inductive Sign : List Char → Prop where
  | absent : Sign []
  | plus : Sign ['+']
  | minus : Sign ['-']

inductive Exponent : List Char → Prop where
  | absent : Exponent []
  | present {mark : Char} {sign digits : List Char} (isMark : mark = 'e' ∨ mark = 'E')
      (signed : Sign sign) (run : IsRun Text.isDecimal digits) : Exponent (mark :: (sign ++ digits))

/-- Decimal digits of any script, or such digits before or after a point. -/
inductive Mantissa : List Char → Prop where
  | whole {digits : List Char} (run : IsRun Text.isDecimal digits) : Mantissa digits
  | pointed {whole fraction : List Char} (wholeDigits : ∀ c ∈ whole, Text.isDecimal c = true)
      (fractionDigits : ∀ c ∈ fraction, Text.isDecimal c = true)
      (someDigit : whole ≠ [] ∨ fraction ≠ []) : Mantissa (whole ++ '.' :: fraction)

/-- A numeral: a sign or none, then a radix-prefixed whole number, or a mantissa and its exponent. -/
inductive Spelled : List Char → Prop where
  | radix {sign body : List Char} (signed : Sign sign) (radix : Radix body) : Spelled (sign ++ body)
  | decimal {sign mantissa exponent : List Char} (signed : Sign sign) (digits : Mantissa mantissa)
      (power : Exponent exponent) : Spelled (sign ++ (mantissa ++ exponent))

/-! ## Runs of digits -/

theorem takeDigits_eq (digit? : Char → Option Nat) (text : List Char) :
    takeDigits digit? text =
      ((text.takeWhile fun c => (digit? c).isSome).filterMap digit?,
        text.dropWhile fun c => (digit? c).isSome) := by
  induction text with
  | nil => rfl
  | cons c rest inductionHypothesis =>
      unfold takeDigits
      cases known : digit? c with
      | none => simp [known]
      | some digit => simp [known, inductionHypothesis]

theorem exists_run (digit? : Char → Option Nat) (text : List Char) :
    ∃ digits rest, text = digits ++ rest ∧ (∀ c ∈ digits, (digit? c).isSome = true) ∧
      ∀ c ∈ rest.head?, digit? c = none := by
  refine ⟨text.takeWhile fun c => (digit? c).isSome, text.dropWhile fun c => (digit? c).isSome,
    (List.takeWhile_append_dropWhile).symm, ?_, ?_⟩
  · intro c member
    exact List.mem_takeWhile_imp (p := fun c => (digit? c).isSome) member
  · intro c first
    have stopped := List.head?_dropWhile_not (fun c => (digit? c).isSome) text
    rw [Option.mem_def.mp first] at stopped
    simpa using stopped

theorem takeDigits_append {digit? : Char → Option Nat} {digits rest : List Char}
    (all : ∀ c ∈ digits, (digit? c).isSome = true) (stops : ∀ c ∈ rest.head?, digit? c = none) :
    takeDigits digit? (digits ++ rest) = (digits.filterMap digit?, rest) := by
  rw [takeDigits_eq, List.takeWhile_append_of_pos all, List.dropWhile_append_of_pos all]
  cases rest with
  | nil => simp
  | cons c more =>
      have stopped := stops c rfl
      simp [stopped]

theorem filterMap_isEmpty {digit? : Char → Option Nat} {digits : List Char}
    (all : ∀ c ∈ digits, (digit? c).isSome = true) :
    (digits.filterMap digit?).isEmpty = digits.isEmpty := by
  cases digits with
  | nil => rfl
  | cons c rest =>
      obtain ⟨digit, known⟩ := Option.isSome_iff_exists.mp (all c List.mem_cons_self)
      simp [known]

/-! ## The recognizer -/

theorem hexValue?_eq_some_iff {c : Char} {value : Nat} :
    Text.hexValue? c = some value ↔
      0x30 ≤ c.toNat ∧ c.toNat ≤ 0x39 ∧ value = c.toNat - 0x30 ∨
      0x61 ≤ c.toNat ∧ c.toNat ≤ 0x66 ∧ value = c.toNat - 0x57 ∨
      0x41 ≤ c.toNat ∧ c.toNat ≤ 0x46 ∧ value = c.toNat - 0x37 := by
  unfold Text.hexValue?
  simp only [Bool.and_eq_true, decide_eq_true_eq]
  constructor
  · intro known
    split at known
    · have shape := Option.some.inj known
      omega
    · split at known
      · have shape := Option.some.inj known
        omega
      · split at known
        · have shape := Option.some.inj known
          omega
        · contradiction
  · rintro (⟨low, high, rfl⟩ | ⟨low, high, rfl⟩ | ⟨low, high, rfl⟩)
    · rw [if_pos (by omega)]
    · rw [if_neg (by omega), if_pos (by omega)]
    · rw [if_neg (by omega), if_neg (by omega), if_pos (by omega)]

theorem digitBelow?_isSome_iff {base : Nat} {c : Char} :
    (digitBelow? base c).isSome = true ↔ ∃ value, Text.hexValue? c = some value ∧ value < base := by
  unfold digitBelow?
  rw [Option.isSome_iff_exists]
  simp only [Option.filter_eq_some_iff, decide_eq_true_eq]

theorem digitBelow?_sixteen (c : Char) : (digitBelow? 16 c).isSome = Text.isHex c := by
  rw [Bool.eq_iff_iff, digitBelow?_isSome_iff, Text.isHex, Option.isSome_iff_exists]
  constructor
  · rintro ⟨value, known, -⟩
    exact ⟨value, known⟩
  · rintro ⟨value, known⟩
    have ranges := hexValue?_eq_some_iff.mp known
    exact ⟨value, known, by omega⟩

theorem digitBelow?_of_le_ten {base : Nat} (atMostTen : base ≤ 10) (c : Char) :
    (digitBelow? base c).isSome = true ↔ 0x30 ≤ c.toNat ∧ c.toNat < 0x30 + base := by
  rw [digitBelow?_isSome_iff]
  constructor
  · rintro ⟨value, known, below⟩
    have ranges := hexValue?_eq_some_iff.mp known
    omega
  · rintro ⟨low, high⟩
    have known : Text.hexValue? c = some (c.toNat - 0x30) :=
      hexValue?_eq_some_iff.mpr (.inl ⟨low, by omega, rfl⟩)
    exact ⟨c.toNat - 0x30, known, by omega⟩

theorem digitBelow?_eight (c : Char) : (digitBelow? 8 c).isSome = isOctal c := by
  rw [Bool.eq_iff_iff, digitBelow?_of_le_ten (by decide), isOctal, Bool.and_eq_true,
    decide_eq_true_eq, decide_eq_true_eq]
  omega

theorem digitBelow?_two (c : Char) : (digitBelow? 2 c).isSome = isBinary c := by
  rw [Bool.eq_iff_iff, digitBelow?_of_le_ten (by decide), isBinary, Bool.and_eq_true,
    decide_eq_true_eq, decide_eq_true_eq]
  omega

/-- The digits that are taken are a run of their class, if nothing is left. -/
theorem takeDigits_run_iff {digit? : Char → Option Nat} {p : Char → Bool}
    (sameClass : ∀ c, (digit? c).isSome = p c) {text : List Char} :
    (∃ value values, takeDigits digit? text = (value :: values, [])) ↔ IsRun p text := by
  constructor
  · rintro ⟨value, values, taken⟩
    obtain ⟨digits, rest, rfl, all, stops⟩ := exists_run digit? text
    rw [takeDigits_append all stops, Prod.mk.injEq] at taken
    obtain ⟨digitValues, rfl⟩ := taken
    rw [List.append_nil]
    refine ⟨?_, fun c member => ?_⟩
    · rintro rfl
      contradiction
    · rw [← sameClass]
      exact all c member
  · rintro ⟨nonempty, all⟩
    have digits : ∀ c ∈ text, (digit? c).isSome = true := by
      intro c member
      rw [sameClass]
      exact all c member
    have taken := @takeDigits_append digit? text [] digits (by simp)
    rw [List.append_nil] at taken
    cases shape : text.filterMap digit? with
    | nil =>
        have sameEmpty := filterMap_isEmpty digits
        rw [shape] at sameEmpty
        exact absurd (List.isEmpty_iff.mp sameEmpty.symm) nonempty
    | cons value values => exact ⟨value, values, by rw [taken, shape]⟩

theorem base?_eq_some_iff {letter : Char} {base : Nat} :
    base? letter = some base ↔
      (letter = 'x' ∨ letter = 'X') ∧ base = 16 ∨ (letter = 'o' ∨ letter = 'O') ∧ base = 8 ∨
        (letter = 'b' ∨ letter = 'B') ∧ base = 2 := by
  constructor
  · intro known
    unfold base? at known
    simp only [Bool.or_eq_true, beq_iff_eq] at known
    split_ifs at known with isHex isOctal isBinary
    · exact .inl ⟨isHex, (Option.some.inj known).symm⟩
    · exact .inr (.inl ⟨isOctal, (Option.some.inj known).symm⟩)
    · exact .inr (.inr ⟨isBinary, (Option.some.inj known).symm⟩)
  · rintro (⟨rfl | rfl, rfl⟩ | ⟨rfl | rfl, rfl⟩ | ⟨rfl | rfl, rfl⟩) <;> rfl

/-- The letter of a radix prefix goes on with no decimal numeral. -/
theorem letter_of_base? {letter : Char} {base : Nat} (known : base? letter = some base) :
    Text.isDecimal letter = false ∧ letter ∉ ['.', 'e', 'E'] := by
  rcases base?_eq_some_iff.mp known with ⟨rfl | rfl, -⟩ | ⟨rfl | rfl, -⟩ | ⟨rfl | rfl, -⟩
  all_goals decide

theorem radix?_cons_isSome_iff {letter : Char} {rest : List Char} :
    (radix? ('0' :: letter :: rest)).isSome = true ↔
      ∃ base, base? letter = some base ∧
        ∃ value values, takeDigits (digitBelow? base) rest = (value :: values, []) := by
  unfold radix?
  simp only [bind]
  cases base? letter with
  | none => simp
  | some base =>
      rcases taken : takeDigits (digitBelow? base) rest with ⟨values, left⟩
      cases values <;> cases left <;> simp [taken]

theorem radix?_isSome_iff {text : List Char} : (radix? text).isSome = true ↔ Radix text := by
  constructor
  · intro accepted
    have shape : ∃ letter rest, text = '0' :: letter :: rest := by
      unfold radix? at accepted
      split at accepted
      · exact ⟨_, _, rfl⟩
      · contradiction
    obtain ⟨letter, rest, rfl⟩ := shape
    obtain ⟨base, known, run⟩ := radix?_cons_isSome_iff.mp accepted
    rcases base?_eq_some_iff.mp known with ⟨isPrefix, rfl⟩ | ⟨isPrefix, rfl⟩ | ⟨isPrefix, rfl⟩
    · exact .hexadecimal isPrefix ((takeDigits_run_iff digitBelow?_sixteen).mp run)
    · exact .octal isPrefix ((takeDigits_run_iff digitBelow?_eight).mp run)
    · exact .binary isPrefix ((takeDigits_run_iff digitBelow?_two).mp run)
  · intro radix
    cases radix with
    | hexadecimal isPrefix run =>
        exact radix?_cons_isSome_iff.mpr ⟨16, base?_eq_some_iff.mpr (.inl ⟨isPrefix, rfl⟩),
          (takeDigits_run_iff digitBelow?_sixteen).mpr run⟩
    | octal isPrefix run =>
        exact radix?_cons_isSome_iff.mpr ⟨8, base?_eq_some_iff.mpr (.inr (.inl ⟨isPrefix, rfl⟩)),
          (takeDigits_run_iff digitBelow?_eight).mpr run⟩
    | binary isPrefix run =>
        exact radix?_cons_isSome_iff.mpr ⟨2, base?_eq_some_iff.mpr (.inr (.inr ⟨isPrefix, rfl⟩)),
          (takeDigits_run_iff digitBelow?_two).mpr run⟩

theorem ne_of_isDecimal {digit c : Char} (decimal : Text.isDecimal digit = true)
    (other : Text.isDecimal c = false) : digit ≠ c := by
  intro equal
  rw [equal, other] at decimal
  contradiction

theorem splitSign_append {sign body : List Char} (signed : Sign sign)
    (unsigned : ∀ c ∈ body.head?, c ≠ '+' ∧ c ≠ '-') :
    splitSign (sign ++ body) = (sign == ['-'], body) := by
  cases signed with
  | plus => rfl
  | minus => rfl
  | absent =>
      rw [List.nil_append]
      cases body with
      | nil => rfl
      | cons c rest =>
          obtain ⟨notPlus, notMinus⟩ := unsigned c rfl
          unfold splitSign
          split
          · exact absurd (List.cons.inj ‹_›).1 notPlus
          · exact absurd (List.cons.inj ‹_›).1 notMinus
          · rfl

theorem sign_unique {sign other body rest : List Char} (isSign : Sign sign) (isOther : Sign other)
    (unsigned : ∀ c ∈ body.head?, c ≠ '+' ∧ c ≠ '-') (unsignedRest : ∀ c ∈ rest.head?, c ≠ '+' ∧ c ≠ '-')
    (same : sign ++ body = other ++ rest) : sign = other ∧ body = rest := by
  have sameBody : body = rest := by
    have split := congrArg Prod.snd (congrArg splitSign same)
    rwa [splitSign_append isSign unsigned, splitSign_append isOther unsignedRest] at split
  subst sameBody
  exact ⟨List.append_cancel_right same, rfl⟩

theorem exists_sign (text : List Char) : ∃ sign, Sign sign ∧ text = sign ++ (splitSign text).2 := by
  unfold splitSign
  split
  · exact ⟨['+'], .plus, rfl⟩
  · exact ⟨['-'], .minus, rfl⟩
  · exact ⟨[], .absent, rfl⟩

theorem unsigned_of_isRun {digits : List Char} (run : IsRun Text.isDecimal digits) :
    ∀ c ∈ digits.head?, c ≠ '+' ∧ c ≠ '-' := by
  intro c first
  have decimal := run.2 c (List.mem_of_mem_head? first)
  exact ⟨ne_of_isDecimal decimal (by decide), ne_of_isDecimal decimal (by decide)⟩

theorem exponent?_cons_isSome_iff {mark : Char} {rest : List Char} :
    (exponent? (mark :: rest)).isSome = true ↔
      (mark = 'e' ∨ mark = 'E') ∧ IsRun Text.isDecimal (splitSign rest).2 := by
  have sameClass : ∀ c, (Text.decimalValue? c).isSome = Text.isDecimal c := fun _ => rfl
  rw [← takeDigits_run_iff sameClass]
  by_cases isMark : mark = 'e' ∨ mark = 'E'
  · rcases taken : takeDigits Text.decimalValue? (splitSign rest).2 with ⟨values, left⟩
    have read : (exponent? (mark :: rest)).isSome = (!values.isEmpty && left.isEmpty) := by
      rcases isMark with rfl | rfl
      all_goals
        simp only [exponent?, taken]
        cases values <;> cases left <;> rfl
    rw [read]
    cases values <;> cases left <;> simp [isMark]
  · rw [not_or] at isMark
    have refused : exponent? (mark :: rest) = none := by simp [exponent?, isMark]
    simp [refused, isMark]

theorem exponent?_isSome_iff {text : List Char} :
    (exponent? text).isSome = true ↔ Exponent text := by
  cases text with
  | nil =>
      constructor
      · intro _
        exact .absent
      · intro _
        rfl
  | cons mark rest =>
      rw [exponent?_cons_isSome_iff]
      constructor
      · rintro ⟨isMark, run⟩
        obtain ⟨sign, isSign, shape⟩ := exists_sign rest
        rw [shape]
        exact .present isMark isSign run
      · intro exponent
        cases exponent with
        | present isMark isSign run =>
            rw [splitSign_append isSign (unsigned_of_isRun run)]
            exact ⟨isMark, run⟩

theorem decimal?_of_pointed {whole fraction rest : List Char}
    (wholeDigits : ∀ c ∈ whole, Text.isDecimal c = true)
    (fractionDigits : ∀ c ∈ fraction, Text.isDecimal c = true)
    (stops : ∀ c ∈ rest.head?, Text.decimalValue? c = none) :
    (decimal? (whole ++ '.' :: (fraction ++ rest))).isSome = true ↔
      (whole ≠ [] ∨ fraction ≠ []) ∧ (exponent? rest).isSome = true := by
  have stopsAtPoint : ∀ c ∈ ('.' :: (fraction ++ rest)).head?, Text.decimalValue? c = none := by
    intro c first
    rw [← Option.some.inj first]
    decide
  have takenWhole := takeDigits_append wholeDigits stopsAtPoint
  have takenFraction := takeDigits_append fractionDigits stops
  have sameWhole := filterMap_isEmpty wholeDigits
  have sameFraction := filterMap_isEmpty fractionDigits
  unfold decimal?
  rw [takenWhole]
  simp only [takenFraction, sameWhole, sameFraction]
  cases whole <;> cases fraction <;> simp

theorem decimal?_of_whole {whole rest : List Char}
    (wholeDigits : ∀ c ∈ whole, Text.isDecimal c = true)
    (stops : ∀ c ∈ rest.head?, Text.decimalValue? c = none) (noPoint : rest.head? ≠ some '.') :
    (decimal? (whole ++ rest)).isSome = true ↔ whole ≠ [] ∧ (exponent? rest).isSome = true := by
  have taken := takeDigits_append wholeDigits stops
  have sameWhole := filterMap_isEmpty wholeDigits
  unfold decimal?
  rw [taken]
  cases rest with
  | nil => cases whole <;> simp [sameWhole]
  | cons c more =>
      have otherMark : c ≠ '.' := fun equal => noPoint (by rw [equal]; rfl)
      split
      · rename_i shape
        exact absurd (List.cons.inj (Prod.mk.inj shape).2).1 otherMark
      · rename_i shape
        obtain ⟨rfl, rfl⟩ := Prod.mk.inj shape
        rw [sameWhole]
        cases whole <;> simp

theorem exponent_stops {text : List Char} (exponent : Exponent text) :
    (∀ c ∈ text.head?, Text.decimalValue? c = none) ∧ text.head? ≠ some '.' := by
  cases exponent with
  | absent => simp
  | present isMark _ _ =>
      simp only [List.head?_cons, Option.mem_some_iff, forall_eq', Option.some.injEq, ne_eq]
      rcases isMark with rfl | rfl <;> decide

inductive Decimal (text : List Char) : Prop where
  | intro {mantissa exponent : List Char} (shape : text = mantissa ++ exponent)
      (digits : Mantissa mantissa) (power : Exponent exponent)

theorem decimal?_isSome_iff {text : List Char} : (decimal? text).isSome = true ↔ Decimal text := by
  constructor
  · intro accepted
    obtain ⟨whole, rest, rfl, wholeDigits, stops⟩ := exists_run Text.decimalValue? text
    by_cases point : rest.head? = some '.'
    · obtain ⟨afterPoint, rfl⟩ := List.head?_eq_some_iff.mp point
      obtain ⟨fraction, last, rfl, fractionDigits, lastStops⟩ :=
        exists_run Text.decimalValue? afterPoint
      obtain ⟨someDigit, power⟩ := (decimal?_of_pointed wholeDigits fractionDigits lastStops).mp
        accepted
      refine ⟨?_, .pointed wholeDigits fractionDigits someDigit, exponent?_isSome_iff.mp power⟩
      simp
    · obtain ⟨someDigit, power⟩ := (decimal?_of_whole wholeDigits stops point).mp accepted
      exact ⟨rfl, .whole ⟨someDigit, wholeDigits⟩, exponent?_isSome_iff.mp power⟩
  · rintro ⟨rfl, digits, power⟩
    obtain ⟨stops, noPoint⟩ := exponent_stops power
    have accepted := exponent?_isSome_iff.mpr power
    cases digits with
    | whole run => exact (decimal?_of_whole run.2 stops noPoint).mpr ⟨run.1, accepted⟩
    | pointed wholeDigits fractionDigits someDigit =>
        rw [List.append_assoc, List.cons_append]
        exact (decimal?_of_pointed wholeDigits fractionDigits stops).mpr ⟨someDigit, accepted⟩

/-! ## Signs -/

/-- The characters that an unsigned numeral begins with. -/
def isOpening (c : Char) : Bool := Text.isDecimal c || c == '.'

theorem head_of_radix {text : List Char} (radix : Radix text) : text.head? = some '0' := by
  cases radix <;> rfl

theorem head_of_decimal {text : List Char} (decimal : Decimal text) :
    ∃ c, text.head? = some c ∧ isOpening c = true := by
  obtain ⟨rfl, digits, power⟩ := decimal
  cases digits with
  | whole run =>
      obtain ⟨c, rest, rfl⟩ := List.exists_cons_of_ne_nil run.1
      have isDigit := run.2 c List.mem_cons_self
      exact ⟨c, rfl, by simp [isOpening, isDigit]⟩
  | @pointed whole fraction wholeDigits _ _ =>
      cases whole with
      | nil => exact ⟨'.', rfl, by simp [isOpening]⟩
      | cons c rest =>
          have isDigit := wholeDigits c List.mem_cons_self
          exact ⟨c, rfl, by simp [isOpening, isDigit]⟩

theorem head_of_body {body : List Char} (spelled : Radix body ∨ Decimal body) :
    ∃ c, body.head? = some c ∧ isOpening c = true := by
  rcases spelled with radix | decimal
  · exact ⟨'0', head_of_radix radix, by decide⟩
  · exact head_of_decimal decimal

theorem unsigned_of_body {body : List Char} (spelled : Radix body ∨ Decimal body) :
    ∀ c ∈ body.head?, c ≠ '+' ∧ c ≠ '-' := by
  intro c first
  obtain ⟨opening, isHead, opens⟩ := head_of_body spelled
  rw [isHead] at first
  rw [← Option.some.inj first]
  constructor
  · rintro rfl
    revert opens
    decide
  · rintro rfl
    revert opens
    decide

theorem spelled_iff {text : List Char} :
    Spelled text ↔ ∃ sign body, Sign sign ∧ text = sign ++ body ∧ (Radix body ∨ Decimal body) := by
  constructor
  · intro spelled
    cases spelled with
    | radix signed radix => exact ⟨_, _, signed, rfl, .inl radix⟩
    | decimal signed digits power => exact ⟨_, _, signed, rfl, .inr ⟨rfl, digits, power⟩⟩
  · rintro ⟨sign, body, signed, rfl, radix | ⟨rfl, digits, power⟩⟩
    · exact .radix signed radix
    · exact .decimal signed digits power

/-- The recognizer accepts exactly the numerals of the grammar. -/
theorem isNumeral_iff {text : List Char} : isNumeral text = true ↔ Spelled text := by
  have recognized : isNumeral text = true ↔
      Radix (splitSign text).2 ∨ Decimal (splitSign text).2 := by
    rw [← radix?_isSome_iff, ← decimal?_isSome_iff]
    simp [isNumeral, read?]
  rw [recognized, spelled_iff]
  constructor
  · intro spelled
    obtain ⟨sign, signed, shape⟩ := exists_sign text
    exact ⟨sign, _, signed, shape, spelled⟩
  · rintro ⟨sign, body, signed, rfl, spelled⟩
    rw [splitSign_append signed (unsigned_of_body spelled)]
    exact spelled

/-- A numeral begins with a sign, a decimal digit or a point. -/
theorem head_of_spelled {text : List Char} (spelled : Spelled text) :
    ∃ c, text.head? = some c ∧ (c = '+' ∨ c = '-' ∨ isOpening c = true) := by
  obtain ⟨sign, body, signed, rfl, isBody⟩ := spelled_iff.mp spelled
  cases signed with
  | plus => exact ⟨'+', rfl, .inl rfl⟩
  | minus => exact ⟨'-', rfl, .inr (.inl rfl)⟩
  | absent =>
      obtain ⟨c, isHead, opens⟩ := head_of_body isBody
      exact ⟨c, isHead, .inr (.inr opens)⟩

/-! ## The characters of numerals -/

def isInner (c : Char) : Bool := Text.isDecimal c || Text.isHex c || "+-.xXoO".toList.contains c

theorem isInner_of_isDecimal {c : Char} (decimal : Text.isDecimal c = true) : isInner c = true := by
  simp [isInner, decimal]

theorem isInner_of_isHex {c : Char} (hex : Text.isHex c = true) : isInner c = true := by
  simp [isInner, hex]

theorem isHex_of_isOctal {c : Char} (octal : isOctal c = true) : Text.isHex c = true := by
  simp only [isOctal, Bool.and_eq_true, decide_eq_true_eq] at octal
  have known : Text.hexValue? c = some (c.toNat - 0x30) :=
    hexValue?_eq_some_iff.mpr (.inl ⟨octal.1, by omega, rfl⟩)
  rw [Text.isHex, known]
  rfl

theorem isOctal_of_isBinary {c : Char} (binary : isBinary c = true) : isOctal c = true := by
  simp only [isBinary, isOctal, Bool.and_eq_true, decide_eq_true_eq] at binary ⊢
  omega

theorem inner_of_sign {sign : List Char} (signed : Sign sign) : ∀ c ∈ sign, isInner c = true := by
  have inner : sign.all isInner = true := by cases signed <;> decide
  exact List.all_eq_true.mp inner

theorem inner_of_radix {body : List Char} (radix : Radix body) : ∀ c ∈ body, isInner c = true := by
  cases radix with
  | hexadecimal isPrefix run =>
      rw [List.forall_mem_cons, List.forall_mem_cons]
      refine ⟨by decide, ?_, fun c member => isInner_of_isHex (run.2 c member)⟩
      rcases isPrefix with rfl | rfl <;> decide
  | octal isPrefix run =>
      rw [List.forall_mem_cons, List.forall_mem_cons]
      refine ⟨by decide, ?_, fun c member => isInner_of_isHex (isHex_of_isOctal (run.2 c member))⟩
      rcases isPrefix with rfl | rfl <;> decide
  | binary isPrefix run =>
      rw [List.forall_mem_cons, List.forall_mem_cons]
      refine ⟨by decide, ?_, fun c member =>
        isInner_of_isHex (isHex_of_isOctal (isOctal_of_isBinary (run.2 c member)))⟩
      rcases isPrefix with rfl | rfl <;> decide

theorem inner_of_mantissa {mantissa : List Char} (digits : Mantissa mantissa) :
    ∀ c ∈ mantissa, isInner c = true := by
  cases digits with
  | whole run => exact fun c member => isInner_of_isDecimal (run.2 c member)
  | pointed wholeDigits fractionDigits _ =>
      intro c member
      rcases List.mem_append.mp member with inWhole | behind
      · exact isInner_of_isDecimal (wholeDigits c inWhole)
      · rcases List.mem_cons.mp behind with rfl | inFraction
        · decide
        · exact isInner_of_isDecimal (fractionDigits c inFraction)

theorem inner_of_exponent {exponent : List Char} (power : Exponent exponent) :
    ∀ c ∈ exponent, isInner c = true := by
  cases power with
  | absent => simp
  | present isMark signed run =>
      rw [List.forall_mem_cons]
      refine ⟨by rcases isMark with rfl | rfl <;> decide, ?_⟩
      intro c member
      rcases List.mem_append.mp member with inSign | inDigits
      · exact inner_of_sign signed c inSign
      · exact isInner_of_isDecimal (run.2 c inDigits)

theorem inner_of_spelled {text : List Char} (spelled : Spelled text) :
    ∀ c ∈ text, isInner c = true := by
  intro c member
  cases spelled with
  | radix signed radix =>
      rcases List.mem_append.mp member with inSign | inBody
      · exact inner_of_sign signed c inSign
      · exact inner_of_radix radix c inBody
  | decimal signed digits power =>
      rcases List.mem_append.mp member with inSign | behind
      · exact inner_of_sign signed c inSign
      · rcases List.mem_append.mp behind with inMantissa | inExponent
        · exact inner_of_mantissa digits c inMantissa
        · exact inner_of_exponent power c inExponent

end DeclaredOptions.Numeral
