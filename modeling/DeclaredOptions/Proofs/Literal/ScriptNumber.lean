import DeclaredOptions.Proofs.Literal.NumberValue
import Mathlib.Algebra.Order.Field.Rat
import Mathlib.Data.Rat.Cast.Defs

/-!
Contract: numbers of the scripts that modules are, against the numerals of sources.

Owns:
- the numeric literals of a script in strict mode, with the numbers that they denote;
- the whole numerals that are such literals, which denote in a script what they are worth in a source;
- the literals that are written for whole numerals.

Does not own: numerals with a point or an exponent.

## Where the grammars part

A whole numeral with a radix prefix is spelled alike in both. Decimal digits are not: a source takes those of any
script, with zeros before them, where a strict script takes ASCII digits and no zero before another digit. What a
script has on top, which is separators between digits and big integers, no numeral of a source can look like.

Numbers are compared as such. A script rounds the number of a literal to binary64 when it evaluates the literal.
-/

set_option autoImplicit false

namespace DeclaredOptions

/-! ## Numeric literals -/

namespace Script

open Numeral (Digits Sign base? digitBelow? letter_of_base?)

/-- Digits of a base with their values, where one underscore may stand between two digits. -/
inductive Separated (base : Nat) : List Char → List Nat → Prop where
  | last {c : Char} {value : Nat} (digit : digitBelow? base c = some value) :
      Separated base [c] [value]
  | next {c : Char} {value : Nat} {text : List Char} {values : List Nat}
      (digit : digitBelow? base c = some value) (others : Separated base text values) :
      Separated base (c :: text) (value :: values)
  | separated {c : Char} {value : Nat} {text : List Char} {values : List Nat}
      (digit : digitBelow? base c = some value) (others : Separated base text values) :
      Separated base (c :: '_' :: text) (value :: values)

/-- Decimal digits before a point. Strict scripts have no zero before other digits. -/
inductive Leading : List Char → List Nat → Prop where
  | zero : Leading ['0'] [0]
  | digits {text : List Char} {first : Nat} {others : List Nat}
      (separated : Separated 10 text (first :: others)) (noZero : first ≠ 0) :
      Leading text (first :: others)

/-- Decimal digits after a point, which may be missing behind others. -/
inductive Trailing : List Char → List Nat → Prop where
  | absent : Trailing [] []
  | digits {text : List Char} {values : List Nat} (separated : Separated 10 text values) :
      Trailing text values

/-- The power of ten at the end of a literal. -/
inductive Power : List Char → ℤ → Prop where
  | absent : Power [] 0
  | present {mark : Char} {sign digits : List Char} {values : List Nat} (isMark : mark = 'e' ∨ mark = 'E')
      (signed : Sign sign) (separated : Separated 10 digits values) :
      Power (mark :: (sign ++ digits))
        (Numeral.signed (sign == ['-']) (Nat.ofDigits 10 values.reverse))

/-- An integer without a sign, which with an n behind it is a big one. -/
inductive Whole : List Char → Nat → Prop where
  | decimal {text : List Char} {values : List Nat} (leading : Leading text values) :
      Whole text (Nat.ofDigits 10 values.reverse)
  | radix {letter : Char} {base : Nat} {text : List Char} {values : List Nat}
      (known : base? letter = some base) (separated : Separated base text values) :
      Whole ('0' :: letter :: text) (Nat.ofDigits base values.reverse)

/-- A numeric literal without a sign, and its number. -/
inductive Unsigned : List Char → ℚ → Prop where
  | whole {text : List Char} {n : Nat} (whole : Whole text n) : Unsigned text n
  | scaled {leading power : List Char} {values : List Nat} {exponent : ℤ}
      (digits : Leading leading values) (scale : Power power exponent) :
      Unsigned (leading ++ power) ((Nat.ofDigits 10 values.reverse : ℕ) * 10 ^ exponent)
  | pointed {leading trailing power : List Char} {values more : List Nat} {exponent : ℤ}
      (digits : Leading leading values) (fraction : Trailing trailing more)
      (scale : Power power exponent) :
      Unsigned (leading ++ '.' :: (trailing ++ power))
        ((Nat.ofDigits 10 (values ++ more).reverse : ℕ) * 10 ^ (exponent - more.length))
  | fraction {digits power : List Char} {values : List Nat} {exponent : ℤ}
      (separated : Separated 10 digits values) (scale : Power power exponent) :
      Unsigned ('.' :: (digits ++ power))
        ((Nat.ofDigits 10 values.reverse : ℕ) * 10 ^ (exponent - values.length))

/-- A numeric literal with a sign or none, and its number. A big integer takes no plus. -/
inductive Numeric : List Char → ℚ → Prop where
  | number {sign text : List Char} {value : ℚ} (signed : Sign sign) (unsigned : Unsigned text value) :
      Numeric (sign ++ text) (if sign = ['-'] then -value else value)
  | big {sign text : List Char} {n : Nat} (signed : sign = [] ∨ sign = ['-']) (whole : Whole text n) :
      Numeric (sign ++ text ++ ['n']) (if sign = ['-'] then -n else n)

/-! ## Digits -/

section Digits

variable {base : Nat} {text : List Char} {values : List Nat}

theorem separated_of_digits (nonempty : text ≠ []) (valued : Digits (digitBelow? base) text values) :
    Separated base text values := by
  unfold Numeral.Digits at valued
  induction valued with
  | nil => contradiction
  | @cons c value rest others digit valuedRest inductionHypothesis =>
      by_cases isLast : rest = []
      · subst isLast
        cases valuedRest
        exact .last digit
      · exact .next digit (inductionHypothesis isLast)

theorem Separated.digits (separated : Separated base text values) (noSeparator : '_' ∉ text) :
    Digits (digitBelow? base) text values := by
  induction separated with
  | last digit => exact .cons digit .nil
  | next digit _ inductionHypothesis =>
      exact .cons digit (inductionHypothesis fun later => noSeparator (List.mem_cons_of_mem _ later))
  | separated => simp at noSeparator

theorem Separated.head {first : Nat} {others : List Nat} (separated : Separated base text (first :: others)) :
    ∃ c ∈ text.head?, digitBelow? base c = some first := by
  cases separated with
  | last digit => exact ⟨_, rfl, digit⟩
  | next digit => exact ⟨_, rfl, digit⟩
  | separated digit => exact ⟨_, rfl, digit⟩

/-- Digits that start with a zero are that zero alone. -/
theorem Leading.eq_zero (leading : Leading text values) (starts : text.head? = some '0') :
    text = ['0'] := by
  cases leading with
  | zero => rfl
  | digits separated noZero =>
      obtain ⟨c, isHead, digit⟩ := separated.head
      cases starts.symm.trans isHead
      exact absurd (Option.some.inj digit).symm noZero

end Digits

/-! ## Literals without a sign -/

section Unsigned

variable {text : List Char} {values : List Nat} {value : ℚ}

theorem not_mem_of_digits {digit? : Char → Option Nat} (valued : Digits digit? text values) {c : Char}
    (noDigit : digit? c = none) : c ∉ text := by
  unfold Numeral.Digits at valued
  induction valued with
  | nil => simp
  | cons digit _ inductionHypothesis =>
      rw [List.mem_cons, not_or]
      refine ⟨?_, inductionHypothesis⟩
      rintro rfl
      rw [noDigit] at digit
      contradiction

theorem digits_unique {digit? other? : Char → Option Nat} {others : List Nat}
    (agree : ∀ c value, other? c = some value → digit? c = some value)
    (valued : Digits digit? text values) (valuedToo : Digits other? text others) : others = values := by
  unfold Numeral.Digits at valued valuedToo
  induction valued generalizing others with
  | nil => exact List.forall₂_nil_left_iff.mp valuedToo
  | cons digit _ inductionHypothesis =>
      obtain ⟨value, rest, digitToo, valuedRest, rfl⟩ := List.forall₂_cons_left_iff.mp valuedToo
      have same := Option.some.inj ((agree _ _ digitToo).symm.trans digit)
      rw [same, inductionHypothesis valuedRest]

/-- What stands behind the digits of a literal begins with no digit of any script. -/
theorem Power.eq_nil {power : List Char} {exponent : ℤ} (scale : Power power exponent)
    (decimal : ∀ c ∈ power, Text.isDecimal c = true) : power = [] ∧ exponent = 0 := by
  cases scale with
  | absent => exact ⟨rfl, rfl⟩
  | @present mark _ _ _ isMark =>
      have isDigit := decimal mark List.mem_cons_self
      rcases isMark with rfl | rfl
      · exact absurd isDigit (by decide)
      · exact absurd isDigit (by decide)

/-- Decimal digits of any script are a literal only as leading digits. -/
theorem unsigned_decimal_iff (run : Numeral.IsRun Text.isDecimal text) :
    Unsigned text value ↔
      ∃ values, Leading text values ∧ value = (Nat.ofDigits 10 values.reverse : ℕ) := by
  constructor
  · intro unsigned
    cases unsigned with
    | whole whole =>
        cases whole with
        | decimal leading => exact ⟨_, leading, rfl⟩
        | @radix letter _ _ _ known =>
            have isDigit := run.2 letter (by simp)
            rw [(letter_of_base? known).1] at isDigit
            contradiction
    | scaled digits scale =>
        obtain ⟨rfl, rfl⟩ := scale.eq_nil fun c member => run.2 c (List.mem_append_right _ member)
        rw [List.append_nil]
        exact ⟨_, digits, by simp⟩
    | pointed => exact absurd (run.2 '.' (by simp)) (by decide)
    | fraction => exact absurd (run.2 '.' (by simp)) (by decide)
  · rintro ⟨values, leading, rfl⟩
    exact .whole (.decimal leading)

/-- A literal that begins with leading digits does not go on with the letter of a radix prefix. -/
theorem Leading.ne_radix {leading more : List Char} (digits : Leading leading values) {letter : Char}
    {base : Nat} (known : base? letter = some base) (goesOn : ∀ c ∈ more.head?, c ∈ ['.', 'e', 'E']) :
    '0' :: letter :: text ≠ leading ++ more := by
  intro shape
  have starts : leading.head? = some '0' := by
    cases digits with
    | zero => rfl
    | digits separated =>
        obtain ⟨c, isHead, -⟩ := separated.head
        obtain ⟨rest, rfl⟩ := List.head?_eq_some_iff.mp isHead
        rw [(List.cons.inj shape).1]
        rfl
  rw [digits.eq_zero starts] at shape
  have behind : letter :: text = more := (List.cons.inj shape).2
  exact (letter_of_base? known).2 (goesOn letter (by rw [← behind]; rfl))

/-- Behind a radix prefix, a literal has digits of the base and nothing else. -/
theorem unsigned_radix_iff {letter : Char} {base : Nat} (known : base? letter = some base)
    (nonempty : text ≠ []) (valued : Digits (digitBelow? base) text values) :
    Unsigned ('0' :: letter :: text) value ↔ value = (Nat.ofDigits base values.reverse : ℕ) := by
  constructor
  · intro unsigned
    generalize shape : '0' :: letter :: text = whole at unsigned
    cases unsigned with
    | whole whole =>
        cases whole with
        | decimal leading =>
            rw [← List.append_nil whole] at shape
            exact absurd shape (leading.ne_radix known (by simp))
        | radix knownToo separated =>
            obtain ⟨rfl, rfl⟩ := List.cons.inj (List.cons.inj shape).2
            cases known.symm.trans knownToo
            have noSeparator : '_' ∉ text := not_mem_of_digits valued (by rfl)
            rw [digits_unique (fun _ _ => id) valued (separated.digits noSeparator)]
    | scaled digits scale =>
        refine absurd shape (digits.ne_radix known ?_)
        cases scale with
        | absent => simp
        | present isMark => simpa using Or.inr isMark
    | pointed digits => exact absurd shape (digits.ne_radix known (by simp))
    | fraction => simp at shape
  · rintro rfl
    exact .whole (.radix known (separated_of_digits nonempty valued))

theorem Leading.exists_head (digits : Leading text values) :
    ∃ c ∈ text.head?, (digitBelow? 10 c).isSome = true := by
  cases digits with
  | zero => exact ⟨'0', rfl, by decide⟩
  | digits separated =>
      obtain ⟨c, isHead, digit⟩ := separated.head
      exact ⟨c, isHead, by rw [digit]; rfl⟩

/-- A literal without a sign begins with a digit or a point. -/
theorem Unsigned.head_ne (unsigned : Unsigned text value) : ∀ c ∈ text.head?, c ≠ '+' ∧ c ≠ '-' := by
  have ofLeading {leading : List Char} {values : List Nat} (digits : Leading leading values)
      (more : List Char) : ∀ c ∈ (leading ++ more).head?, c ≠ '+' ∧ c ≠ '-' := by
    obtain ⟨c, isHead, isDigit⟩ := digits.exists_head
    obtain ⟨rest, rfl⟩ := List.head?_eq_some_iff.mp isHead
    rintro _ ⟨⟩
    constructor
    · rintro rfl
      contradiction
    · rintro rfl
      contradiction
  cases unsigned with
  | whole whole =>
      cases whole with
      | decimal leading => simpa using ofLeading leading []
      | radix => simp
  | scaled digits => exact ofLeading digits _
  | pointed digits => exact ofLeading digits _
  | fraction => simp

end Unsigned

end Script

/-! ## Whole numerals -/

namespace Numeral

/-- Whole digits that strict scripts read too: with a radix prefix, or in ASCII, where the first is no zero unless it
stands alone. -/
def IsStrictBody (body : List Char) : Prop :=
  Radix body ∨ body = ['0'] ∨ IsRun Char.isDigit body ∧ body.head? ≠ some '0'

/-- A whole numeral that strict scripts read too. -/
def IsStrict (text : List Char) : Prop :=
  ∃ sign body, Sign sign ∧ text = sign ++ body ∧ IsStrictBody body

variable {text sign body : List Char} {values : List Nat} {n : Int}

theorem digitBelow?_ten_eq_some_iff {c : Char} {value : Nat} :
    digitBelow? 10 c = some value ↔ 0x30 ≤ c.toNat ∧ c.toNat ≤ 0x39 ∧ value = c.toNat - 0x30 := by
  unfold digitBelow?
  simp only [Option.filter_eq_some_iff, hexValue?_eq_some_iff, decide_eq_true_eq]
  omega

theorem decimalValue?_of_digitBelow? (c : Char) (value : Nat) (digit : digitBelow? 10 c = some value) :
    Text.decimalValue? c = some value := by
  obtain ⟨low, high, rfl⟩ := digitBelow?_ten_eq_some_iff.mp digit
  unfold Text.decimalValue?
  dsimp only
  rw [if_pos (by omega), if_pos (by simp [low, high])]

theorem digitBelow?_ten (c : Char) : (digitBelow? 10 c).isSome = c.isDigit := by
  have zero : '0'.toNat = 0x30 := rfl
  have nine : '9'.toNat = 0x39 := rfl
  rw [Bool.eq_iff_iff, digitBelow?_of_le_ten (by decide)]
  simp only [Char.isDigit, Bool.and_eq_true, decide_eq_true_eq, ge_iff_le, UInt32.le_iff_toNat_le,
    Char.toNat_val]
  omega

/-- Leading digits, with decimal digits of any script for their values. -/
theorem leading_iff {others : List Nat} (nonempty : body ≠ [])
    (valued : Digits Text.decimalValue? body values) :
    Script.Leading body others ↔
      others = values ∧ (body = ['0'] ∨ IsRun Char.isDigit body ∧ body.head? ≠ some '0') := by
  constructor
  · intro leading
    have noSeparator : '_' ∉ body := Script.not_mem_of_digits valued (by decide)
    have digits : Digits (digitBelow? 10) body others := by
      cases leading with
      | zero => exact .cons rfl .nil
      | digits separated => exact separated.digits noSeparator
    refine ⟨Script.digits_unique decimalValue?_of_digitBelow? valued digits, ?_⟩
    by_cases starts : body.head? = some '0'
    · exact .inl (leading.eq_zero starts)
    · obtain ⟨value, more, rfl⟩ := List.exists_cons_of_ne_nil (digits.ne_nil.mp nonempty)
      exact .inr ⟨(isRun_iff digitBelow?_ten).mpr ⟨value, more, digits⟩, starts⟩
  · rintro ⟨rfl, rfl | ⟨run, noZero⟩⟩
    · have zero : Digits (digitBelow? 10) ['0'] [0] := .cons rfl .nil
      rw [← Script.digits_unique decimalValue?_of_digitBelow? valued zero]
      exact .zero
    · obtain ⟨first, more, digits⟩ := (isRun_iff digitBelow?_ten).mp run
      rw [← Script.digits_unique decimalValue?_of_digitBelow? valued digits]
      refine .digits (Script.separated_of_digits nonempty digits) ?_
      rintro rfl
      obtain ⟨c, rest, digit, -, rfl⟩ := List.forall₂_cons_right_iff.mp digits
      obtain ⟨low, -, isZero⟩ := digitBelow?_ten_eq_some_iff.mp digit
      have sameCode : c = '0' := Char.toNat_inj.mp (show c.toNat = 0x30 by omega)
      exact noZero (by rw [sameCode]; rfl)

theorem IsStrictBody.head_ne (strict : IsStrictBody body) : ∀ c ∈ body.head?, c ≠ '+' ∧ c ≠ '-' := by
  intro c first
  rcases strict with radix | rfl | ⟨run, -⟩
  · exact unsigned_of_body (.inl radix) c first
  · cases first
    decide
  · have isDigit := run.2 c (List.mem_of_mem_head? first)
    constructor
    · rintro rfl
      contradiction
    · rintro rfl
      contradiction

theorem isStrict_append_iff (isSign : Sign sign) (unsigned : ∀ c ∈ body.head?, c ≠ '+' ∧ c ≠ '-') :
    IsStrict (sign ++ body) ↔ IsStrictBody body := by
  constructor
  · rintro ⟨other, rest, isOther, same, strict⟩
    rwa [(sign_unique isSign isOther unsigned strict.head_ne same).2]
  · exact fun strict => ⟨sign, body, isSign, rfl, strict⟩

/-- The parts of a whole numeral: its sign and its body, with the number that the body writes. -/
theorem Writes.parts (writes : Writes text n) :
    ∃ sign body m, Sign sign ∧ text = sign ++ body ∧ (∀ c ∈ body.head?, c ≠ '+' ∧ c ≠ '-') ∧
      n = signed (sign == ['-']) m ∧
      ∀ value, Script.Unsigned body value ↔ value = m ∧ IsStrictBody body := by
  cases writes with
  | radix isSign known nonempty valued =>
      refine ⟨_, _, _, isSign, rfl, by simp, rfl, fun value => ?_⟩
      rw [Script.unsigned_radix_iff known nonempty valued]
      have radix : Radix _ := radix?_isSome_iff.mp (Option.isSome_iff_exists.mpr
        ⟨_, radix?_eq_some_iff.mpr ⟨_, _, _, _, rfl, known, nonempty, valued, rfl⟩⟩)
      exact (and_iff_left (.inl radix)).symm
  | @decimal sign digits values isSign nonempty valued =>
      have run := valued.isRun nonempty
      refine ⟨_, _, _, isSign, rfl, unsigned_of_isRun run, rfl, fun value => ?_⟩
      rw [Script.unsigned_decimal_iff run]
      have noRadix : ¬Radix digits := by
        rw [← radix?_isSome_iff, radix?_of_isRun run]
        decide
      simp only [leading_iff nonempty valued, IsStrictBody, noRadix, false_or]
      constructor
      · rintro ⟨_, ⟨rfl, strict⟩, rfl⟩
        exact ⟨rfl, strict⟩
      · rintro ⟨rfl, strict⟩
        exact ⟨_, ⟨rfl, strict⟩, rfl⟩

theorem numeric_append_iff (isSign : Sign sign) (unsigned : ∀ c ∈ body.head?, c ≠ '+' ∧ c ≠ '-')
    (noBig : 'n' ∉ body) (value : ℚ) :
    Script.Numeric (sign ++ body) value ↔
      ∃ worth, Script.Unsigned body worth ∧ value = if sign = ['-'] then -worth else worth := by
  constructor
  · intro numeric
    generalize shape : sign ++ body = text at numeric
    cases numeric with
    | number isOther isUnsigned =>
        obtain ⟨rfl, rfl⟩ := sign_unique isSign isOther unsigned isUnsigned.head_ne shape
        exact ⟨_, isUnsigned, rfl⟩
    | @big other rest _ =>
        have inText : 'n' ∈ sign ++ body := by
          rw [shape]
          simp
        have notInSign : 'n' ∉ sign := by cases isSign <;> decide
        exact absurd inText (by simp [notInSign, noBig])
  · rintro ⟨worth, isUnsigned, rfl⟩
    exact .number isSign isUnsigned

/-- A whole numeral is a numeric literal of a script exactly if it is strict, and then of the same number. -/
theorem numeric_iff (writes : Writes text n) (value : ℚ) :
    Script.Numeric text value ↔ value = n ∧ IsStrict text := by
  have inner := inner_of_spelled (spelled_of_writes writes)
  obtain ⟨sign, body, m, isSign, rfl, unsigned, rfl, isLiteral⟩ := writes.parts
  have noBig : 'n' ∉ body := fun member =>
    absurd (inner 'n' (List.mem_append_right _ member)) (by decide)
  have signedWorth : ((signed (sign == ['-']) m : ℤ) : ℚ) = if sign = ['-'] then -(m : ℚ) else m := by
    by_cases minus : sign = ['-']
    · simp [signed, minus]
    · simp [signed, minus]
  rw [numeric_append_iff isSign unsigned noBig, isStrict_append_iff isSign unsigned, signedWorth]
  simp only [isLiteral]
  constructor
  · rintro ⟨_, ⟨rfl, strict⟩, rfl⟩
    exact ⟨rfl, strict⟩
  · rintro ⟨rfl, strict⟩
    exact ⟨_, ⟨rfl, strict⟩, rfl⟩

end Numeral

/-! ## What is written -/

namespace Literal

/-- A numeral of whole form writes a whole number, which is its plain value unless it is a decimal one with too many
digits. What is written for it is a numeric literal of a script exactly if the numeral is strict, and then it denotes
this number and no other. -/
theorem numeric_toSource (mark : QuoteMark) {text source : String} {tag : Option String}
    (read : parse (some text) tag = .ok (.number source))
    (wholeForm : Numeral.IsWholeForm source.toList) :
    ∃ n : Int, Numeral.Writes source.toList n ∧
      (¬Numeral.IsLong source.toList → (Literal.number source).toData = .ok (.number (.whole n))) ∧
      (∀ count, Numeral.HasDigits source.toList count → Number.maxDigits < count →
        (Literal.number source).toData = .error (.wrongValue (.longNumeral count))) ∧
      ∀ value, Script.Numeric ((Literal.number source).toSource mark).toList value ↔
        value = n ∧ Numeral.IsStrict source.toList := by
  obtain ⟨-, spelled⟩ := spelled_of_number read
  obtain ⟨n, writes⟩ := Numeral.exists_writes spelled wholeForm
  refine ⟨n, writes, fun short => toData_eq_whole_iff.mpr ⟨writes, short⟩, ?_,
    Numeral.numeric_iff writes⟩
  exact fun count digits many => (toData_number_error_iff spelled).mpr ⟨count, digits, many, rfl⟩

/-- A negative number in base sixteen is written as it is read, and denotes the same. -/
theorem numeric_toSource_negative :
    parse (some " -0x1F ") none = .ok (.number "-0x1F") ∧ ¬Numeral.IsLong "-0x1F".toList ∧
      (Literal.number "-0x1F").toData = .ok (.number (.whole (-31))) ∧
      ∀ value, Script.Numeric ((Literal.number "-0x1F").toSource .single).toList value ↔ value = -31 := by
  have read : parse (some " -0x1F ") none = .ok (.number "-0x1F") := by decide +kernel
  obtain ⟨writes, short⟩ := (@Numeral.value_eq_whole_iff "-0x1F".toList (-31)).mp (by decide +kernel)
  have data := toData_eq_whole_iff.mpr ⟨writes, short⟩
  have radix : Numeral.Radix "0x1F".toList := Numeral.radix?_isSome_iff.mp (by decide)
  have split : "-0x1F".toList = ['-'] ++ "0x1F".toList := by decide
  obtain ⟨n, -, isWhole, -, denotes⟩ := numeric_toSource .single read (.inl ⟨_, _, .minus, split, radix⟩)
  cases data.symm.trans (isWhole short)
  have strict : Numeral.IsStrict "-0x1F".toList := ⟨_, _, .minus, split, .inl radix⟩
  refine ⟨read, short, data, fun value => ?_⟩
  rw [denotes value, and_iff_left strict]
  simp

/-- A zero before other digits is read, and written where a script does not take it. -/
theorem not_numeric_toSource_zero :
    parse (some "010") none = .ok (.number "010") ∧ Numeral.IsWholeForm "010".toList ∧
      (Literal.number "010").toData = .ok (.number (.whole 10)) ∧
      ∀ value, ¬Script.Numeric ((Literal.number "010").toSource .single).toList value := by
  obtain ⟨writes, short⟩ := (@Numeral.value_eq_whole_iff "010".toList 10).mp (by decide +kernel)
  refine ⟨by decide +kernel, .inr (by simp), toData_eq_whole_iff.mpr ⟨writes, short⟩,
    fun value numeric => ?_⟩
  have strict := ((Numeral.numeric_iff writes value).mp numeric).2
  rw [← List.nil_append "010".toList, Numeral.isStrict_append_iff .absent (by simp)] at strict
  rcases strict with radix | alone | ⟨-, noZero⟩
  · exact absurd (Numeral.radix?_isSome_iff.mpr radix) (by decide)
  · exact absurd alone (by decide)
  · exact noZero rfl

end Literal

end DeclaredOptions
