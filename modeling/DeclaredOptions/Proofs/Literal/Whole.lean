import DeclaredOptions.Proofs.Literal.Numeral
import Mathlib.Data.List.Forall2
import Mathlib.Data.List.Induction
import Mathlib.Data.Nat.Digits.Defs
import Mathlib.Tactic.IntervalCases

/-!
Contract: numerals that are whole numbers, and the numbers they write.

Owns:
- whole numerals by their parts, with their values by position;
- the decimal ones among them that are too long to be read, which are the only numerals without a value;
- the values of the others, which are whole for whole numerals and no others;
- the form of a whole numeral, by which each numeral of that form writes a number;
- the decimal texts of whole numbers, which are numerals of the same values, and the numbers that have one.

Does not own: numerals with a point or an exponent.

## Numbers and their lengths

What a numeral writes does not depend on its length. A decimal numeral of more than `maxDigits` digits writes a number
as any other does, but it is not read; a numeral in another base is read at any length, so that it may have a value
without a decimal text.
-/

set_option autoImplicit false

namespace DeclaredOptions.Numeral

/-! ## Values by position -/

/-- The characters of a text are digits with the given values. -/
def Digits (digit? : Char → Option Nat) (text : List Char) (values : List Nat) : Prop :=
  List.Forall₂ (fun c value => digit? c = some value) text values

/-- A whole numeral and the number it writes: a sign or none, then digits after a radix prefix, or decimal digits
alone. Digits count by their place in the base. -/
inductive Writes : List Char → Int → Prop where
  | radix {sign digits : List Char} {letter : Char} {base : Nat} {values : List Nat} (signed : Sign sign)
      (known : base? letter = some base) (nonempty : digits ≠ [])
      (valued : Digits (digitBelow? base) digits values) :
      Writes (sign ++ '0' :: letter :: digits)
        (Numeral.signed (sign == ['-']) (Nat.ofDigits base values.reverse))
  | decimal {sign digits : List Char} {values : List Nat} (signed : Sign sign) (nonempty : digits ≠ [])
      (valued : Digits Text.decimalValue? digits values) :
      Writes (sign ++ digits) (Numeral.signed (sign == ['-']) (Nat.ofDigits 10 values.reverse))

theorem ofDigits_eq (base : Nat) (values : List Nat) :
    Number.ofDigits base values = Nat.ofDigits base values.reverse := by
  unfold Number.ofDigits
  induction values using List.reverseRecOn with
  | nil => rfl
  | append_singleton values value inductionHypothesis =>
      rw [List.foldl_append, inductionHypothesis, List.reverse_append, List.reverse_singleton,
        List.singleton_append, Nat.ofDigits_cons, List.foldl_cons, List.foldl_nil, Nat.mul_comm,
        Nat.add_comm]

/-! ## Digits that are taken -/

theorem takeDigits_eq_nil_iff {digit? : Char → Option Nat} {text : List Char} {values : List Nat} :
    takeDigits digit? text = (values, []) ↔ Digits digit? text values := by
  unfold Digits
  induction text generalizing values with
  | nil => simp [takeDigits, eq_comm]
  | cons c rest inductionHypothesis =>
      unfold takeDigits
      rw [List.forall₂_cons_left_iff]
      cases known : digit? c with
      | none => simp
      | some digit =>
          rcases taken : takeDigits digit? rest with ⟨more, left⟩
          rw [taken] at inductionHypothesis
          constructor
          · intro same
            obtain ⟨rfl, rfl⟩ := Prod.mk.inj same
            exact ⟨digit, more, rfl, inductionHypothesis.mp rfl, rfl⟩
          · rintro ⟨value, others, isValue, valued, rfl⟩
            cases isValue
            cases inductionHypothesis.mpr valued
            rfl

theorem Digits.ne_nil {digit? : Char → Option Nat} {text : List Char} {values : List Nat}
    (valued : Digits digit? text values) : text ≠ [] ↔ values ≠ [] := by
  cases valued <;> simp

theorem radix?_eq_some_iff {text : List Char} {body : Body} :
    radix? text = some body ↔ ∃ letter digits base values, text = '0' :: letter :: digits ∧
      base? letter = some base ∧ digits ≠ [] ∧ Digits (digitBelow? base) digits values ∧
      body = .radix base values := by
  constructor
  · intro read
    unfold radix? at read
    split at read
    · rename_i letter rest
      obtain ⟨base, known, taken⟩ := Option.bind_eq_some_iff.mp read
      split at taken
      · contradiction
      · rename_i values noValues shape
        have valued := takeDigits_eq_nil_iff.mp shape
        refine ⟨letter, rest, base, values, rfl, known, ?_, valued, (Option.some.inj taken).symm⟩
        rw [valued.ne_nil]
        rintro rfl
        exact noValues rfl
      · contradiction
    · contradiction
  · rintro ⟨letter, digits, base, values, rfl, known, nonempty, valued, rfl⟩
    have someValues := valued.ne_nil.mp nonempty
    unfold radix?
    simp [known, takeDigits_eq_nil_iff.mpr valued]

theorem exponent?_eq_some_none_iff {text : List Char} : exponent? text = some none ↔ text = [] := by
  cases text with
  | nil => simp [exponent?]
  | cons mark rest =>
      have isPower : exponent? (mark :: rest) ≠ some none := by
        unfold exponent?
        repeat' split
        all_goals simp_all
      simp [isPower]

/-- Decimal digits alone are read as such, and nothing else is read without point and exponent. -/
theorem decimal?_eq_whole_iff {text : List Char} {values : List Nat} :
    decimal? text = some (.decimal values none none) ↔
      text ≠ [] ∧ Digits Text.decimalValue? text values := by
  rcases taken : takeDigits Text.decimalValue? text with ⟨whole, rest⟩
  unfold decimal?
  rw [taken]
  constructor
  · intro read
    split at read
    · dsimp only at read
      split at read
      · contradiction
      · obtain ⟨power, -, impossible⟩ := Option.map_eq_some_iff.mp read
        cases impossible
    · rename_i shape
      obtain ⟨rfl, rfl⟩ := Prod.mk.inj shape
      split at read
      · contradiction
      · rename_i someDigit
        obtain ⟨power, noPower, same⟩ := Option.map_eq_some_iff.mp read
        cases same
        cases exponent?_eq_some_none_iff.mp noPower
        have valued := takeDigits_eq_nil_iff.mp taken
        refine ⟨?_, valued⟩
        rw [valued.ne_nil]
        simpa using someDigit
  · rintro ⟨nonempty, valued⟩
    cases taken.symm.trans (takeDigits_eq_nil_iff.mpr valued)
    have someValues := valued.ne_nil.mp nonempty
    simp [someValues, exponent?]

/-- What is read as a decimal numeral is no whole number in another base. -/
theorem decimal?_ne_radix (text : List Char) (base : Nat) (values : List Nat) :
    decimal? text ≠ some (.radix base values) := by
  intro read
  unfold decimal? at read
  repeat' split at read
  all_goals
    first
    | contradiction
    | obtain ⟨power, -, impossible⟩ := Option.map_eq_some_iff.mp read
      cases impossible

/-! ## Numerals that are read -/

theorem Digits.isRun {text : List Char} {values : List Nat} (nonempty : text ≠ [])
    (valued : Digits Text.decimalValue? text values) : IsRun Text.isDecimal text := by
  refine ⟨nonempty, ?_⟩
  clear nonempty
  induction valued with
  | nil => simp
  | cons known _ inductionHypothesis =>
      rw [List.forall_mem_cons]
      exact ⟨by simp [Text.isDecimal, known], inductionHypothesis⟩

theorem radix?_of_isRun {text : List Char} (run : IsRun Text.isDecimal text) : radix? text = none := by
  cases read : radix? text with
  | none => rfl
  | some body =>
      obtain ⟨letter, digits, base, values, rfl, known, -⟩ := radix?_eq_some_iff.mp read
      have isDigit := run.2 letter (by simp)
      rw [(letter_of_base? known).1] at isDigit
      contradiction

/-- A run of digits is a text with values. -/
theorem isRun_iff {digit? : Char → Option Nat} {p : Char → Bool} (sameClass : ∀ c, (digit? c).isSome = p c)
    {text : List Char} :
    IsRun p text ↔ ∃ value values, Digits digit? text (value :: values) := by
  simp only [← takeDigits_run_iff sameClass, takeDigits_eq_nil_iff]

/-- A numeral is read as what comes after its sign, with the sign. -/
theorem read?_eq_some_iff {text : List Char} {negative : Bool} {body : Body} :
    read? text = some (negative, body) ↔ ∃ sign rest, Sign sign ∧ text = sign ++ rest ∧
      negative = (sign == ['-']) ∧ (radix? rest).or (decimal? rest) = some body := by
  have read_append {sign rest : List Char} (isSign : Sign sign)
      (unsigned : ∀ c ∈ rest.head?, c ≠ '+' ∧ c ≠ '-') :
      read? (sign ++ rest) = ((radix? rest).or (decimal? rest)).map (sign == ['-'], ·) := by
    rw [read?, splitSign_append isSign unsigned]
  constructor
  · intro read
    have spelled := isNumeral_iff.mp (show isNumeral text = true by rw [isNumeral, read]; rfl)
    obtain ⟨sign, rest, isSign, rfl, isBody⟩ := spelled_iff.mp spelled
    rw [read_append isSign (unsigned_of_body isBody)] at read
    obtain ⟨_, readBody, same⟩ := Option.map_eq_some_iff.mp read
    cases same
    exact ⟨sign, rest, isSign, rfl, rfl, readBody⟩
  · rintro ⟨sign, rest, isSign, rfl, rfl, readBody⟩
    have isBody : Radix rest ∨ Decimal rest := by
      rw [← radix?_isSome_iff, ← decimal?_isSome_iff]
      rcases Option.or_eq_some_iff.mp readBody with read | ⟨-, read⟩
      · exact .inl (by rw [read]; rfl)
      · exact .inr (by rw [read]; rfl)
    rw [read_append isSign (unsigned_of_body isBody), readBody]
    rfl

theorem body_eq_radix_iff {rest : List Char} {base : Nat} {values : List Nat} :
    (radix? rest).or (decimal? rest) = some (.radix base values) ↔
      radix? rest = some (.radix base values) := by
  rw [Option.or_eq_some_iff]
  exact or_iff_left fun readDecimal => decimal?_ne_radix _ _ _ readDecimal.2

theorem body_eq_whole_iff {rest : List Char} {values : List Nat} :
    (radix? rest).or (decimal? rest) = some (.decimal values none none) ↔
      rest ≠ [] ∧ Digits Text.decimalValue? rest values := by
  rw [Option.or_eq_some_iff, decimal?_eq_whole_iff]
  constructor
  · rintro (readRadix | ⟨-, valued⟩)
    · obtain ⟨_, _, _, _, -, -, -, -, impossible⟩ := radix?_eq_some_iff.mp readRadix
      cases impossible
    · exact valued
  · rintro ⟨nonempty, valued⟩
    exact .inr ⟨radix?_of_isRun (valued.isRun nonempty), nonempty, valued⟩

/-! ## Values -/

theorem Body.value_eq_whole_iff {negative : Bool} {body : Body} {n : Int} :
    body.value negative = .whole n ↔
      (∃ base values, body = .radix base values ∧
        n = signed negative (Nat.ofDigits base values.reverse)) ∨
      ∃ values, body = .decimal values none none ∧
        n = signed negative (Nat.ofDigits 10 values.reverse) := by
  unfold Body.value
  split
  · simp [ofDigits_eq, eq_comm]
  · simp [ofDigits_eq, eq_comm]
  · rename_i notWhole
    constructor
    · nofun
    · rintro (⟨base, values, impossible, -⟩ | ⟨values, same, -⟩)
      · cases impossible
      · cases same
        exact absurd rfl (notWhole rfl)

/-- A numeral writes a whole number exactly if it is read as a body of this value. -/
theorem writes_iff {text : List Char} {n : Int} :
    Writes text n ↔ ∃ negative body, read? text = some (negative, body) ∧
      body.value negative = .whole n := by
  simp only [read?_eq_some_iff, Body.value_eq_whole_iff]
  constructor
  · intro writes
    cases writes with
    | @radix sign digits letter base values isSign isBase nonempty valued =>
        refine ⟨_, _, ⟨sign, _, isSign, rfl, rfl, body_eq_radix_iff.mpr ?_⟩, .inl ⟨_, _, rfl, rfl⟩⟩
        exact radix?_eq_some_iff.mpr ⟨letter, digits, base, values, rfl, isBase, nonempty, valued, rfl⟩
    | @decimal sign digits values isSign nonempty valued =>
        exact ⟨_, _, ⟨sign, _, isSign, rfl, rfl, body_eq_whole_iff.mpr ⟨nonempty, valued⟩⟩,
          .inr ⟨_, rfl, rfl⟩⟩
  · rintro ⟨negative, body, ⟨sign, rest, isSign, rfl, rfl, readBody⟩,
      ⟨base, values, rfl, rfl⟩ | ⟨values, rfl, rfl⟩⟩
    · obtain ⟨letter, digits, _, _, rfl, isBase, nonempty, valued, same⟩ :=
        radix?_eq_some_iff.mp (body_eq_radix_iff.mp readBody)
      cases same
      exact .radix isSign isBase nonempty valued
    · obtain ⟨nonempty, valued⟩ := body_eq_whole_iff.mp readBody
      exact .decimal isSign nonempty valued

theorem spelled_of_writes {text : List Char} {n : Int} (writes : Writes text n) : Spelled text := by
  obtain ⟨negative, body, read, -⟩ := writes_iff.mp writes
  exact isNumeral_iff.mp (by rw [isNumeral, read]; rfl)

/-! ## Numerals that are too long -/

/-- A whole decimal numeral of a number of digits, with a sign or none before them. -/
def HasDigits (text : List Char) (count : Nat) : Prop :=
  ∃ sign digits, Sign sign ∧ text = sign ++ digits ∧ IsRun Text.isDecimal digits ∧ digits.length = count

/-- A whole decimal numeral with more digits than a whole number is read from. -/
def IsLong (text : List Char) : Prop := ∃ count, HasDigits text count ∧ Number.maxDigits < count

theorem hasDigits_iff {text : List Char} {count : Nat} :
    HasDigits text count ↔ ∃ negative values, read? text = some (negative, .decimal values none none) ∧
      values.length = count := by
  simp only [read?_eq_some_iff, body_eq_whole_iff]
  constructor
  · rintro ⟨sign, digits, isSign, rfl, run, rfl⟩
    obtain ⟨value, values, valued⟩ := (isRun_iff fun _ => rfl).mp run
    exact ⟨_, _, ⟨sign, digits, isSign, rfl, rfl, run.1, valued⟩, valued.length_eq.symm⟩
  · rintro ⟨negative, values, ⟨sign, digits, isSign, rfl, -, nonempty, valued⟩, rfl⟩
    exact ⟨sign, digits, isSign, rfl, valued.isRun nonempty, valued.length_eq⟩

theorem HasDigits.unique {text : List Char} {first second : Nat} (one : HasDigits text first)
    (other : HasDigits text second) : first = second := by
  obtain ⟨_, _, readOne, rfl⟩ := hasDigits_iff.mp one
  obtain ⟨_, _, readOther, rfl⟩ := hasDigits_iff.mp other
  cases readOne.symm.trans readOther
  rfl

theorem HasDigits.exists_writes {text : List Char} {count : Nat} (digits : HasDigits text count) :
    ∃ n, Writes text n := by
  obtain ⟨sign, digits, isSign, rfl, run, -⟩ := digits
  obtain ⟨value, values, valued⟩ := (isRun_iff fun _ => rfl).mp run
  exact ⟨_, .decimal isSign run.1 valued⟩

theorem HasDigits.le_length {text : List Char} {count : Nat} (digits : HasDigits text count) :
    count ≤ text.length := by
  obtain ⟨sign, digits, -, rfl, -, rfl⟩ := digits
  simp

theorem not_isLong_of_length {text : List Char} (short : text.length ≤ Number.maxDigits) :
    ¬IsLong text := by
  rintro ⟨count, digits, many⟩
  exact absurd digits.le_length (by omega)

theorem Body.excess?_eq_some_iff {body : Body} {count : Nat} :
    body.excess? = some count ↔ ∃ values, body = .decimal values none none ∧
      values.length = count ∧ Number.maxDigits < count := by
  unfold Body.excess?
  split
  · simp only [Option.ite_none_right_eq_some, Option.some.injEq, Body.decimal.injEq, and_true,
      exists_eq_left']
    constructor
    · rintro ⟨many, rfl⟩
      exact ⟨rfl, many⟩
    · rintro ⟨rfl, many⟩
      exact ⟨many, rfl⟩
  · rename_i notWhole
    refine iff_of_false nofun ?_
    rintro ⟨values, rfl, -⟩
    exact notWhole values rfl

/-- The fault of a numeral without a value is its number of digits, and only a long one has none. -/
theorem value_eq_error_iff {text : List Char} (spelled : Spelled text) {fault : ValueFault} :
    value text = .error fault ↔
      ∃ count, HasDigits text count ∧ Number.maxDigits < count ∧ fault = .longNumeral count := by
  obtain ⟨⟨negative, body⟩, read⟩ := Option.isSome_iff_exists.mp (isNumeral_iff.mpr spelled)
  have isLong (count : Nat) :
      HasDigits text count ∧ Number.maxDigits < count ↔ body.excess? = some count := by
    rw [hasDigits_iff, Body.excess?_eq_some_iff, read]
    constructor
    · rintro ⟨⟨_, values, same, counted⟩, many⟩
      cases same
      exact ⟨values, rfl, counted, many⟩
    · rintro ⟨values, rfl, counted, many⟩
      exact ⟨⟨_, values, rfl, counted⟩, many⟩
  simp only [← and_assoc, isLong, value, read]
  cases body.excess? <;> simp [eq_comm]

theorem exists_value {text : List Char} (spelled : Spelled text) (short : ¬IsLong text) :
    ∃ number, value text = .ok number := by
  cases known : value text with
  | ok number => exact ⟨number, rfl⟩
  | error fault =>
      obtain ⟨count, digits, many, -⟩ := (value_eq_error_iff spelled).mp known
      exact absurd ⟨count, digits, many⟩ short

theorem value_eq_ok_iff {text : List Char} {number : NumberValue} :
    value text = .ok number ↔ (∃ negative body, read? text = some (negative, body) ∧
      body.value negative = number) ∧ ¬IsLong text := by
  cases read : read? text with
  | none => simp [value, read]
  | some parts =>
      obtain ⟨negative, body⟩ := parts
      have spelled : Spelled text := isNumeral_iff.mp (by rw [isNumeral, read]; rfl)
      by_cases long : IsLong text
      · obtain ⟨count, digits, many⟩ := long
        rw [(value_eq_error_iff spelled).mpr ⟨count, digits, many, rfl⟩]
        refine iff_of_false ?_ fun known => known.2 ⟨count, digits, many⟩
        rintro ⟨⟩
      · obtain ⟨own, known⟩ := exists_value spelled long
        rw [known]
        simp only [value, read] at known
        split at known
        · contradiction
        · cases known
          simp [long]

/-- The value of a numeral is a whole number exactly if the numeral writes this number and is not too long. -/
theorem value_eq_whole_iff {text : List Char} {n : Int} :
    value text = .ok (.whole n) ↔ Writes text n ∧ ¬IsLong text := by
  rw [value_eq_ok_iff, writes_iff]

/-! ## Forms -/

/-- A radix prefix behind the sign, or neither a point nor the mark of an exponent. -/
def IsWholeForm (text : List Char) : Prop :=
  (∃ sign body, Sign sign ∧ text = sign ++ body ∧ Radix body) ∨ ∀ c ∈ text, c ∉ ['.', 'e', 'E']

theorem exists_of_radix {body : List Char} (radix : Radix body) : ∃ letter base digits values,
    body = '0' :: letter :: digits ∧ base? letter = some base ∧ digits ≠ [] ∧
      Digits (digitBelow? base) digits values := by
  obtain ⟨read, isRead⟩ := Option.isSome_iff_exists.mp (radix?_isSome_iff.mpr radix)
  obtain ⟨letter, digits, base, values, shape, known, nonempty, valued, -⟩ :=
    radix?_eq_some_iff.mp isRead
  exact ⟨letter, base, digits, values, shape, known, nonempty, valued⟩

/-- A numeral of whole form writes a whole number. -/
theorem exists_writes {text : List Char} (spelled : Spelled text) (wholeForm : IsWholeForm text) :
    ∃ n, Writes text n := by
  have ofRadix {sign body : List Char} (signed : Sign sign) (radix : Radix body) :
      ∃ n, Writes (sign ++ body) n := by
    obtain ⟨letter, base, digits, values, rfl, known, nonempty, valued⟩ := exists_of_radix radix
    exact ⟨_, .radix signed known nonempty valued⟩
  rcases wholeForm with ⟨sign, body, signed, rfl, radix⟩ | noMark
  · exact ofRadix signed radix
  · cases spelled with
    | radix signed radix => exact ofRadix signed radix
    | decimal signed mantissa power =>
        cases power with
        | @present mark _ _ isMark =>
            have isNone := noMark mark (by simp)
            rcases isMark with rfl | rfl
            · simp at isNone
            · simp at isNone
        | absent =>
            cases mantissa with
            | pointed => exact absurd (noMark '.' (by simp)) (by simp)
            | whole run =>
                obtain ⟨_, _, valued⟩ := (isRun_iff fun _ => rfl).mp run
                rw [List.append_nil]
                exact ⟨_, .decimal signed run.1 valued⟩

/-! ## Decimal texts -/

theorem decimalValue?_digitChar {digit : Nat} (small : digit < 10) :
    Text.decimalValue? (Number.digitChar digit) = some digit := by
  interval_cases digit <;> decide

theorem lt_ten_of_mem_digitsOf (n : Nat) : ∀ digit ∈ Number.digitsOf n, digit < 10 := by
  induction n using Nat.strong_induction_on with
  | _ n inductionHypothesis =>
      unfold Number.digitsOf
      split
      · simpa
      · rw [List.forall_mem_append, List.forall_mem_singleton]
        exact ⟨inductionHypothesis (n / 10) (by omega), by omega⟩

theorem ofDigits_digitsOf (n : Nat) : Nat.ofDigits 10 (Number.digitsOf n).reverse = n := by
  induction n using Nat.strong_induction_on with
  | _ n inductionHypothesis =>
      unfold Number.digitsOf
      split
      · simp
      · rw [List.reverse_append, List.reverse_singleton, List.singleton_append, Nat.ofDigits_cons,
          inductionHypothesis (n / 10) (by omega)]
        exact Nat.mod_add_div n 10

theorem digits_naturalChars (n : Nat) :
    Digits Text.decimalValue? (Number.naturalChars n) (Number.digitsOf n) := by
  unfold Digits Number.naturalChars
  rw [List.forall₂_map_left_iff, List.forall₂_same]
  intro digit member
  exact decimalValue?_digitChar (lt_ten_of_mem_digitsOf n digit member)

theorem naturalChars_ne_nil (n : Nat) : Number.naturalChars n ≠ [] := by
  unfold Number.naturalChars Number.digitsOf
  split <;> simp

/-- The decimal text of a whole number writes this number. -/
theorem writes_wholeChars (n : Int) : Writes (Number.wholeChars n) n := by
  cases n with
  | ofNat n =>
      have writes := Writes.decimal .absent (naturalChars_ne_nil n) (digits_naturalChars n)
      rw [ofDigits_digitsOf] at writes
      exact writes
  | negSucc n =>
      have writes := Writes.decimal .minus (naturalChars_ne_nil (n + 1)) (digits_naturalChars (n + 1))
      rw [ofDigits_digitsOf] at writes
      exact writes

/-! ## Decimal texts that are too long -/

theorem length_digitsOf_le_iff {n count : Nat} (positive : 0 < count) :
    (Number.digitsOf n).length ≤ count ↔ n < 10 ^ count := by
  induction n using Nat.strong_induction_on generalizing count with
  | _ n inductionHypothesis =>
      unfold Number.digitsOf
      split
      · rename_i small
        have few : n < 10 ^ count := small.trans_le (Nat.le_self_pow positive.ne' 10)
        exact iff_of_true positive few
      · obtain ⟨fewer, rfl⟩ := Nat.exists_eq_succ_of_ne_zero positive.ne'
        rw [List.length_append, List.length_singleton, Nat.succ_eq_add_one, Nat.add_le_add_iff_right,
          pow_succ, ← Nat.div_lt_iff_lt_mul (by decide)]
        by_cases none : fewer = 0
        · subst none
          have someDigit : Number.digitsOf (n / 10) ≠ [] := by
            unfold Number.digitsOf
            split <;> simp
          simp only [Nat.le_zero, List.length_eq_zero_iff, pow_zero, Nat.lt_one_iff]
          exact iff_of_false someDigit (by omega)
        · exact inductionHypothesis (n / 10) (by omega) (Nat.pos_of_ne_zero none)

theorem isWritable_iff {n : Int} : Number.isWritable n = true ↔ n.natAbs < 10 ^ Number.maxDigits := by
  rw [Number.isWritable, decide_eq_true_eq, length_digitsOf_le_iff (by decide)]

theorem hasDigits_wholeChars (n : Int) :
    HasDigits (Number.wholeChars n) (Number.digitsOf n.natAbs).length := by
  have run (n : Nat) : IsRun Text.isDecimal (Number.naturalChars n) :=
    (digits_naturalChars n).isRun (naturalChars_ne_nil n)
  have length (n : Nat) : (Number.naturalChars n).length = (Number.digitsOf n).length :=
    List.length_map _
  cases n with
  | ofNat n => exact ⟨[], _, .absent, rfl, run n, length n⟩
  | negSucc n => exact ⟨['-'], _, .minus, rfl, run (n + 1), length (n + 1)⟩

theorem isLong_wholeChars_iff {n : Int} :
    IsLong (Number.wholeChars n) ↔ 10 ^ Number.maxDigits ≤ n.natAbs := by
  rw [← not_lt, ← length_digitsOf_le_iff (by decide), not_le]
  constructor
  · rintro ⟨count, digits, many⟩
    rwa [digits.unique (hasDigits_wholeChars n)] at many
  · intro many
    exact ⟨_, hasDigits_wholeChars n, many⟩

theorem wholeText?_eq_some_iff {n : Int} {source : String} :
    Number.wholeText? n = some source ↔
      n.natAbs < 10 ^ Number.maxDigits ∧ source = String.ofList (Number.wholeChars n) := by
  rw [Number.wholeText?, Option.ite_none_right_eq_some, isWritable_iff, Option.some.injEq, eq_comm]

theorem wholeText?_eq_none_iff {n : Int} :
    Number.wholeText? n = none ↔ 10 ^ Number.maxDigits ≤ n.natAbs := by
  rw [Number.wholeText?, ite_eq_right_iff, isWritable_iff, ← not_lt]
  simp

/-- The text that a whole number has writes it, and is not too long to be read. -/
theorem writes_of_wholeText? {n : Int} {source : String} (written : Number.wholeText? n = some source) :
    Writes source.toList n ∧ ¬IsLong source.toList := by
  obtain ⟨small, rfl⟩ := wholeText?_eq_some_iff.mp written
  rw [String.toList_ofList, isLong_wholeChars_iff, not_le]
  exact ⟨writes_wholeChars n, small⟩

end DeclaredOptions.Numeral
