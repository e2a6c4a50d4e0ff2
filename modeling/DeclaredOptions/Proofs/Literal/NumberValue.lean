import DeclaredOptions.Proofs.Literal.Grammar
import DeclaredOptions.Proofs.Literal.Whole

/-!
Contract: the plain values of numbers that are read from fragments.

Owns:
- the value that each of them has, unless it has too many digits;
- the form by which it is whole, and then the number that it is;
- the decimal texts of whole numbers, which are worth these numbers, and the numbers that have none.

Does not own: the rounding of numbers with a point or an exponent.

## Marks that are digits

In base sixteen, the mark of an exponent is a digit. A number is therefore whole by its prefix first, whatever digits
come behind, and only without a prefix by the marks that it lacks.
-/

set_option autoImplicit false

namespace DeclaredOptions

/-! ## Whole forms -/

namespace Numeral

/-- Behind the sign, a zero and the letter of a base. -/
def IsPrefixed (text : List Char) : Prop :=
  ∃ sign letter base digits, Sign sign ∧ base? letter = some base ∧
    text = sign ++ '0' :: letter :: digits

variable {text : List Char}

/-- A mantissa and its exponent do not begin as a radix prefix does. -/
theorem ne_prefixed_of_mantissa {mantissa exponent digits : List Char} {letter : Char} {base : Nat}
    (isMantissa : Mantissa mantissa) (power : Exponent exponent) (known : base? letter = some base) :
    mantissa ++ exponent ≠ '0' :: letter :: digits := by
  obtain ⟨noDigit, noMark⟩ := letter_of_base? known
  intro shape
  -- The letter is the second digit, or what comes behind the only one.
  have behind {whole rest : List Char} (decimal : ∀ c ∈ whole, Text.isDecimal c = true)
      (split : whole ++ rest = '0' :: letter :: digits) (someDigit : whole ≠ []) :
      rest = letter :: digits := by
    match whole with
    | [] => exact absurd rfl someDigit
    | [c] => exact (List.cons.inj split).2
    | c :: d :: more =>
        have isLetter : d = letter := (List.cons.inj (List.cons.inj split).2).1
        have isDigit := decimal d (by simp)
        rw [isLetter, noDigit] at isDigit
        contradiction
  cases isMantissa with
  | whole run =>
      have isExponent := behind run.2 shape run.1
      cases power with
      | absent => contradiction
      | @present mark _ _ isMark =>
          rw [← (List.cons.inj isExponent).1] at noMark
          exact noMark (by simpa using Or.inr isMark)
  | @pointed whole fraction decimal =>
      rw [List.append_assoc] at shape
      by_cases someDigit : whole = []
      · subst someDigit
        exact absurd (List.cons.inj shape).1 (by decide)
      · have point := (List.cons.inj (behind decimal shape someDigit)).1
        exact noMark (by simp [← point])

/-- A numeral that begins as a radix prefix does is a whole number in that base. -/
theorem isWholeForm_iff (spelled : Spelled text) :
    IsWholeForm text ↔ IsPrefixed text ∨ ('.' ∉ text ∧ 'e' ∉ text ∧ 'E' ∉ text) := by
  have noMark_iff : (∀ c ∈ text, c ∉ ['.', 'e', 'E']) ↔ '.' ∉ text ∧ 'e' ∉ text ∧ 'E' ∉ text := by
    constructor
    · intro noMark
      exact ⟨fun point => noMark _ point (by simp), fun low => noMark _ low (by simp),
        fun high => noMark _ high (by simp)⟩
    · rintro ⟨noPoint, noLow, noHigh⟩ c member isMark
      simp only [List.mem_cons, List.not_mem_nil, or_false] at isMark
      rcases isMark with rfl | rfl | rfl
      · exact noPoint member
      · exact noLow member
      · exact noHigh member
  rw [← noMark_iff]
  refine or_congr_left ?_
  constructor
  · rintro ⟨sign, body, signed, rfl, radix⟩
    obtain ⟨letter, base, digits, values, rfl, known, -⟩ := exists_of_radix radix
    exact ⟨sign, letter, base, digits, signed, known, rfl⟩
  · rintro ⟨sign, letter, base, digits, signed, known, rfl⟩
    generalize shape : sign ++ '0' :: letter :: digits = whole at spelled
    cases spelled with
    | radix isSign radix => exact ⟨_, _, isSign, rfl, radix⟩
    | @decimal other mantissa exponent isSign isMantissa power =>
        have unsigned := unsigned_of_body (.inr ⟨rfl, isMantissa, power⟩)
        have sameBody := (sign_unique signed isSign (by simp) unsigned shape).2
        exact absurd sameBody.symm (ne_prefixed_of_mantissa isMantissa power known)

theorem Writes.isWholeForm {n : Int} (writes : Writes text n) : IsWholeForm text := by
  have spelled := spelled_of_writes writes
  cases writes with
  | radix signed known =>
      exact (isWholeForm_iff spelled).mpr (.inl ⟨_, _, _, _, signed, known, rfl⟩)
  | @decimal sign digits _ signed nonempty valued =>
      refine .inr fun c member => ?_
      rcases List.mem_append.mp member with inSign | inDigits
      · cases signed <;> simp_all
      · have isDigit := (valued.isRun nonempty).2 c inDigits
        intro isMark
        simp only [List.mem_cons, List.not_mem_nil, or_false] at isMark
        rcases isMark with rfl | rfl | rfl <;> exact absurd isDigit (by decide)

end Numeral

/-! ## Spelled literals -/

namespace Literal

/-- A literal that is a number is spelled as one. -/
def Spelled (literal : Literal) : Prop :=
  ∀ source, literal = .number source → Numeral.Spelled source.toList

theorem spelled_text (value : String) : (Literal.text value).Spelled := nofun

theorem spelled_number {fragment : List Char} (spelled : Numeral.Spelled fragment) :
    (Literal.number (String.ofList fragment)).Spelled := by
  rintro source ⟨⟩
  rw [String.toList_ofList]
  exact spelled

theorem spelled_of_parse {text tag : Option String} {literal : Literal}
    (read : parse text tag = .ok literal) : literal.Spelled := by
  have reads := parse_eq_ok_iff.mp read
  generalize Text.trim (text.getD "").toList = fragment at reads
  cases reads with
  | number spelled => exact spelled_number spelled
  | _ => exact nofun

end Literal

/-! ## Plain values -/

namespace Literal

theorem numberValue_eq_ok_iff {source : String} {number : NumberValue} :
    numberValue source = .ok number ↔ Numeral.value source.toList = .ok number := by
  unfold numberValue
  cases Numeral.value source.toList <;> simp [Except.mapError]

theorem toData_number (source : String) :
    (Literal.number source).toData = (numberValue source).map .number := rfl

theorem toData_number_iff {source : String} {data : Data} :
    (Literal.number source).toData = .ok data ↔
      ∃ number, Numeral.value source.toList = .ok number ∧ data = .number number := by
  simp only [← numberValue_eq_ok_iff, toData_number]
  cases numberValue source <;> simp [Except.map, eq_comm]

/-- A number without a plain value fails with the number of its digits. -/
theorem toData_number_error_iff {source : String} (spelled : Numeral.Spelled source.toList)
    {failure : Failure} :
    (Literal.number source).toData = .error failure ↔
      ∃ count, Numeral.HasDigits source.toList count ∧ Number.maxDigits < count ∧
        failure = .wrongValue (.longNumeral count) := by
  have byFault : (Literal.number source).toData = .error failure ↔
      ∃ fault, Numeral.value source.toList = .error fault ∧ failure = .wrongValue fault := by
    rw [toData_number, numberValue]
    cases Numeral.value source.toList <;> simp [Except.mapError, Except.map, eq_comm]
  simp only [byFault, Numeral.value_eq_error_iff spelled]
  constructor
  · rintro ⟨_, ⟨count, digits, many, rfl⟩, rfl⟩
    exact ⟨count, digits, many, rfl⟩
  · rintro ⟨count, digits, many, rfl⟩
    exact ⟨_, ⟨count, digits, many, rfl⟩, rfl⟩

theorem exists_toData_of_spelled {source : String} (spelled : Numeral.Spelled source.toList)
    (short : ¬Numeral.IsLong source.toList) :
    ∃ number, (Literal.number source).toData = .ok (.number number) := by
  obtain ⟨number, known⟩ := Numeral.exists_value spelled short
  exact ⟨number, toData_number_iff.mpr ⟨number, known, rfl⟩⟩

theorem toData_eq_whole_iff {source : String} {n : Int} :
    (Literal.number source).toData = .ok (.number (.whole n)) ↔
      Numeral.Writes source.toList n ∧ ¬Numeral.IsLong source.toList := by
  rw [← Numeral.value_eq_whole_iff, toData_number_iff]
  constructor
  · rintro ⟨number, known, same⟩
    cases same
    exact known
  · exact fun known => ⟨_, known, rfl⟩

/-- What is read as a number is the fragment without the blanks at its ends. -/
theorem spelled_of_number {text tag : Option String} {source : String}
    (read : parse text tag = .ok (.number source)) :
    source.toList = Text.trim (text.getD "").toList ∧ Numeral.Spelled source.toList := by
  have reads := parse_eq_ok_iff.mp read
  generalize Text.trim (text.getD "").toList = fragment at reads
  cases reads with
  | number spelled =>
      rw [String.toList_ofList]
      exact ⟨rfl, spelled⟩

/-- Each number that is read has a plain value, unless it is a whole decimal one with too many digits. The value is
whole exactly if the number has a radix prefix, or neither a point nor an exponent, and then it is the number that sign
and digits write in their base. A whole number has a decimal text exactly if it is not too long, and the text is worth
this number. -/
theorem number_toData :
    (∀ {text tag : Option String} {source : String}, parse text tag = .ok (.number source) →
      source.toList = Text.trim (text.getD "").toList ∧
      (∀ count, Numeral.HasDigits source.toList count → Number.maxDigits < count →
        (Literal.number source).toData = .error (.wrongValue (.longNumeral count))) ∧
      (¬Numeral.IsLong source.toList → ∃ value, (Literal.number source).toData = .ok (.number value) ∧
        ((∃ n, value = .whole n) ↔ Numeral.IsPrefixed source.toList ∨
          ('.' ∉ source.toList ∧ 'e' ∉ source.toList ∧ 'E' ∉ source.toList)) ∧
        ∀ n, value = .whole n ↔ Numeral.Writes source.toList n)) ∧
    ∀ n : Int,
      (n.natAbs < 10 ^ Number.maxDigits → ∃ source, Number.wholeText? n = some source ∧
        (Literal.number source).toData = .ok (.number (.whole n))) ∧
      (10 ^ Number.maxDigits ≤ n.natAbs → Number.wholeText? n = none) := by
  refine ⟨?_, fun n => ⟨fun small => ?_, Numeral.wholeText?_eq_none_iff.mpr⟩⟩
  · intro text tag source read
    obtain ⟨fragment, spelled⟩ := spelled_of_number read
    refine ⟨fragment, fun count digits many =>
      (toData_number_error_iff spelled).mpr ⟨count, digits, many, rfl⟩, fun short => ?_⟩
    obtain ⟨value, isData⟩ := exists_toData_of_spelled spelled short
    have isWhole : ∀ n, value = .whole n ↔ Numeral.Writes source.toList n := by
      intro n
      rw [← and_iff_left (a := Numeral.Writes source.toList n) short, ← toData_eq_whole_iff, isData]
      simp
    refine ⟨value, isData, ?_, isWhole⟩
    simp only [isWhole]
    rw [← Numeral.isWholeForm_iff spelled]
    constructor
    · rintro ⟨n, writes⟩
      exact writes.isWholeForm
    · exact Numeral.exists_writes spelled
  · have written := Numeral.wholeText?_eq_some_iff.mpr ⟨small, rfl⟩
    exact ⟨_, written, toData_eq_whole_iff.mpr (Numeral.writes_of_wholeText? written)⟩

/-- A negative number in base sixteen, with a capital prefix and the mark of an exponent among its digits. -/
theorem number_toData_hexadecimal :
    parse (some " -0X1e ") none = .ok (.number "-0X1e") ∧ ¬Numeral.IsLong "-0X1e".toList ∧
      (Literal.number "-0X1e").toData = .ok (.number (.whole (-30))) ∧
      ((-30 : Int).natAbs < 10 ^ Number.maxDigits) ∧
      ∃ source, Number.wholeText? (-30) = some source ∧
        (Literal.number source).toData = .ok (.number (.whole (-30))) := by
  have read : parse (some " -0X1e ") none = .ok (.number "-0X1e") := by decide +kernel
  obtain ⟨writes, short⟩ := (@Numeral.value_eq_whole_iff "-0X1e".toList (-30)).mp (by decide +kernel)
  obtain ⟨value, data, -, isWhole⟩ := (number_toData.1 read).2.2 short
  rw [(isWhole _).mpr writes] at data
  have small : (-30 : Int).natAbs < 10 ^ Number.maxDigits := by decide +kernel
  exact ⟨read, short, data, small, (number_toData.2 (-30)).1 small⟩

/-- The least natural number without a decimal text. The numeral that would write it has no plain value either. -/
theorem not_number_toData :
    Number.wholeText? (10 ^ Number.maxDigits) = none ∧
      Numeral.Writes (Number.wholeChars (10 ^ Number.maxDigits)) (10 ^ Number.maxDigits) ∧
      (Literal.number (String.ofList (Number.wholeChars (10 ^ Number.maxDigits)))).toData =
        .error (.wrongValue (.longNumeral (Number.maxDigits + 1))) := by
  have natural : (10 ^ Number.maxDigits : Int).natAbs = 10 ^ Number.maxDigits := by simp [Int.natAbs_pow]
  have length : (Number.digitsOf (10 ^ Number.maxDigits)).length = Number.maxDigits + 1 := by
    apply le_antisymm
    · rw [Numeral.length_digitsOf_le_iff (Nat.succ_pos _)]
      exact Nat.pow_lt_pow_right (by decide) (Nat.lt_succ_self _)
    · rw [Nat.succ_le_iff, ← not_le, Numeral.length_digitsOf_le_iff (by decide)]
      exact lt_irrefl _
  have writes := Numeral.writes_wholeChars (10 ^ Number.maxDigits)
  have digits := Numeral.hasDigits_wholeChars (10 ^ Number.maxDigits)
  rw [natural, length] at digits
  refine ⟨Numeral.wholeText?_eq_none_iff.mpr natural.ge, writes, ?_⟩
  rw [← String.toList_ofList (l := Number.wholeChars _)] at writes digits
  exact (toData_number_error_iff (Numeral.spelled_of_writes writes)).mpr
    ⟨_, digits, Nat.lt_succ_self _, rfl⟩

end Literal

end DeclaredOptions
