import DeclaredOptions.Literal.Numeral
import DeclaredOptions.Text.Cut

/-!
Contract: numbers as people type them, in configurations and on command lines.

Owns: blanks around a number, single underscores between its digits, and the words for infinities and
NaN.

Does not own: numbers of declaration sources, which are stricter.
-/

namespace DeclaredOptions.Numeral

/-- The digits of a whole number in which single underscores stand between digits. -/
def wholeDigits? : List Char → Option (List Nat)
  | [] => none
  | c :: rest =>
    match Text.decimalValue? c, rest with
    | none, _ => none
    | some digit, [] => some [digit]
    | some digit, '_' :: more => (wholeDigits? more).map (digit :: ·)
    | some digit, more => (wholeDigits? more).map (digit :: ·)

/-- The whole number that a text writes, which is shown where it writes none. Only digits count for its length. -/
def wholeOfText (text : List Char) (shown : String) : Except ValueFault Int :=
  let (negative, rest) := splitSign (Text.trim text)
  match wholeDigits? rest with
  | none => .error (.notNumeral shown)
  | some digits =>
    if Number.maxDigits < digits.length then .error (.longNumeral digits.length)
    else .ok (signed negative (Number.ofDigits 10 digits))

/-- A text without the underscores in it, if each stands between two digits; `afterDigit` tells whether a
digit comes before. -/
def withoutSeparators? (afterDigit : Bool) : List Char → Option (List Char)
  | [] => some []
  | '_' :: rest =>
    if afterDigit && rest.head?.any Text.isDecimal then withoutSeparators? false rest else none
  | c :: rest => (withoutSeparators? (Text.isDecimal c) rest).map (c :: ·)

/-- The binary64 number that an unsigned text writes. -/
def realOfBody? (negative : Bool) (body : List Char) : Option Number.Binary64 :=
  let word := String.ofList (body.map Char.toLower)
  if word == "inf" || word == "infinity" then some (.infinite negative)
  else if word == "nan" then some .nan
  else do
    match ← decimal? (← withoutSeparators? false body) with
    | .radix .. => none
    | .decimal whole fraction exponent =>
      let digits := whole ++ fraction.getD []
      some (.ofDecimal negative (Number.ofDigits 10 digits) digits.length
        (exponent.getD 0 - ((fraction.getD []).length : Int)))

/-- The binary64 number that a text writes. -/
def realOfText? (text : List Char) : Option Number.Binary64 :=
  let (negative, body) := splitSign (Text.trim text)
  realOfBody? negative body

end DeclaredOptions.Numeral
