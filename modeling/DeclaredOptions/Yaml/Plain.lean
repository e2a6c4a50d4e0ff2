import DeclaredOptions.Data
import DeclaredOptions.Failure
import DeclaredOptions.Literal.Numeral

/-!
Contract: what unquoted scalars of YAML 1.1 stand for.

Owns:
- the kind of a scalar: truth value, number, moment, null, merge mark, default mark or text;
- the values of whole numbers in bases two, eight, ten and sixteen and in groups of sixty, of fractions,
  and of moments;
- decimal digits that are too many for a whole number.

Does not own: where scalars begin and end.
-/

namespace DeclaredOptions.Yaml

/-- What an unquoted scalar stands for. -/
inductive PlainKind where
  | text
  | truth
  | real
  | whole
  | merge
  | null
  | moment
  | default
  deriving DecidableEq, Repr

def trueWords : List String :=
  ["yes", "Yes", "YES", "true", "True", "TRUE", "on", "On", "ON"]

def falseWords : List String :=
  ["no", "No", "NO", "false", "False", "FALSE", "off", "Off", "OFF"]

def nullWords : List String := ["", "~", "null", "Null", "NULL"]

def isDigit (c : Char) : Bool := c.isDigit

/-- A digit or an underscore, as numbers may hold after their first digit. -/
def isSpacedDigit (c : Char) : Bool := c.isDigit || c == '_'

/-- A text without the sign before it. -/
def unsigned : List Char → List Char
  | '+' :: rest => rest
  | '-' :: rest => rest
  | text => text

/-- Whether a text is a count of sixtieths: one digit, or two up to fifty-nine. -/
def isSixtieth : List Char → Bool
  | [c] => c.isDigit
  | [c, d] => '0' ≤ c && c ≤ '5' && d.isDigit
  | _ => false

def isExponent : List Char → Bool
  | [] => true
  | e :: sign :: digits =>
    (e == 'e' || e == 'E') && (sign == '+' || sign == '-') && !digits.isEmpty && digits.all isDigit
  | _ => false

def isWhole (text : List Char) : Bool :=
  match unsigned text with
  | ['0'] => true
  | '0' :: 'b' :: rest =>
    !rest.isEmpty && rest.all fun c => c == '0' || c == '1' || c == '_'
  | '0' :: 'x' :: rest => !rest.isEmpty && rest.all fun c => Text.isHex c || c == '_'
  | '0' :: rest => rest.all fun c => ('0' ≤ c && c ≤ '7') || c == '_'
  | first :: rest =>
    first.isDigit &&
      match Text.pieces ':' rest with
      | whole :: sixtieths => whole.all isSpacedDigit && sixtieths.all isSixtieth
      | [] => false
  | [] => false

def isUnsignedReal (text : List Char) : Bool :=
  match text.takeWhile (· != '.'), text.dropWhile (· != '.') with
  | first :: rest, _ :: after =>
    let fraction := after.dropWhile isSpacedDigit
    first.isDigit &&
      match Text.pieces ':' rest with
      | [whole] => whole.all isSpacedDigit && isExponent fraction
      | whole :: sixtieths =>
        whole.all isSpacedDigit && sixtieths.all isSixtieth && fraction.isEmpty
      | [] => false
  | _, _ => false

/-- Whether a text is a fraction without digits before its point, or not a number. -/
def isPointReal (text : List Char) : Bool :=
  match text with
  | '.' :: first :: rest =>
    (first.isDigit && isExponent (rest.dropWhile isSpacedDigit))
      || [".nan", ".NaN", ".NAN"].contains (String.ofList text)
  | _ => false

/-- Whether a text is a fraction, an infinity or not a number. -/
def isReal (text : List Char) : Bool :=
  isUnsignedReal (unsigned text) || isPointReal text
    || [".inf", ".Inf", ".INF"].contains (String.ofList (unsigned text))

/-! ## Moments -/

/-- The number of decimal digits, if all characters are. -/
def naturalOf? (digits : List Char) : Option Nat :=
  if !digits.isEmpty && digits.all isDigit then
    some (Number.ofDigits 10 (digits.map fun c => c.toNat - 48))
  else none

/-- The digits at the start of a text, at most so many, and the rest. -/
def someDigits (most : Nat) (text : List Char) : List Char × List Char :=
  let digits := (text.take most).takeWhile isDigit
  (digits, text.drop digits.length)

/-- A number of one or two digits and the rest. -/
def shortNumber? (text : List Char) : Option (Nat × List Char) :=
  let (digits, rest) := someDigits 2 text
  (naturalOf? digits).map (·, rest)

/-- A number of exactly two digits and the rest. -/
def pairNumber? (text : List Char) : Option (Nat × List Char) :=
  let (digits, rest) := someDigits 2 text
  if digits.length == 2 then (naturalOf? digits).map (·, rest) else none

def afterChar? (c : Char) : List Char → Option (List Char)
  | first :: rest => if first == c then some rest else none
  | [] => none

/-- Millionths of a second from the digits after the point. -/
def millionths (digits : List Char) : Nat :=
  (naturalOf? ((digits ++ List.replicate 6 '0').take 6)).getD 0

/-- A blank between the parts of a moment. -/
def isGap (c : Char) : Bool := c == ' ' || c == '\t'

/-- The offset at the end of a moment, in seconds; the text is nothing else. -/
def offset? (text : List Char) : Option (Option Int) :=
  match text.dropWhile isGap with
  | [] => if text.isEmpty then some none else none
  | ['Z'] => some (some 0)
  | sign :: rest => do
    if sign != '+' && sign != '-' then none
    let (hours, rest) ← shortNumber? rest
    let (minutes, rest) ←
      match rest with
      | [] => some (0, [])
      | ':' :: rest => pairNumber? rest
      | _ => none
    if !rest.isEmpty then none
    let seconds : Int := hours * 3600 + minutes * 60
    some (some (if sign == '-' then -seconds else seconds))

/-- The text after what stands between a date and a time of day. -/
def afterDateMark? : List Char → Option (List Char)
  | 'T' :: rest | 't' :: rest => some rest
  | c :: rest => if isGap c then some (rest.dropWhile isGap) else none
  | [] => none

/-- The time of day and the offset that are a whole text. -/
def timeOf? (text : List Char) : Option ((Nat × Nat × Nat × Nat) × Option Int) := do
  let (hour, rest) ← shortNumber? (← afterDateMark? text)
  let (minute, rest) ← pairNumber? (← afterChar? ':' rest)
  let (second, rest) ← pairNumber? (← afterChar? ':' rest)
  let (fraction, rest) :=
    match rest with
    | '.' :: rest => (rest.takeWhile isDigit, rest.dropWhile isDigit)
    | rest => ([], rest)
  let offset ← offset? rest
  some ((hour, minute, second, millionths fraction), offset)

/-- The moment that a text writes; a date alone has two digits for month and day. -/
def momentOf? (text : List Char) : Option Moment := do
  let (year, rest) := someDigits 4 text
  if year.length != 4 then none
  let year ← naturalOf? year
  let rest ← afterChar? '-' rest
  let (monthDigits, rest) := someDigits 2 rest
  let month ← naturalOf? monthDigits
  let rest ← afterChar? '-' rest
  let (dayDigits, rest) := someDigits 2 rest
  let day ← naturalOf? dayDigits
  if rest.isEmpty then
    if monthDigits.length == 2 && dayDigits.length == 2 then some ⟨year, month, day, none, none⟩
    else none
  else
    let (time, offset) ← timeOf? rest
    some ⟨year, month, day, some time, offset⟩

/-! ## Kinds and values -/

/-- What an unquoted scalar stands for. -/
def plainKind (text : List Char) : PlainKind :=
  let word := String.ofList text
  if trueWords.contains word || falseWords.contains word then .truth
  else if isReal text then .real
  else if isWhole text then .whole
  else if word == "<<" then .merge
  else if nullWords.contains word then .null
  else if (momentOf? text).isSome then .moment
  else if word == "=" then .default
  else .text

/-- The number that groups of digits write, each group counting sixty of the next. -/
def sixtieths (groups : List (List Char)) : Option Nat :=
  groups.foldlM (fun value digits => (naturalOf? digits).map (value * 60 + ·)) 0

/-- The value of an unsigned whole number without underscores. -/
def unsignedWhole? : List Char → Option Nat
  | '0' :: 'b' :: rest =>
    if !rest.isEmpty && rest.all (fun c => c == '0' || c == '1') then
      some (Number.ofDigits 2 (rest.map fun c => c.toNat - 48))
    else none
  | '0' :: 'x' :: rest =>
    if rest.isEmpty then none else (rest.mapM Text.hexValue?).map (Number.ofDigits 16)
  | '0' :: rest => (((rest.mapM Text.hexValue?).filter fun digits => digits.all (· < 8))).map
      (Number.ofDigits 8)
  | text => sixtieths (Text.pieces ':' text)

def wholeValue? (text : List Char) : Option Int :=
  let spaced := text.filter (· != '_')
  (unsignedWhole? (unsigned spaced)).map (Numeral.signed (spaced.head? == some '-'))

/-- The number of digits of the first group of decimal digits that are too many for a whole number. -/
def longGroup? (text : List Char) : Option Nat :=
  match unsigned (text.filter (· != '_')) with
  | '0' :: _ => none
  | body =>
    ((Text.pieces ':' body).find? fun digits => Number.maxDigits < digits.length).map List.length

/-- The fraction that groups of digits write, the last of them with a point. -/
def sixtiethsReal (negative : Bool) (groups : List (List Char)) : Number.Binary64 :=
  let last := groups.getLastD []
  let whole := last.takeWhile isDigit
  let fraction := (last.dropWhile isDigit).filter isDigit
  let scale := Nat.pow 10 fraction.length
  let high := (sixtieths (groups.dropLast ++ [whole])).getD 0
  let low := (naturalOf? fraction).getD 0
  .ofFraction negative (high * scale + low) scale

def realValue? (text : List Char) : Option Number.Binary64 :=
  let spaced := (text.filter (· != '_')).map Char.toLower
  let negative := spaced.head? == some '-'
  let body := unsigned spaced
  if body == ".inf".toList then some (.infinite negative)
  else if body == ".nan".toList then some .nan
  else if body.contains ':' then some (sixtiethsReal negative (Text.pieces ':' body))
  else
    match Numeral.decimal? body with
    | some numeral =>
      match numeral.value negative with
      | .real x => some x
      | .whole n => some (if n == 0 && negative then .finite true 0 (-1074) else .ofWhole n)
    | none => none

end DeclaredOptions.Yaml
