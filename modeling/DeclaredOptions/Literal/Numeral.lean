import DeclaredOptions.Failure
import DeclaredOptions.Number.Value
import DeclaredOptions.Text.Class

/-!
Contract: numerals, the texts of numeric literals.

Owns:
- the grammar: an optional sign, then a radix-prefixed whole number or a decimal fraction with an
  optional exponent, whose decimal digits may be of any script;
- the value of a numeral, exact for whole numbers and binary64 otherwise, and the failure of whole decimal numerals
  that are too long.

Does not own: numbers of generated sources, where other spellings may be refused.
-/

namespace DeclaredOptions.Numeral

inductive Body where
  /-- A whole number in base sixteen, eight or two. -/
  | radix (base : Nat) (digits : List Nat)
  /-- Decimal digits before and after the point, and the exponent; the point is there exactly when
  `fraction` is. -/
  | decimal (whole : List Nat) (fraction : Option (List Nat)) (exponent : Option Int)
  deriving DecidableEq, Repr

/-- The values of leading digits by a digit rule, and the rest. -/
def takeDigits (digit? : Char → Option Nat) : List Char → List Nat × List Char
  | [] => ([], [])
  | c :: rest =>
    match digit? c with
    | some digit =>
      let (digits, rest) := takeDigits digit? rest
      (digit :: digits, rest)
    | none => ([], c :: rest)

/-- The base that a prefix letter announces. -/
def base? (c : Char) : Option Nat :=
  if c == 'x' || c == 'X' then some 16
  else if c == 'o' || c == 'O' then some 8
  else if c == 'b' || c == 'B' then some 2
  else none

def digitBelow? (base : Nat) (c : Char) : Option Nat :=
  (Text.hexValue? c).filter (· < base)

/-- Reads a radix-prefixed whole number that is the whole text. -/
def radix? : List Char → Option Body
  | '0' :: letter :: rest => do
    let base ← base? letter
    match takeDigits (digitBelow? base) rest with
    | ([], _) => none
    | (digits, []) => some (.radix base digits)
    | _ => none
  | _ => none

def splitSign : List Char → Bool × List Char
  | '+' :: rest => (false, rest)
  | '-' :: rest => (true, rest)
  | text => (false, text)

def signed (negative : Bool) (n : Nat) : Int := if negative then -(n : Int) else n

/-- Reads an exponent that is the whole rest of a numeral; `none` if it is malformed. -/
def exponent? : List Char → Option (Option Int)
  | [] => some none
  | 'e' :: rest | 'E' :: rest =>
    let (negative, rest) := splitSign rest
    match takeDigits Text.decimalValue? rest with
    | ([], _) => none
    | (digits, []) => some (some (signed negative (Number.ofDigits 10 digits)))
    | _ => none
  | _ => none

def decimal? (text : List Char) : Option Body :=
  match takeDigits Text.decimalValue? text with
  | (whole, '.' :: rest) =>
    let (fraction, rest) := takeDigits Text.decimalValue? rest
    if whole.isEmpty && fraction.isEmpty then none
    else (exponent? rest).map (.decimal whole (some fraction))
  | (whole, rest) =>
    if whole.isEmpty then none else (exponent? rest).map (.decimal whole none)

def read? (text : List Char) : Option (Bool × Body) :=
  let (negative, rest) := splitSign text
  ((radix? rest).or (decimal? rest)).map fun body => (negative, body)

def isNumeral (text : List Char) : Bool := (read? text).isSome

def Body.value (negative : Bool) : Body → NumberValue
  | .radix base digits => .whole (signed negative (Number.ofDigits base digits))
  | .decimal whole none none => .whole (signed negative (Number.ofDigits 10 whole))
  | .decimal whole fraction exponent =>
    let digits := whole ++ fraction.getD []
    .real (Number.Binary64.ofDecimal negative (Number.ofDigits 10 digits) digits.length
      (exponent.getD 0 - ((fraction.getD []).length : Int)))

/-- The number of digits of a whole decimal body, if they are too many. -/
def Body.excess? : Body → Option Nat
  | .decimal whole none none =>
    if Number.maxDigits < whole.length then some whole.length else none
  | _ => none

def value (text : List Char) : Except ValueFault NumberValue :=
  match read? text with
  | none => .error (.notNumeral (Text.quoted (String.ofList text)))
  | some (negative, body) =>
    match body.excess? with
    | some digits => .error (.longNumeral digits)
    | none => .ok (body.value negative)

end DeclaredOptions.Numeral
