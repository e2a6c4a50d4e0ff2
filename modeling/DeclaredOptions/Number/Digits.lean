/-!
Contract: digit lists of natural numbers and the numbers they denote.

Owns: value of a digit list in any base, decimal digits of a number, decimal text of a whole number, and how long
a whole number may be to be read or written in decimal digits.

Does not own: characters of other scripts and signs of fractions.
-/

namespace DeclaredOptions.Number

/-- The number that a list of digits denotes, the most significant first. -/
def ofDigits (base : Nat) (digits : List Nat) : Nat :=
  digits.foldl (fun value digit => value * base + digit) 0

/-- The decimal digits of a number, the most significant first; zero has one digit. -/
def digitsOf (n : Nat) : List Nat :=
  if n < 10 then [n] else digitsOf (n / 10) ++ [n % 10]
termination_by n

def digitChar (digit : Nat) : Char := Char.ofNat (0x30 + digit)

def naturalChars (n : Nat) : List Char := (digitsOf n).map digitChar

def wholeChars : Int → List Char
  | .ofNat n => naturalChars n
  | .negSucc n => '-' :: naturalChars (n + 1)

def naturalText (n : Nat) : String := String.ofList (naturalChars n)

/-- The most decimal digits that a whole number is read from or written with. Other bases have no such limit. -/
def maxDigits : Nat := 4300

/-- Whether a whole number has no more decimal digits than can be written. -/
def isWritable (n : Int) : Bool := (digitsOf n.natAbs).length ≤ maxDigits

/-- The decimal text of a whole number, as a string; a number that is too long has none. -/
def wholeText? (n : Int) : Option String :=
  if isWritable n then some (String.ofList (wholeChars n)) else none

end DeclaredOptions.Number
