import DeclaredOptions.Text.PrintTable
import DeclaredOptions.Text.WordTable

/-!
Contract: the character classes that documentation, literals and messages are read and written by.

Owns:
- blanks and line boundaries;
- decimal digits with their values, digits at large, word characters and identifier starts;
- the characters that stand for themselves in a quoted text.

Does not own: cutting and trimming of texts.
-/

namespace DeclaredOptions.Text

/-- Whether some closed range of a table holds the code point. -/
def inRanges (ranges : Array (Nat × Nat)) (code : Nat) : Bool :=
  ranges.any fun (low, high) => low ≤ code && code ≤ high

/-- A blank is a Unicode white-space character or one of the four information separators. -/
def isBlank (c : Char) : Bool :=
  let n := c.toNat
  n == 0x20 || (0x09 ≤ n && n ≤ 0x0d) || (0x1c ≤ n && n ≤ 0x1f) || n == 0x85 || n == 0xa0
    || n == 0x1680 || (0x2000 ≤ n && n ≤ 0x200a) || n == 0x2028 || n == 0x2029
    || n == 0x202f || n == 0x205f || n == 0x3000

/-- A character that ends a line of running text; a carriage return may be followed by a line feed
that belongs to the same boundary. -/
def isLineBoundary (c : Char) : Bool :=
  let n := c.toNat
  (0x0a ≤ n && n ≤ 0x0d) || (0x1c ≤ n && n ≤ 0x1e) || n == 0x85 || n == 0x2028 || n == 0x2029

def decimalValue? (c : Char) : Option Nat :=
  let n := c.toNat
  if n < 128 then
    if 0x30 ≤ n && n ≤ 0x39 then some (n - 0x30) else none
  else
    (decimalZeros.find? fun first => first ≤ n && n < first + 10).map (n - ·)

def isDecimal (c : Char) : Bool := (decimalValue? c).isSome

/-- A digit of any kind, superscripts and enclosed digits included. -/
def isDigit (c : Char) : Bool :=
  isDecimal c || (128 ≤ c.toNat && inRanges specialDigitRanges c.toNat)

/-- A letter, numeral or digit of any script, or the underscore. -/
def isWord (c : Char) : Bool :=
  if c.toNat < 128 then c.isAlphanum || c == '_' else inRanges wordRanges c.toNat

/-- An ASCII letter, the underscore or the dollar sign. -/
def isNameStart (c : Char) : Bool := c.isAlpha || c == '_' || c == '$'

/-- A word character or the dollar sign. -/
def isNamePart (c : Char) : Bool := isWord c || c == '$'

/-- A character that a quoted text shows as itself, apart from the quote and the backslash. -/
def isPrintable (c : Char) : Bool :=
  let n := c.toNat
  if n < 128 then 0x20 ≤ n && n != 0x7f else !inRanges unprintableRanges n

def hexValue? (c : Char) : Option Nat :=
  let n := c.toNat
  if 0x30 ≤ n && n ≤ 0x39 then some (n - 0x30)
  else if 0x61 ≤ n && n ≤ 0x66 then some (n - 0x57)
  else if 0x41 ≤ n && n ≤ 0x46 then some (n - 0x37)
  else none

def isHex (c : Char) : Bool := (hexValue? c).isSome

end DeclaredOptions.Text
