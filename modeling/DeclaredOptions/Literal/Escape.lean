import DeclaredOptions.Text.Class

/-!
Contract: the strict string syntax that quoted literals are decoded by.

Owns: the escapes of a double-quoted body, surrogate pairs included, the refusal of raw controls and
unknown escapes, and the double-quoted form of a single-quoted body.

Does not own: where a quoted literal begins and ends.
-/

namespace DeclaredOptions.Escape

inductive Fault where
  | unknownEscape
  | badNumber
  | rawControl
  | unterminated
  deriving DecidableEq, Repr

def Fault.message : Fault → String
  | .unknownEscape => "Invalid \\escape"
  | .badNumber => "Invalid \\uXXXX escape"
  | .rawControl => "Invalid control character at"
  | .unterminated => "Unterminated string starting at"

def letter? (c : Char) : Option Char :=
  if c == '"' || c == '\\' || c == '/' then some c
  else if c == 'b' then some '\x08'
  else if c == 'f' then some '\x0c'
  else if c == 'n' then some '\n'
  else if c == 'r' then some '\r'
  else if c == 't' then some '\t'
  else none

def fourHex? (a b c d : Char) : Option Nat := do
  let a ← Text.hexValue? a
  let b ← Text.hexValue? b
  let c ← Text.hexValue? c
  let d ← Text.hexValue? d
  some (((a * 16 + b) * 16 + c) * 16 + d)

/-- A code unit that opens a surrogate pair. -/
def isHigh (unit : Nat) : Bool := 0xD800 ≤ unit && unit ≤ 0xDBFF

/-- A code unit that closes a surrogate pair. -/
def isLow (unit : Nat) : Bool := 0xDC00 ≤ unit && unit ≤ 0xDFFF

/-- The character of a code unit; a surrogate without its partner has none and is replaced. -/
def unitChar (unit : Nat) : Char :=
  if isHigh unit || isLow unit then '\uFFFD' else Char.ofNat unit

def pairChar (high low : Nat) : Char :=
  Char.ofNat (0x10000 + (high - 0xD800) * 0x400 + (low - 0xDC00))

def decode : List Char → Except Fault (List Char)
  | [] => .ok []
  | '\\' :: 'u' :: a :: b :: c :: d :: '\\' :: 'u' :: e :: f :: g :: h :: rest =>
    match fourHex? a b c d with
    | none => .error .badNumber
    | some high =>
      if isHigh high then
        match fourHex? e f g h with
        | none => .error .badNumber
        | some low =>
          if isLow low then (pairChar high low :: ·) <$> decode rest
          else (unitChar high :: ·) <$> decode ('\\' :: 'u' :: e :: f :: g :: h :: rest)
      else (unitChar high :: ·) <$> decode ('\\' :: 'u' :: e :: f :: g :: h :: rest)
  | '\\' :: 'u' :: a :: b :: c :: d :: rest =>
    match fourHex? a b c d with
    | none => .error .badNumber
    | some unit => (unitChar unit :: ·) <$> decode rest
  | '\\' :: 'u' :: _ => .error .badNumber
  | '\\' :: c :: rest =>
    match letter? c with
    | some c => (c :: ·) <$> decode rest
    | none => .error .unknownEscape
  | ['\\'] => .error .unterminated
  | c :: rest =>
    if c.toNat < 0x20 then .error .rawControl else (c :: ·) <$> decode rest

/-- The double-quoted form of a single-quoted body: an escaped single quote loses its backslash and a
bare double quote gains one. -/
def requote : List Char → List Char
  | [] => []
  | '\\' :: '\'' :: rest => '\'' :: requote rest
  | '\\' :: c :: rest => '\\' :: c :: requote rest
  | '"' :: rest => '\\' :: '"' :: requote rest
  | c :: rest => c :: requote rest

end DeclaredOptions.Escape
