import DeclaredOptions.Text.Cut

/-!
Contract: the lengths of tokens at the start of a text.

Owns: words, numbers, quoted strings, escapes, regular expressions and operators.

Does not own: which token is allowed where.
-/

namespace DeclaredOptions.Source.Lexeme

/-- Characters that no word holds, beside blanks and controls. -/
def marks : List Char := ":;\x60\"'@#.,|^&<=>+-*/\\%?!~()[]\x7b\x7d".toList

/-- A character that a word may hold after its first. -/
def isWordPart (c : Char) : Bool :=
  let n := c.toNat
  if n < 128 then 0x20 < n && !marks.contains c
  else !(Text.isBlank c || n == 0xfeff || n == 0x2060 || n == 0x200b)

/-- The length of a Unicode escape inside a word, backslash included. -/
def wordEscape? : List Char → Option Nat
  | '\\' :: 'u' :: '\x7b' :: rest =>
    let digits := rest.takeWhile Text.isHex
    if !digits.isEmpty && (rest.drop digits.length).head? == some '\x7d' then
      some (digits.length + 4)
    else none
  | '\\' :: 'u' :: a :: b :: c :: d :: _ => if [a, b, c, d].all Text.isHex then some 6 else none
  | _ => none

/-- The length of the characters that go on with a word. -/
def wordTail (text : List Char) : Nat → Nat
  | 0 => 0
  | fuel + 1 =>
    match wordEscape? text with
    | some length => length + wordTail (text.drop length) fuel
    | none =>
      match text with
      | c :: rest => if isWordPart c then 1 + wordTail rest fuel else 0
      | [] => 0

/-- The length of a word; it does not begin with an ASCII digit. -/
def word? (text : List Char) : Option Nat :=
  match text with
  | [] => none
  | c :: _ =>
    let length := wordTail text text.length
    if c.isDigit || length == 0 then none else some length

/-- The length of a run of digits in which single underscores may stand between two digits. -/
def digitRun (isDigit : Char → Bool) : List Char → Nat
  | '_' :: c :: rest => if isDigit c then 2 + digitRun isDigit rest else 0
  | c :: rest => if isDigit c then 1 + digitRun isDigit rest else 0
  | [] => 0

/-- The length of a run of digits that begins with a digit. -/
def digits? (isDigit : Char → Bool) (text : List Char) : Option Nat :=
  match text with
  | c :: _ => if isDigit c then some (digitRun isDigit text) else none
  | [] => none

def exponent (text : List Char) : Nat :=
  match text with
  | e :: rest =>
    if e == 'e' || e == 'E' then
      match rest with
      | sign :: more =>
        if sign == '+' || sign == '-' then ((digits? Char.isDigit more).map (· + 2)).getD 0
        else ((digits? Char.isDigit rest).map (· + 1)).getD 0
      | [] => 0
    else 0
  | [] => 0

/-- The length with the mark of a big integer, if it follows. -/
def withBigMark (length : Nat) (text : List Char) : Nat :=
  if (text.drop length).head? == some 'n' then length + 1 else length

def decimal? (text : List Char) : Option Nat :=
  match text with
  | '.' :: rest =>
    (digits? Char.isDigit rest).map fun length =>
      1 + length + exponent (rest.drop length)
  | _ =>
    (digits? Char.isDigit text).map fun whole =>
      match text.drop whole with
      | '.' :: rest =>
        let fraction := (digits? Char.isDigit rest).getD 0
        whole + 1 + fraction + exponent (rest.drop fraction)
      | rest =>
        let length := exponent rest
        if length == 0 then withBigMark whole text else whole + length

def number? (text : List Char) : Option Nat :=
  match text with
  | '0' :: letter :: rest =>
    let isDigit? : Option (Char → Bool) :=
      if letter == 'x' || letter == 'X' then some Text.isHex
      else if letter == 'o' || letter == 'O' then some fun c => '0' ≤ c && c ≤ '7'
      else if letter == 'b' || letter == 'B' then some fun c => c == '0' || c == '1'
      else none
    match isDigit? with
    | some isDigit =>
      match digits? isDigit rest with
      | some length => some (withBigMark (length + 2) text)
      | none => some 1
    | none => decimal? text
  | _ => decimal? text

/-- The length of an escape, backslash included. -/
def escape? : List Char → Option Nat
  | '\\' :: 'x' :: a :: b :: _ => if Text.isHex a && Text.isHex b then some 4 else none
  | '\\' :: 'u' :: rest => wordEscape? ('\\' :: 'u' :: rest)
  | '\\' :: '\r' :: '\n' :: _ => some 3
  | '\\' :: c :: _ => if c == 'x' then none else some 2
  | _ => none

/-- The length of a string after its opening quote, the closing one included. -/
def stringTail? (quote : Char) (text : List Char) : Nat → Option Nat
  | 0 => none
  | fuel + 1 =>
    match text with
    | [] => none
    | '\\' :: _ => do
      let length ← escape? text
      let tail ← stringTail? quote (text.drop length) fuel
      some (length + tail)
    | c :: rest =>
      if c == quote then some 1
      else if c == '\n' || c == '\r' then none
      else (stringTail? quote rest fuel).map (· + 1)

def string? (text : List Char) : Option Nat :=
  match text with
  | '\'' :: rest => (stringTail? '\'' rest text.length).map (· + 1)
  | '"' :: rest => (stringTail? '"' rest text.length).map (· + 1)
  | _ => none

/-- The length of a regular expression after its opening slash, the closing one included. -/
def regexTail? (inClass : Bool) : List Char → Option Nat
  | [] => none
  | '\\' :: c :: rest => if c == '\n' then none else (regexTail? inClass rest).map (· + 2)
  | c :: rest =>
    if c == '\n' || c == '\\' then none
    else if inClass then (regexTail? (c != ']') rest).map (· + 1)
    else if c == '/' then some 1
    else (regexTail? (c == '[') rest).map (· + 1)

/-- The length of a regular expression with its flags. -/
def regex? (text : List Char) : Option Nat :=
  match text with
  | '/' :: first :: rest =>
    if first == '/' || first == '*' then none
    else
      (regexTail? false (first :: rest)).map fun length =>
        let whole := length + 1
        whole + ((text.drop whole).takeWhile fun c => 'a' ≤ c && c ≤ 'z').length
  | _ => none

/-- Binary operators and assignments, longer ones before their beginnings. -/
def operators : List String :=
  [">>>=", "===", "!==", "**=", "<<=", ">>=", ">>>", "&&=", "||=", "??=", "=>", "==", "!=", "<=",
    ">=", "&&", "||", "??", "?.", "++", "--", "+=", "-=", "*=", "/=", "%=", "&=", "|=", "^=", "<<",
    ">>", "**", "=", "<", ">", "+", "-", "*", "/", "%", "&", "|", "^", "!", "?", ":", ",", ";"]

/-- The longest operator at the start of a text. A question mark before a fraction is a mark of its
own. -/
def operator? (text : List Char) : Option String :=
  let found := operators.find? fun op => (Text.after? op.toList text).isSome
  match found, text with
  | some "?.", _ :: _ :: c :: _ => if c.isDigit then some "?" else found
  | _, _ => found

def assignments : List String :=
  ["=", ">>>=", "**=", "<<=", ">>=", "&&=", "||=", "??=", "+=", "-=", "*=", "/=", "%=", "&=", "|=",
    "^="]

def binaries : List String :=
  ["===", "!==", ">>>", "==", "!=", "<=", ">=", "&&", "||", "??", "<<", ">>", "**", "<", ">", "+",
    "-", "*", "/", "%", "&", "|", "^"]

end DeclaredOptions.Source.Lexeme
