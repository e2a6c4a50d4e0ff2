import DeclaredOptions.Data

/-!
Contract: plain data as JSON with one item or entry on a line.

Owns: the escapes of strings, which leave printable ASCII only, the texts of numbers, and indentation.

Does not own: the reading of JSON.
-/

namespace DeclaredOptions.JsonText

def unitEscape (unit : Nat) : List Char := '\\' :: 'u' :: Text.hexDigits 4 unit

def stringChar (c : Char) : List Char :=
  let n := c.toNat
  if c == '"' || c == '\\' then ['\\', c]
  else if 0x20 ≤ n && n ≤ 0x7e then [c]
  else if c == '\n' then ['\\', 'n']
  else if c == '\r' then ['\\', 'r']
  else if c == '\t' then ['\\', 't']
  else if n == 8 then ['\\', 'b']
  else if n == 12 then ['\\', 'f']
  else if n < 0x10000 then unitEscape n
  else
    let offset := n - 0x10000
    unitEscape (0xd800 + offset / 0x400) ++ unitEscape (0xdc00 + offset % 0x400)

def string (text : String) : List Char := '"' :: text.toList.flatMap stringChar ++ ['"']

/-- A number; numbers that are not finite have names. -/
def number : NumberValue → List Char
  | .real (.infinite negative) => if negative then "-Infinity".toList else "Infinity".toList
  | .real .nan => "NaN".toList
  | value => value.chars

def line (depth : Nat) : List Char := '\n' :: List.replicate (2 * depth) ' '

def block (depth : Nat) (left right : Char) (items : List (List Char)) : List Char :=
  if items.isEmpty then [left, right]
  else
    left :: line (depth + 1) ++ Text.join (',' :: line (depth + 1)) items ++ line depth ++ [right]

def key : Data → List Char
  | .text value => string value
  | other => string other.inline

mutual

/-- The text of a value whose brackets stand at a depth. -/
def value (depth : Nat) : Data → List Char
  | .null => "null".toList
  | .truth b => if b then "true".toList else "false".toList
  | .number n => number n
  | .text text => string text
  | .list items | .tuple items | .members items => block depth '[' ']' (values (depth + 1) items)
  | .mapping entries => block depth '\x7b' '\x7d' (fields (depth + 1) entries)
  | other => string other.inline

def values (depth : Nat) : List Data → List (List Char)
  | [] => []
  | item :: rest => value depth item :: values depth rest

def fields (depth : Nat) : List (Data × Data) → List (List Char)
  | [] => []
  | (name, item) :: rest => (key name ++ ':' :: ' ' :: value depth item) :: fields depth rest

end

/-- The text of a value, if the value can be written. -/
def document (data : Data) : Except Failure String := do
  pure (String.ofList (value 0 (← data.writable)))

end DeclaredOptions.JsonText
