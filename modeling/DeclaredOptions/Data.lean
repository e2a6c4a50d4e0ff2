import DeclaredOptions.Failure
import DeclaredOptions.Number.Value
import DeclaredOptions.Text.Quoted

/-!
Contract: plain data, as configurations hold it and as inspected schemas are shown.

Owns: the value type, look-up by key, equality by value, the inline text of a value, and which values can be
written at all.

Does not own: any data format.
-/

namespace DeclaredOptions

/-- A calendar date with an optional time of day; `offset` is in seconds, and a time without one is
local. -/
structure Moment where
  year : Nat
  month : Nat
  day : Nat
  time : Option (Nat × Nat × Nat × Nat)
  offset : Option Int
  deriving DecidableEq, Repr

inductive Data where
  | null
  | truth (value : Bool)
  | number (value : NumberValue)
  | text (value : String)
  | moment (value : Moment)
  | bytes (value : List UInt8)
  | list (items : List Data)
  | tuple (items : List Data)
  | members (items : List Data)
  | mapping (entries : List (Data × Data))
  deriving Repr

namespace Data

def ofFields (fields : List (String × Data)) : Data :=
  .mapping (fields.map fun (name, value) => (.text name, value))

def whole (n : Int) : Data := .number (.whole n)

mutual

/-- Whether two values are equal as keys. -/
def same : Data → Data → Bool
  | .null, .null => true
  | .truth a, .truth b => a == b
  | .truth a, .number b => (NumberValue.whole (if a then 1 else 0)).same b
  | .number a, .truth b => a.same (NumberValue.whole (if b then 1 else 0))
  | .number a, .number b => a.same b
  | .text a, .text b => a == b
  | .moment a, .moment b => a == b
  | .bytes a, .bytes b => a == b
  | .list a, .list b => sameItems a b
  | .tuple a, .tuple b => sameItems a b
  | .members a, .members b => sameItems a b
  | _, _ => false

/-- Whether two lists hold equal values in the same order. -/
def sameItems : List Data → List Data → Bool
  | [], [] => true
  | a :: as, b :: bs => same a b && sameItems as bs
  | _, _ => false

end

def find? (key : Data) (entries : List (Data × Data)) : Option Data :=
  (entries.find? fun entry => entry.1.same key).map (·.2)

/-- Sets a key: a new key comes last, an old one keeps its place. -/
def insert (entries : List (Data × Data)) (key value : Data) : List (Data × Data) :=
  match entries with
  | [] => [(key, value)]
  | entry :: rest =>
    if entry.1.same key then (entry.1, value) :: rest else entry :: insert rest key value

/-- Whether a value counts as present: absent, zero and empty values do not. -/
def isPresent : Data → Bool
  | .null => false
  | .truth value => value
  | .number value => !value.same (.whole 0)
  | .text value => !value.isEmpty
  | .moment _ => true
  | .bytes value => !value.isEmpty
  | .list items | .tuple items | .members items => !items.isEmpty
  | .mapping entries => !entries.isEmpty

def kind : Data → String
  | .null => "NoneType"
  | .truth _ => "bool"
  | .number (.whole _) => "int"
  | .number (.real _) => "float"
  | .text _ => "str"
  | .moment value => if value.time.isSome then "datetime.datetime" else "datetime.date"
  | .bytes _ => "bytes"
  | .list _ => "list"
  | .tuple _ => "tuple"
  | .members _ => "set"
  | .mapping _ => "dict"

def byteChars (mark : Char) (byte : UInt8) : List Char :=
  let c := Char.ofNat byte.toNat
  if c == mark || c == '\\' then ['\\', c]
  else if c == '\n' then ['\\', 'n']
  else if c == '\r' then ['\\', 'r']
  else if c == '\t' then ['\\', 't']
  else if 0x20 ≤ byte.toNat && byte.toNat < 0x7f then [c]
  else '\\' :: 'x' :: Text.hexDigits 2 byte.toNat

/-- Bytes in quotation marks after the letter that tells them from a text. -/
def bytesText (bytes : List UInt8) : String :=
  let mark := if bytes.contains 39 && !bytes.contains 34 then '"' else '\''
  String.ofList ('b' :: mark :: bytes.flatMap (byteChars mark) ++ [mark])

/-- The parts of a time offset: whole days below zero, then seconds. -/
def offsetText (seconds : Int) : String :=
  let days := seconds.fdiv 86400
  let rest := seconds.fmod 86400
  let part (name : String) (n : Int) :=
    if n == 0 then "" else name ++ "=" ++ String.ofList (Number.wholeChars n)
  let parts := [part "days" days, part "seconds" rest].filter fun part => !part.isEmpty
  "datetime.timedelta(" ++ (if parts.isEmpty then "0" else Text.joined ", " parts) ++ ")"

def momentText (value : Moment) : String :=
  let day := [value.year, value.month, value.day].map Number.naturalText
  match value.time with
  | none => "datetime.date(" ++ Text.joined ", " day ++ ")"
  | some (hour, minute, second, fraction) =>
    let tail :=
      if fraction != 0 then [second, fraction] else if second != 0 then [second] else []
    let zone :=
      match value.offset with
      | none => []
      | some 0 => ["tzinfo=datetime.timezone.utc"]
      | some offset => ["tzinfo=datetime.timezone(" ++ offsetText offset ++ ")"]
    "datetime.datetime("
      ++ Text.joined ", " (day ++ ([hour, minute] ++ tail).map Number.naturalText ++ zone) ++ ")"

mutual

def inline : Data → String
  | .null => "None"
  | .truth true => "True"
  | .truth false => "False"
  | .number value => value.text
  | .text value => Text.quoted value
  | .moment value => momentText value
  | .bytes value => bytesText value
  | .list items => "[" ++ Text.joined ", " (inlineItems items) ++ "]"
  | .tuple items =>
    match inlineItems items with
    | [one] => "(" ++ one ++ ",)"
    | parts => "(" ++ Text.joined ", " parts ++ ")"
  | .members items =>
    if items.isEmpty then "set()"
    else "\x7b" ++ Text.joined ", " (inlineItems items) ++ "\x7d"
  | .mapping entries => "\x7b" ++ Text.joined ", " (inlineEntries entries) ++ "\x7d"

def inlineItems : List Data → List String
  | [] => []
  | item :: rest => inline item :: inlineItems rest

def inlineEntries : List (Data × Data) → List String
  | [] => []
  | (key, value) :: rest => (inline key ++ ": " ++ inline value) :: inlineEntries rest

end

mutual

/-- Whether every whole number in a value can be written. -/
def isWritable : Data → Bool
  | .number (.whole n) => Number.isWritable n
  | .list items | .tuple items | .members items => areWritable items
  | .mapping entries => areWritableEntries entries
  | _ => true

def areWritable : List Data → Bool
  | [] => true
  | item :: rest => isWritable item && areWritable rest

def areWritableEntries : List (Data × Data) → Bool
  | [] => true
  | (key, value) :: rest => isWritable key && isWritable value && areWritableEntries rest

end

def writable (data : Data) : Except Failure Data :=
  if data.isWritable then .ok data else .error (.wrongValue .longNumber)

def shown (data : Data) : Except Failure String := inline <$> data.writable

end Data

end DeclaredOptions
