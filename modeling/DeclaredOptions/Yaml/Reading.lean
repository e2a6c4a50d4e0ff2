import DeclaredOptions.Yaml.Node

/-!
Contract: the plain data that a YAML text holds.

Owns:
- the values of scalars by their types, and the refusal of texts that are none;
- mappings, where a later entry of a key wins and merged mappings come first.

Does not own: what the data means.
-/

namespace DeclaredOptions.Yaml

/-- Why a text gives no data. -/
inductive ReadFault where
  | malformed
  | value (fault : ValueFault)
  | noWord (word : String)

def daysOf (year month : Nat) : Nat :=
  if month == 2 then
    if year % 4 == 0 && (year % 100 != 0 || year % 400 == 0) then 29 else 28
  else if [4, 6, 9, 11].contains month then 30
  else 31

/-- What is wrong with a moment that the calendar or the clock does not have. -/
def momentFault? (m : Moment) : Option String :=
  if m.year == 0 then some "year 0 is out of range"
  else if m.month == 0 || 12 < m.month then some "month must be in 1..12"
  else if m.day == 0 || daysOf m.year m.month < m.day then some "day is out of range for month"
  else
    match m.time with
    | some (hour, minute, second, _) =>
      if 23 < hour then some "hour must be in 0..23"
      else if 59 < minute then some "minute must be in 0..59"
      else if 59 < second then some "second must be in 0..59"
      else none
    | none => none

def readMoment (text : String) : Except ReadFault Data :=
  match momentOf? text.toList with
  | none => .error .malformed
  | some m =>
    match momentFault? m with
    | some fault => .error (.value (.outOfRange fault))
    | none => .ok (.moment m)

def sextet? (c : Char) : Option Nat :=
  if c.isUpper then some (c.toNat - 65)
  else if c.isLower then some (c.toNat - 71)
  else if c.isDigit then some (c.toNat + 4)
  else if c == '+' then some 62
  else if c == '/' then some 63
  else none

def bytesOf : List Nat → Option (List UInt8)
  | a :: b :: c :: d :: rest => do
    let n := ((a * 64 + b) * 64 + c) * 64 + d
    let more ← bytesOf rest
    some ((n / 65536).toUInt8 :: (n / 256 % 256).toUInt8 :: (n % 256).toUInt8 :: more)
  | [a, b, c] =>
    let n := (a * 64 + b) * 64 + c
    some [(n / 1024).toUInt8, (n / 4 % 256).toUInt8]
  | [a, b] => some [(a * 4 + b / 16).toUInt8]
  | [_] => none
  | [] => some []

def readScalar (type : NodeType) (text : String) : Except ReadFault Data :=
  match type with
  | .plain .null => .ok .null
  | .plain .text => .ok (.text text)
  | .plain .truth =>
    let lower := String.ofList (text.toList.map Char.toLower)
    if trueWords.contains lower then .ok (.truth true)
    else if falseWords.contains lower then .ok (.truth false)
    else .error (.noWord lower)
  | .plain .whole =>
    match longGroup? text.toList, wholeValue? text.toList with
    | some digits, _ => .error (.value (.longNumeral digits))
    | none, some n => .ok (Data.whole n)
    | none, none => .error (.value (.notNumeral (Text.quoted text)))
  | .plain .real =>
    match realValue? text.toList with
    | some x => .ok (.number (.real x))
    | none => .error (.value (.notNumeral (Text.quoted text)))
  | .plain .moment => readMoment text
  | .bytes =>
    match bytesOf (text.toList.filterMap sextet?) with
    | some bytes => .ok (.bytes bytes)
    | none => .error .malformed
  | _ => .error .malformed

def isKey : Data → Bool
  | .list _ | .mapping _ | .members _ => false
  | .tuple items => items.all fun
    | .list _ | .mapping _ | .members _ => false
    | _ => true
  | _ => true

/-- The items of a list of single-entry mappings, as pairs. -/
def pairsOf (items : List Data) : Except ReadFault (List Data) :=
  items.mapM fun
    | .mapping [(key, value)] => .ok (.tuple [key, value])
    | _ => .error .malformed

def ofItems (type : NodeType) (items : List Data) : Except ReadFault Data :=
  match type with
  | .list => .ok (.list items)
  | .pairs | .orderedPairs => .list <$> pairsOf items
  | _ => .error .malformed

/-- A collection of values for a mapping node: a later entry of a key wins. -/
def ofEntries (type : NodeType) (entries : List (Data × Data)) : Except ReadFault Data :=
  let kept := entries.foldl (fun kept entry => Data.insert kept entry.1 entry.2) []
  match type with
  | .mapping => .ok (.mapping kept)
  | .members => .ok (.members (kept.map (·.1)))
  | _ => .error .malformed

def Node.scalarType? : Node → Option NodeType
  | .scalar type _ => some type
  | _ => none

def Node.isMerge (node : Node) : Bool := node.scalarType? == some (.plain .merge)

/-- Whether a node is the mark of a default, which as a key is a text. -/
def Node.isDefault (node : Node) : Bool := node.scalarType? == some (.plain .default)

mutual

def read : Node → Except ReadFault Data
  | .scalar type text => readScalar type text
  | .list type items => do ofItems type (← readItems items)
  | .mapping type entries => do
    let (merged, own) ← readEntries entries
    ofEntries type (merged ++ own)

def readItems : List Node → Except ReadFault (List Data)
  | [] => .ok []
  | item :: rest => do
    let first ← read item
    pure (first :: (← readItems rest))

/-- The entries of a mapping: those that it merges, and its own. -/
def readEntries : List (Node × Node) → Except ReadFault (List (Data × Data) × List (Data × Data))
  | [] => .ok ([], [])
  | (key, value) :: rest => do
    if key.isMerge then
      let first ← readMerged value
      let (merged, own) ← readEntries rest
      pure (first ++ merged, own)
    else
      let name ← if key.isDefault then pure (Data.text "=") else read key
      if !isKey name then throw .malformed
      let data ← read value
      let (merged, own) ← readEntries rest
      pure (merged, (name, data) :: own)

/-- The entries of a mapping, or of mappings of which the first wins. -/
def readMerged : Node → Except ReadFault (List (Data × Data))
  | .mapping _ entries => do
    let (merged, own) ← readEntries entries
    pure (merged ++ own)
  | .list _ items => readMergedItems items
  | .scalar _ _ => .error .malformed

/-- The entries of mappings, the last mapping first. -/
def readMergedItems : List Node → Except ReadFault (List (Data × Data))
  | [] => .ok []
  | .mapping _ entries :: rest => do
    let (merged, own) ← readEntries entries
    pure ((← readMergedItems rest) ++ merged ++ own)
  | _ :: _ => .error .malformed

end

/-- The data of a text; a text without a document holds nothing. -/
def parse (text : String) : Except ReadFault Data :=
  match (tokens? text.toList).bind root? with
  | none => .error .malformed
  | some none => .ok .null
  | some (some node) => read node

end DeclaredOptions.Yaml
