import DeclaredOptions.Yaml.Plain

/-!
Contract: plain data as a YAML document in block style.

Owns:
- the choice between unquoted, single-quoted and double-quoted scalars;
- the folding of long scalars, block sequences and mappings with their indentation, and keys that need a
  mark of their own;
- the end mark after a document that is an unquoted scalar.

Does not own: the reading of documents.
-/

namespace DeclaredOptions.Yaml

/-! ## Scalars -/

def isBreak (c : Char) : Bool :=
  c == '\n' || c == '\x85' || c == '\u2028' || c == '\u2029'

/-- A blank or a line break, as it may stand beside an indicator. -/
def isSpacing (c : Char) : Bool := c == ' ' || c == '\t' || c == '\r' || isBreak c

/-- A character that needs an escape wherever it stands. -/
def isSpecial (c : Char) : Bool :=
  let n := c.toNat
  !(c == '\n' || (0x20 ≤ n && n ≤ 0x7e) || n == 0x85 || (0xa0 ≤ n && n ≤ 0xd7ff)
    || (0xe000 ≤ n && n ≤ 0xfffd && n != 0xfeff) || (0x10000 ≤ n && n < 0x10ffff))

/-- Whether a character in a scalar reads as an indicator: `before` tells whether it comes first or after
a blank, `after` whether it comes last or before one. -/
def isIndicator (first before after : Bool) (c : Char) : Bool :=
  if first then
    "#,[]\x7b\x7d&*!|>'\"%@\x60".toList.contains c || ((c == '?' || c == ':' || c == '-') && after)
  else (c == ':' && after) || (c == '#' && before)

/-- Whether an indicator stands in a scalar; `before` is the character before the rest of it. -/
def hasIndicator (before : Option Char) : List Char → Bool
  | [] => false
  | c :: rest =>
    let opens := before.elim true isSpacing
    let closes := rest.head?.elim true isSpacing
    isIndicator before.isNone opens closes c || hasIndicator (some c) rest

/-- Whether two neighbours in a scalar have the given kinds. -/
def hasPair (p q : Char → Bool) : List Char → Bool
  | c :: d :: rest => (p c && q d) || hasPair p q (d :: rest)
  | _ => false

def isSpace (c : Char) : Bool := c == ' '

/-- Whether a text can stand without quotes, as far as its characters go. -/
def canBePlain (text : List Char) : Bool :=
  let start := String.ofList (text.take 3)
  let edge (c : Option Char) := c.any fun c => isSpace c || isBreak c
  !(start == "---" || start == "..." || hasIndicator none text || edge text.head?
    || edge text.getLast? || text.any isSpecial || text.any isBreak)

/-- Whether a text can stand in single quotes: no character is special, and no space stands at either
side of a line break. -/
def canBeSingle (text : List Char) : Bool :=
  !(text.any isSpecial || hasPair isSpace isBreak text || hasPair isBreak isSpace text)

inductive ScalarStyle where
  | plain
  | single
  | double
  deriving DecidableEq, Repr

/-- The style of a text; a key may not spread over lines. -/
def textStyle (isKey : Bool) (text : List Char) : ScalarStyle :=
  if plainKind text == .text && canBePlain text && !(isKey && text.isEmpty) then .plain
  else if canBeSingle text && !(isKey && text.any isBreak) then .single
  else .double

def escapeLetter? (c : Char) : Option Char :=
  ([('\x00', '0'), ('\x07', 'a'), ('\x08', 'b'), ('\t', 't'), ('\n', 'n'), ('\x0b', 'v'),
    ('\x0c', 'f'), ('\r', 'r'), ('\x1b', 'e'), ('"', '"'), ('\\', '\\'), ('\x85', 'N'),
    ('\xa0', '_'), ('\u2028', 'L'), ('\u2029', 'P')].find? fun pair => pair.1 == c).map (·.2)

/-- A character that stands for itself between double quotes. -/
def isBareInDouble (c : Char) : Bool :=
  let n := c.toNat
  c != '"' && c != '\\' && n != 0x2028 && n != 0x2029 && n != 0xfeff
    && ((0x20 ≤ n && n ≤ 0x7e) || (0xa0 ≤ n && n ≤ 0xd7ff) || (0xe000 ≤ n && n ≤ 0xfffd))

def capitalHex (count n : Nat) : List Char := (Text.hexDigits count n).map Char.toUpper

def doubleEscape (c : Char) : List Char :=
  match escapeLetter? c with
  | some letter => ['\\', letter]
  | none =>
    if c.toNat ≤ 0xff then '\\' :: 'x' :: capitalHex 2 c.toNat
    else if c.toNat ≤ 0xffff then '\\' :: 'u' :: capitalHex 4 c.toNat
    else '\\' :: 'U' :: capitalHex 8 c.toNat

/-! ## The pen -/

/-- A document as it is written: its characters, the last one first, the column, and what stands before
it. -/
structure Pen where
  written : List Char
  column : Nat
  /-- Whether a gap stands before the pen. -/
  spaced : Bool
  /-- Whether only indentation and entry marks stand before the pen on its line. -/
  atStart : Bool
  /-- Whether the document ends in an unquoted scalar that is all of it. -/
  isOpen : Bool

namespace Pen

def start : Pen := ⟨[], 0, true, true, false⟩

def put (pen : Pen) (chars : List Char) : Pen :=
  { pen with written := chars.reverse ++ pen.written, column := pen.column + chars.length }

/-- Writes an indicator, after a space if it needs a gap; `atStart` keeps the pen at the start of its
line. -/
def mark (pen : Pen) (indicator : String) (needsGap spaced atStart : Bool) : Pen :=
  let chars := indicator.toList
  let chars := if pen.spaced || !needsGap then chars else ' ' :: chars
  { pen.put chars with spaced := spaced, atStart := pen.atStart && atStart, isOpen := false }

def breakLine (pen : Pen) (c : Char) : Pen :=
  { pen with written := c :: pen.written, column := 0, spaced := true, atStart := true }

/-- Goes to an indentation, on a new line unless the pen is before it. -/
def indentTo (pen : Pen) (indent : Nat) : Pen :=
  let pen :=
    if !pen.atStart || indent < pen.column || (pen.column == indent && !pen.spaced) then
      pen.breakLine '\n'
    else pen
  if pen.column < indent then
    { pen.put (List.replicate (indent - pen.column) ' ') with spaced := true }
  else pen

/-- The column after which lines are folded. -/
def width : Nat := 80

/-- Writes an unquoted text whose lines may be folded at single spaces. -/
def plainRuns (pen : Pen) (indent : Nat) (fold : Bool) : List (List Char) → Pen
  | [] => pen
  | run :: rest =>
    let pen :=
      if run == [' '] && width < pen.column && fold then
        { pen.indentTo indent with spaced := false, atStart := false }
      else pen.put run
    pen.plainRuns indent fold rest

/-- The runs of a text: spaces, line breaks, and all between them. -/
def runs (text : List Char) : List (List Char) :=
  text.splitBy fun c d => isSpace c == isSpace d && isBreak c == isBreak d

def plain (pen : Pen) (indent : Nat) (isKey : Bool) (text : List Char) : Pen :=
  let pen := if pen.spaced then pen else pen.put [' ']
  { pen with spaced := false, atStart := false }.plainRuns indent (!isKey) (runs text)

/-- Writes line breaks of a scalar: a first line feed is written twice. -/
def breaks (pen : Pen) (run : List Char) : Pen :=
  let pen := if run.head? == some '\n' then pen.breakLine '\n' else pen
  run.foldl breakLine pen

/-- Writes the runs between single quotes. Lines may be folded at single spaces, except at the ends of
the text; `first` tells whether the runs begin it. -/
def singleRuns (pen : Pen) (indent : Nat) (fold first : Bool) : List (List Char) → Pen
  | [] => pen
  | run :: rest =>
    let pen :=
      if run.any isBreak then (pen.breaks run).indentTo indent
      else if run == [' '] && width < pen.column && fold && !first && !rest.isEmpty then
        pen.indentTo indent
      else pen.put (Text.substitute '\'' ['\'', '\''] run)
    pen.singleRuns indent fold false rest

def single (pen : Pen) (indent : Nat) (isKey : Bool) (text : List Char) : Pen :=
  ((pen.mark "'" true false false).singleRuns indent (!isKey) true (runs text)).mark "'"
    false false false

/-- Goes on with a double-quoted scalar on the next line; a space there is escaped. -/
def foldDouble (pen : Pen) (indent : Nat) (next : Option Char) : Pen :=
  let pen := { (pen.put ['\\']).indentTo indent with spaced := false, atStart := false }
  if next == some ' ' then pen.put ['\\'] else pen

/-- Writes what is left of a double-quoted scalar. `inner` counts the characters before it, `pending`
holds those of them that are not written yet, the last one first. -/
def doubleFrom (pen : Pen) (indent : Nat) (fold : Bool) (inner : Nat) (pending : List Char) :
    List Char → Pen
  | [] => pen.put pending.reverse
  | c :: rest =>
    let mayFold := fold && inner != 0 && !rest.isEmpty
    if isBareInDouble c then
      if mayFold && (c == ' ' || pending.isEmpty) && width < pen.column + pending.length then
        ((pen.put pending.reverse).foldDouble indent (some c)).doubleFrom indent fold (inner + 1)
          [c] rest
      else pen.doubleFrom indent fold (inner + 1) (c :: pending) rest
    else
      let pen := (pen.put pending.reverse).put (doubleEscape c)
      let pen :=
        if mayFold && width + 1 < pen.column then pen.foldDouble indent rest.head? else pen
      pen.doubleFrom indent fold (inner + 1) [] rest

def double (pen : Pen) (indent : Nat) (isKey : Bool) (text : List Char) : Pen :=
  ((pen.mark "\"" true false false).doubleFrom indent (!isKey) 0 [] text).mark "\""
    false false false

def scalar (pen : Pen) (indent : Nat) (isKey : Bool) (style : ScalarStyle) (text : List Char) :
    Pen :=
  match style with
  | .plain => pen.plain indent isKey text
  | .single => pen.single indent isKey text
  | .double => pen.double indent isKey text

end Pen

/-! ## Values -/

/-- The text of a number: a point is there wherever an exponent is. -/
def numberText (value : NumberValue) : List Char :=
  match value with
  | .whole _ => value.chars
  | .real (.infinite negative) => if negative then "-.inf".toList else ".inf".toList
  | .real .nan => ".nan".toList
  | .real _ =>
    let text := value.chars
    if text.contains '.' || !text.contains 'e' then text
    else text.takeWhile (· != 'e') ++ ".0".toList ++ text.dropWhile (· != 'e')

/-- The text of a value that is no collection. -/
def scalarText : Data → List Char
  | .null => "null".toList
  | .truth value => if value then "true".toList else "false".toList
  | .number value => numberText value
  | .text value => value.toList
  | other => other.inline.toList

/-- The style of a value that is no collection. -/
def scalarStyle (isKey : Bool) : Data → ScalarStyle
  | .text value => textStyle isKey value.toList
  | _ => .plain

/-- The length of the name of a scalar's type, which counts where the length of a key is limited. -/
def tagLength : Data → Nat
  | .null => 6
  | .truth _ => 6
  | .number (.whole _) => 5
  | .number (.real _) => 7
  | .text _ => 5
  | _ => 8

/-- Whether a key can stand before its colon without a mark of its own. -/
def isSimpleKey : Data → Bool
  | .mapping entries => entries.isEmpty
  | .list items | .tuple items | .members items => items.isEmpty
  | key =>
    let text := scalarText key
    tagLength key + text.length < 128 && !text.isEmpty && !text.any isBreak

def step : Nat := 2

def deeper (indent : Option Nat) : Nat := indent.elim 0 (· + step)

namespace Pen

mutual

/-- Writes a value. `indent` is the indentation of the collection around it, `inMapping` tells whether
that is a mapping, `isKey` whether the value is a key before its colon. -/
def value (pen : Pen) (indent : Option Nat) (inMapping isKey : Bool) : Data → Pen
  | .list items | .tuple items | .members items =>
    if items.isEmpty then (pen.mark "[" true true false).mark "]" false false false
    else pen.items (if inMapping && !pen.atStart then indent.getD 0 else deeper indent) items
  | .mapping entries =>
    if entries.isEmpty then (pen.mark "\x7b" true true false).mark "\x7d" false false false
    else pen.entries (deeper indent) entries
  | data =>
    let after := pen.scalar (indent.elim step (· + step)) isKey (scalarStyle isKey data)
      (scalarText data)
    if indent.isNone && scalarStyle isKey data == .plain then { after with isOpen := true }
    else after

def items (pen : Pen) (indent : Nat) : List Data → Pen
  | [] => pen
  | item :: rest =>
    let pen := (pen.indentTo indent).mark "-" true false true
    (pen.value (some indent) false false item).items indent rest

def entries (pen : Pen) (indent : Nat) : List (Data × Data) → Pen
  | [] => pen
  | (key, data) :: rest =>
    let pen := pen.indentTo indent
    let simple := isSimpleKey key
    let pen := if simple then pen else pen.mark "?" true false true
    let pen := pen.value (some indent) true simple key
    let pen := if simple then pen else pen.indentTo indent
    let pen := pen.mark ":" (!simple) false (!simple)
    (pen.value (some indent) true false data).entries indent rest

end

end Pen

/-- A document that holds a value, if the value can be written. -/
def document (data : Data) : Except Failure String := do
  let data ← data.writable
  let pen := (Pen.start.value none false false data).indentTo 0
  let pen := if pen.isOpen then (pen.mark "..." true false false).indentTo 0 else pen
  pure (String.ofList pen.written.reverse)

end DeclaredOptions.Yaml
