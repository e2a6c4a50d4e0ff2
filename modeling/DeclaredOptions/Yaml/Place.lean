import DeclaredOptions.Yaml.Writer

/-!
Contract: places in a YAML text, and the scalars that are read from a place on.

Owns:
- places with their line and column, line breaks, comments and document marks;
- unquoted, single-quoted and double-quoted scalars over several lines;
- literal and folded blocks with their indentation and the treatment of their end.

Does not own: where a scalar may stand.
-/

namespace DeclaredOptions.Yaml

/-- A place in a text: what follows it, and its index, line and column, counted from zero. -/
structure Place where
  rest : List Char
  index : Nat
  line : Nat
  column : Nat

namespace Place

/-- The start of a text; a byte order mark is left out. -/
def start (text : List Char) : Place :=
  match text with
  | '\ufeff' :: rest => ⟨rest, 1, 0, 0⟩
  | rest => ⟨rest, 0, 0, 0⟩

def next (place : Place) : Place :=
  match place.rest with
  | [] => place
  | c :: rest =>
    if isBreak c then ⟨rest, place.index + 1, place.line + 1, 0⟩
    else if c == '\ufeff' then { place with rest := rest, index := place.index + 1 }
    else ⟨rest, place.index + 1, place.line, place.column + 1⟩

/-- The place after so many characters. -/
def skip (place : Place) : Nat → Place
  | 0 => place
  | n + 1 => place.next.skip n

def head? (place : Place) : Option Char := place.rest.head?

def sees (place : Place) (p : Char → Bool) : Bool := place.head?.any p

/-- Whether the text ends here or the next character has a property. -/
def endsOr (place : Place) (p : Char → Bool) : Bool := place.head?.all p

def skipAll (place : Place) (p : Char → Bool) : Place := place.skip (place.rest.takeWhile p).length

/-- A character that does not end a line. -/
def isInline (c : Char) : Bool := !isBreak c

def lineBreak? (place : Place) : Option (Char × Place) :=
  match place.head? with
  | some c =>
    if isBreak c then some (if c == '\x85' then '\n' else c, place.next) else none
  | none => none

/-- Whether a mark of three characters that ends or begins a document stands here. -/
def atDocumentMark (place : Place) : Bool :=
  let mark := String.ofList (place.rest.take 3)
  (mark == "---" || mark == "...") && (place.rest.drop 3).head?.all isSpacing

def skipComment (place : Place) : Place :=
  let place := place.skipAll isSpace
  if place.sees (· == '#') then place.skipAll isInline else place

/-- The place of the next token, and whether a line break was passed; `fuel` bounds the lines. -/
def skipGap (broke : Bool) : Nat → Place → Place × Bool
  | 0, place => (place, broke)
  | fuel + 1, place =>
    let place := place.skipComment
    match place.lineBreak? with
    | some (_, next) => skipGap true fuel next
    | none => (place, broke)

/-! ## Unquoted scalars -/

/-- The characters of an unquoted scalar up to the next blank or the end of the scalar. In a flow
collection some indicators end it. -/
def plainWord (flow : Bool) : List Char → List Char
  | [] => []
  | c :: rest =>
    let closes (next : Char) := isSpacing next || (flow && ",[]\x7b\x7d".toList.contains next)
    if isSpacing c || (c == ':' && rest.head?.all closes)
      || (flow && ",?[]\x7b\x7d".toList.contains c) then []
    else c :: plainWord flow rest

/-- The line breaks after the first of them in an unquoted scalar; nothing if a document mark follows. -/
def plainBreaks (breaks : List Char) : Nat → Place → Option (List Char) × Place
  | 0, place => (some breaks, place)
  | fuel + 1, place =>
    if place.sees isSpace then plainBreaks breaks fuel place.next
    else
      match place.lineBreak? with
      | some (c, next) =>
        if next.atDocumentMark then (none, next) else plainBreaks (breaks ++ [c]) fuel next
      | none => (some breaks, place)

/-- What line breaks stand for: a single line feed for a space, more of them for one less. -/
def foldedBreaks (first : Char) (breaks : List Char) : List Char :=
  (if first != '\n' then [first] else if breaks.isEmpty then [' '] else []) ++ breaks

/-- What stands between two words of an unquoted scalar, whether a line ends in it, and the place after
it. -/
def plainGap (place : Place) : List Char × Bool × Place :=
  let spaces := place.rest.takeWhile isSpace
  let after := place.skip spaces.length
  match after.lineBreak? with
  | none => (spaces, false, after)
  | some (first, next) =>
    if next.atDocumentMark then ([], true, next)
    else
      match plainBreaks [] next.rest.length next with
      | (none, place) => ([], true, place)
      | (some breaks, place) => (foldedBreaks first breaks, true, place)

/-- An unquoted scalar whose later lines stand at a column or beyond it. `read` and `gap` are the
characters of it before the place and what stands between them and the next word, `broke` tells whether a
line ended there. The result is its characters, whether it ends with a line, and the place after it. -/
def plain (flow : Bool) (least : Nat) (read gap : List Char) (broke : Bool) :
    Nat → Place → List Char × Bool × Place
  | 0, place => (read, broke, place)
  | fuel + 1, place =>
    let word := if place.sees (· == '#') then [] else plainWord flow place.rest
    if word.isEmpty then (read, broke, place)
    else
      let read := read ++ gap ++ word
      let (gap, broke, after) := (place.skip word.length).plainGap
      if gap.isEmpty || (!flow && after.column < least) then (read, broke, after)
      else plain flow least read gap broke fuel after

/-! ## Quoted scalars -/

/-- The character that a letter after a backslash stands for. -/
def escaped? (letter : Char) : Option Char :=
  if letter == '\t' then some '\t'
  else if letter == ' ' then some ' '
  else if letter == '/' then some '/'
  else
    ((['\x00', '\x07', '\x08', '\t', '\n', '\x0b', '\x0c', '\r', '\x1b', '"', '\\', '\x85', '\xa0',
      '\u2028', '\u2029'].find? fun c => escapeLetter? c == some letter))

/-- The number of digits after a letter that announces a character's number. -/
def numberLength? (letter : Char) : Option Nat :=
  if letter == 'x' then some 2
  else if letter == 'u' then some 4
  else if letter == 'U' then some 8
  else none

/-- The line breaks and blanks that go on with a quoted scalar after a line break. -/
def quotedBreaks (breaks : List Char) : Nat → Place → Option (List Char × Place)
  | 0, place => some (breaks, place)
  | fuel + 1, place =>
    if place.atDocumentMark then none
    else
      let place := place.skipAll isGap
      match place.lineBreak? with
      | some (c, next) => quotedBreaks (breaks ++ [c]) fuel next
      | none => some (breaks, place)

def escape? (place : Place) : Option (List Char × Place) := do
  let letter ← place.head?
  match escaped? letter, numberLength? letter with
  | some c, _ => some ([c], place.next)
  | none, some length => do
    let digits := place.next.rest.take length
    if digits.length != length then none
    let code := Number.ofDigits 16 (← digits.mapM Text.hexValue?)
    if code.isValidChar then some ([Char.ofNat code], place.next.skip length) else none
  | none, none => do
    let (_, next) ← place.lineBreak?
    quotedBreaks [] next.rest.length next

/-- The characters of a quoted scalar after its opening mark, and the place after its closing one. -/
def quoted (double : Bool) (read : List Char) : Nat → Place → Option (List Char × Place)
  | 0, _ => none
  | fuel + 1, place =>
    match place.rest with
    | [] => none
    | c :: more =>
      if double && c == '"' then some (read, place.next)
      else if !double && c == '\'' then
        if more.head? == some '\'' then quoted double (read ++ ['\'']) fuel (place.skip 2)
        else some (read, place.next)
      else if double && c == '\\' then
        match place.next.escape? with
        | some (chars, after) => quoted double (read ++ chars) fuel after
        | none => none
      else if isGap c || isBreak c then
        let blanks := place.rest.takeWhile isGap
        let after := place.skip blanks.length
        match after.lineBreak? with
        | none => quoted double (read ++ blanks) fuel after
        | some (first, next) =>
          match quotedBreaks [] next.rest.length next with
          | some (breaks, after) => quoted double (read ++ foldedBreaks first breaks) fuel after
          | none => none
      else quoted double (read ++ [c]) fuel place.next

/-! ## Blocks -/

/-- What becomes of the line breaks that end a block. -/
inductive BlockEnding where
  | clip
  | strip
  | keep
  deriving DecidableEq, Repr

def ending? (c : Char) : Option BlockEnding :=
  if c == '+' then some .keep else if c == '-' then some .strip else none

/-- The indentation that an indicator asks for. -/
def increment? (c : Char) : Option Nat :=
  if '1' ≤ c && c ≤ '9' then some (c.toNat - 48) else none

/-- The indicators of a block and the place of its first line. -/
def blockHeader? (place : Place) : Option (BlockEnding × Option Nat × Place) := do
  let first := place.head?
  let second := place.next.head?
  let (ending, increment, place) :=
    match first.bind ending?, first.bind increment? with
    | some ending, _ =>
      match second.bind increment? with
      | some n => (ending, some n, place.skip 2)
      | none => (ending, none, place.next)
    | none, some n =>
      match second.bind ending? with
      | some ending => (ending, some n, place.skip 2)
      | none => (.clip, some n, place.next)
    | none, none => (.clip, none, place)
  if !(place.endsOr fun c => isSpace c || isBreak c) then none
  let place := place.skipComment
  match place.head?, place.lineBreak? with
  | none, _ => some (ending, increment, place)
  | some _, some (_, next) => some (ending, increment, next)
  | some _, none => none

/-- The line breaks before the first line of a block, and the greatest column reached before it. -/
def blockIndent (breaks : List Char) (most : Nat) : Nat → Place → List Char × Nat × Place
  | 0, place => (breaks, most, place)
  | fuel + 1, place =>
    match place.lineBreak? with
    | some (c, next) => blockIndent (breaks ++ [c]) most fuel next
    | none =>
      if place.sees isSpace then blockIndent breaks (max most place.next.column) fuel place.next
      else (breaks, most, place)

def skipIndent (indent : Nat) (place : Place) : Place :=
  let spaces := (place.rest.takeWhile isSpace).length
  place.skip (min spaces (indent - place.column))

/-- The line breaks between two lines of a block, and the place at the next line's text. -/
def blockBreaks (indent : Nat) (breaks : List Char) : Nat → Place → List Char × Place
  | 0, place => (breaks, place)
  | fuel + 1, place =>
    let place := place.skipIndent indent
    match place.lineBreak? with
    | some (c, next) => blockBreaks indent (breaks ++ [c]) fuel next
    | none => (breaks, place)

/-- The lines of a block from a place on; `breaks` are the line breaks before it. The last line comes
with its own break and those after it. -/
def blockLines (folded : Bool) (indent : Nat) (read breaks : List Char) :
    Nat → Place → List Char × List Char × List Char × Place
  | 0, place => (read, [], breaks, place)
  | fuel + 1, place =>
    if place.column != indent || place.rest.isEmpty then (read, [], breaks, place)
    else
      let startsWithText := !place.sees isGap
      let text := place.rest.takeWhile isInline
      let read := read ++ breaks ++ text
      let after := place.skip text.length
      let (first, after) :=
        match after.lineBreak? with
        | some (c, next) => ([c], next)
        | none => ([], after)
      let (breaks, after) := blockBreaks indent [] after.rest.length after
      if after.column == indent && !after.rest.isEmpty then
        let joined :=
          if folded && first == ['\n'] && startsWithText && !after.sees isGap then
            if breaks.isEmpty then [' '] else []
          else first
        blockLines folded indent (read ++ joined) breaks fuel after
      else (read, first, breaks, after)

/-- A block after its indicator, inside an indentation of so many columns: its characters and the place
after it. -/
def block? (folded : Bool) (least : Nat) (place : Place) : Option (List Char × Place) := do
  let (ending, increment, place) ← place.blockHeader?
  let least := max least 1
  let (breaks, indent, place) :=
    match increment with
    | some n =>
      let indent := least + n - 1
      let (breaks, place) := blockBreaks indent [] place.rest.length place
      (breaks, indent, place)
    | none =>
      let (breaks, most, place) := blockIndent [] 0 place.rest.length place
      (breaks, max least most, place)
  let (read, first, breaks, after) := blockLines folded indent [] breaks place.rest.length place
  let tail :=
    match ending with
    | .strip => []
    | .clip => first
    | .keep => first ++ breaks
  some (read ++ tail, after)

end Place

end DeclaredOptions.Yaml
