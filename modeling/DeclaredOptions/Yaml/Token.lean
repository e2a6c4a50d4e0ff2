import DeclaredOptions.Yaml.Place

/-!
Contract: YAML texts as tokens.

Owns:
- the tokens, with marks for the begin and end of blocks, which the indentation decides;
- keys before a colon, which are only known as such once the colon is there;
- anchors, aliases, tags and directives.

Does not own: how tokens form values.
-/

namespace DeclaredOptions.Yaml

inductive Token where
  | directive (major : Option Nat) (handle : Option (String × String))
  | documentStart
  | documentEnd
  | blockSequence
  | blockMapping
  | blockEnd
  | flowSequence
  | flowSequenceEnd
  | flowMapping
  | flowMappingEnd
  | blockEntry
  | flowEntry
  | key
  | value
  | repeated (name : String)
  | anchor (name : String)
  | tag (handle : Option String) (rest : String)
  | scalar (plain : Bool) (text : String)
  deriving DecidableEq, Repr

/-- A token that may turn out to be a key: its number among the tokens, its place, and whether nothing
else can stand there. -/
structure KeyCandidate where
  number : Nat
  required : Bool
  index : Nat
  line : Nat
  column : Nat

/-- What is known while a text is cut into tokens. -/
structure Scan where
  place : Place
  tokens : Array Token
  /-- The column of the innermost block, with those of the blocks around it; below the outermost is
  nothing. -/
  indents : List Nat
  flowDepth : Nat
  keyAllowed : Bool
  /-- At most one candidate for each depth of flow collections. -/
  candidates : List (Nat × KeyCandidate)

/-- A step of cutting; a text that is not well-formed has none. -/
abbrev Scanner (α : Type) := StateT Scan Option α

namespace Scanner

def here : Scanner Place := do pure (← get).place

def goTo (place : Place) : Scanner Unit := modify fun scan => { scan with place := place }

def push (token : Token) : Scanner Unit :=
  modify fun scan => { scan with tokens := scan.tokens.push token }

/-- Says whether a key may come next. -/
def allowKey (allowed : Bool) : Scanner Unit :=
  modify fun scan => { scan with keyAllowed := allowed }

def inFlow : Scanner Bool := do pure ((← get).flowDepth != 0)

/-- Goes on only if a condition holds. -/
def need (condition : Bool) : Scanner Unit := if condition then pure () else failure

/-! ## Keys and indentation -/

/-- Forgets the candidate at the depth; one that is required may not be forgotten. -/
def dropCandidate : Scanner Unit := do
  let scan ← get
  let own := scan.candidates.filter fun pair => pair.1 == scan.flowDepth
  need (!own.any fun pair => pair.2.required)
  set { scan with candidates := scan.candidates.filter fun pair => pair.1 != scan.flowDepth }

/-- Notes that the next token may be a key. -/
def noteCandidate : Scanner Unit := do
  let scan ← get
  if scan.keyAllowed then
    let required := scan.flowDepth == 0 && scan.indents.head? == some scan.place.column
    dropCandidate
    let place := scan.place
    let candidate : KeyCandidate :=
      ⟨scan.tokens.size, required, place.index, place.line, place.column⟩
    modify fun scan =>
      { scan with candidates := (scan.flowDepth, candidate) :: scan.candidates }

/-- The most characters that a key may have before its colon. -/
def longestKey : Nat := 1024

/-- Forgets candidates that the place is too far from: keys stand on one line. -/
def dropStale : Scanner Unit := do
  let scan ← get
  let stale (pair : Nat × KeyCandidate) :=
    pair.2.line != scan.place.line || longestKey < scan.place.index - pair.2.index
  need (!scan.candidates.any fun pair => stale pair && pair.2.required)
  set { scan with candidates := scan.candidates.filter fun pair => !stale pair }

/-- Ends the blocks that the given column, or nothing at the end of a document, is not in. -/
def unwind (column : Option Nat) : Scanner Unit := do
  let scan ← get
  if scan.flowDepth == 0 then
    let left (indent : Nat) := column.all (· < indent)
    let ended := scan.indents.takeWhile left
    set { scan with
      indents := scan.indents.drop ended.length
      tokens := scan.tokens ++ ended.map fun _ => Token.blockEnd }

/-- Begins a block at a column if it is deeper than the innermost one. -/
def beginBlock (column : Nat) : Scanner Bool := do
  let scan ← get
  if scan.indents.head?.all (· < column) then
    set { scan with indents := column :: scan.indents }
    pure true
  else pure false

/-- The least column of a scalar's later lines. -/
def leastColumn : Scanner Nat := do pure ((← get).indents.head?.elim 0 (· + 1))

/-! ## Tokens -/

def insertAt (number : Nat) (token : Token) : Scanner Unit :=
  modify fun scan =>
    { scan with
      tokens := scan.tokens.extract 0 number ++ #[token]
        ++ scan.tokens.extract number scan.tokens.size }

def documentMark (token : Token) : Scanner Unit := do
  unwind none
  dropCandidate
  allowKey false
  goTo ((← here).skip 3)
  push token

def openFlow (token : Token) : Scanner Unit := do
  noteCandidate
  modify fun scan => { scan with flowDepth := scan.flowDepth + 1, keyAllowed := true }
  goTo (← here).next
  push token

def closeFlow (token : Token) : Scanner Unit := do
  need (← inFlow)
  dropCandidate
  modify fun scan => { scan with flowDepth := scan.flowDepth - 1, keyAllowed := false }
  goTo (← here).next
  push token

def flowEntry : Scanner Unit := do
  allowKey true
  dropCandidate
  goTo (← here).next
  push .flowEntry

def blockEntry : Scanner Unit := do
  if !(← inFlow) then
    need (← get).keyAllowed
    if ← beginBlock (← here).column then push .blockSequence
  allowKey true
  dropCandidate
  goTo (← here).next
  push .blockEntry

def markedKey : Scanner Unit := do
  let flow ← inFlow
  if !flow then
    need (← get).keyAllowed
    if ← beginBlock (← here).column then push .blockMapping
  allowKey (!flow)
  dropCandidate
  goTo (← here).next
  push .key

/-- A colon before a value: the candidate at the depth becomes its key. -/
def valueMark : Scanner Unit := do
  let scan ← get
  let flow ← inFlow
  match scan.candidates.find? fun pair => pair.1 == scan.flowDepth with
  | some (_, candidate) =>
    set { scan with candidates := scan.candidates.filter fun pair => pair.1 != scan.flowDepth }
    insertAt candidate.number .key
    if !flow then
      if ← beginBlock candidate.column then insertAt candidate.number .blockMapping
    allowKey false
  | none =>
    if !flow then
      need scan.keyAllowed
      if ← beginBlock scan.place.column then push .blockMapping
    allowKey (!flow)
    dropCandidate
  goTo (← here).next
  push .value

def isNameChar (c : Char) : Bool := c.isAlphanum || c == '-' || c == '_'

def anchorName : Scanner String := do
  noteCandidate
  allowKey false
  let place := (← here).next
  let name := place.rest.takeWhile isNameChar
  let after := place.skip name.length
  need (!name.isEmpty && after.endsOr fun c => isSpacing c || "?:,]\x7d%@\x60".toList.contains c)
  goTo after
  pure (String.ofList name)

def isTagChar (c : Char) : Bool := c.isAlphanum || "-;/?:@&=+$,_.!~*'()[]%".toList.contains c

/-- A blank or a break after which a token may end. -/
def isEnd (c : Char) : Bool := c == ' ' || isBreak c

def tag : Scanner Unit := do
  noteCandidate
  allowKey false
  let place ← here
  let second := place.next.head?
  let taken (place : Place) := place.rest.takeWhile isTagChar
  if second == some '<' then
    let rest := taken (place.skip 2)
    let after := place.skip (2 + rest.length)
    need (!rest.isEmpty && after.sees (· == '>') && after.next.endsOr isEnd)
    goTo after.next
    push (.tag none (String.ofList rest))
  else if second.all isSpacing then
    need (place.next.endsOr isEnd)
    goTo place.next
    push (.tag none "!")
  else
    let word := place.next.rest.takeWhile fun c => !isEnd c
    let handle := if word.contains '!' then word.takeWhile (· != '!') ++ ['!'] else []
    need (handle.dropLast.all isNameChar)
    let place := place.skip (1 + handle.length)
    let rest := taken place
    let after := place.skip rest.length
    need (!rest.isEmpty && after.endsOr isEnd)
    goTo after
    push (.tag (some (String.ofList ('!' :: handle))) (String.ofList rest))

def block (folded : Bool) : Scanner Unit := do
  allowKey true
  dropCandidate
  match (← here).next.block? folded (← leastColumn) with
  | some (text, after) =>
    goTo after
    push (.scalar false (String.ofList text))
  | none => failure

def quoted (double : Bool) : Scanner Unit := do
  noteCandidate
  allowKey false
  let place := (← here).next
  match place.quoted double [] (place.rest.length + 1) with
  | some (text, after) =>
    goTo after
    push (.scalar false (String.ofList text))
  | none => failure

def plain : Scanner Unit := do
  noteCandidate
  let place ← here
  let (text, broke, after) :=
    place.plain (← inFlow) (← leastColumn) [] [] false place.rest.length
  allowKey broke
  goTo after
  push (.scalar true (String.ofList text))

def directiveNumber? (place : Place) : Option (Nat × Place) :=
  let digits := place.rest.takeWhile Char.isDigit
  (naturalOf? digits).map (·, place.skip digits.length)

/-- The version of a directive: its major number, and the place after it. -/
def version? (place : Place) : Option (Nat × Place) := do
  let (major, place) ← directiveNumber? (place.skipAll isSpace)
  if !place.sees (· == '.') then none
  let (_, place) ← directiveNumber? place.next
  if place.endsOr isEnd then some (major, place) else none

/-- The handle of a tag directive with what it stands for, and the place after it. -/
def tagHandle? (place : Place) : Option ((String × String) × Place) := do
  let place := place.skipAll isSpace
  if !place.sees (· == '!') then none
  let name := place.next.rest.takeWhile isNameChar
  let after := place.skip (1 + name.length)
  let closed := after.sees (· == '!')
  if !name.isEmpty && !closed then none
  let handle := '!' :: name ++ (if closed then ['!'] else [])
  let place := place.skip handle.length
  if !place.sees isSpace then none
  let place := place.skipAll isSpace
  let rest := place.rest.takeWhile isTagChar
  let place := place.skip rest.length
  if rest.isEmpty || !place.endsOr isEnd then none
  some ((String.ofList handle, String.ofList rest), place)

/-- A directive; one of an unknown name means nothing. -/
def directive : Scanner Unit := do
  unwind none
  dropCandidate
  allowKey false
  let place := (← here).next
  let name := place.rest.takeWhile isNameChar
  let after := place.skip name.length
  need (!name.isEmpty && after.endsOr isEnd)
  let (token, after) ←
    match String.ofList name with
    | "YAML" =>
      match version? after with
      | some (major, after) => pure (Token.directive (some major) none, after)
      | none => failure
    | "TAG" =>
      match tagHandle? after with
      | some (handle, after) => pure (Token.directive none (some handle), after)
      | none => failure
    | _ => pure (Token.directive none none, after.skipAll Place.isInline)
  let after := after.skipComment
  need (after.endsOr isBreak)
  goTo after
  push token

/-- Whether an unquoted scalar may begin here. -/
def beginsPlain (flow : Bool) (place : Place) : Bool :=
  let tight := place.next.sees fun c => !isSpacing c
  place.sees fun c =>
    !(isSpacing c || "-?:,[]\x7b\x7d#&*!|>'\"%@\x60".toList.contains c)
      || (tight && (c == '-' || (!flow && (c == '?' || c == ':'))))

/-- Reads the next token, which begins with the given character. -/
def token (c : Char) : Scanner Unit := do
  let flow ← inFlow
  let place ← here
  let loose := place.next.endsOr isSpacing
  let lineStart := place.column == 0
  if c == '%' && lineStart then directive
  else if c == '-' && lineStart && place.atDocumentMark then documentMark .documentStart
  else if c == '.' && lineStart && place.atDocumentMark then documentMark .documentEnd
  else if c == '[' then openFlow .flowSequence
  else if c == '\x7b' then openFlow .flowMapping
  else if c == ']' then closeFlow .flowSequenceEnd
  else if c == '\x7d' then closeFlow .flowMappingEnd
  else if c == ',' then flowEntry
  else if c == '-' && loose then blockEntry
  else if c == '?' && (flow || loose) then markedKey
  else if c == ':' && (flow || loose) then valueMark
  else if c == '*' then push (.repeated (← anchorName))
  else if c == '&' then push (.anchor (← anchorName))
  else if c == '!' then tag
  else if c == '|' && !flow then block false
  else if c == '>' && !flow then block true
  else if c == '\'' then quoted false
  else if c == '"' then quoted true
  else if beginsPlain flow place then plain
  else failure

/-- Reads all tokens; `fuel` bounds their number. -/
def all : Nat → Scanner Unit
  | 0 => failure
  | fuel + 1 => do
    let (place, broke) := (← here).skipGap false ((← here).rest.length + 1)
    if broke && !(← inFlow) then allowKey true
    goTo place
    dropStale
    match place.head? with
    | none =>
      unwind none
      dropCandidate
    | some c => do
      unwind (some place.column)
      token c
      all fuel

end Scanner

/-- A character that no YAML text holds. -/
def isForbidden (c : Char) : Bool :=
  let n := c.toNat
  !(n == 9 || n == 10 || n == 13 || (0x20 ≤ n && n ≤ 0x7e) || n == 0x85 || (0xa0 ≤ n && n ≤ 0xd7ff)
    || (0xe000 ≤ n && n ≤ 0xfffd) || 0x10000 ≤ n)

def tokens? (text : List Char) : Option (List Token) :=
  if text.any isForbidden then none
  else
    let start : Scan := ⟨Place.start text, #[], [], 0, true, []⟩
    ((Scanner.all (text.length + 1)).run start).map fun (_, scan) => scan.tokens.toList

end DeclaredOptions.Yaml
