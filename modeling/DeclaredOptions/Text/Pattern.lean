import DeclaredOptions.Text.Class

/-!
Contract: small search patterns over texts.

Owns: the syntax tree of a pattern, its reader, and the search for an occurrence anywhere in a text.

Does not own: captured groups; a pattern only answers whether it occurs.
-/

namespace DeclaredOptions.Text

inductive Pattern where
  | nothing
  | char (c : Char)
  | anyChar
  | oneOf (negated : Bool) (ranges : List (Char × Char))
  | atStart
  | atEnd
  | sequence (first second : Pattern)
  | either (first second : Pattern)
  | repeated (body : Pattern) (least : Nat) (most : Option Nat)
  deriving Repr

/-- A place in a text: whether it is the start, and what follows. -/
abbrev Place := Bool × List Char

namespace Pattern

def afterChar (test : Char → Bool) : Place → List Place
  | (_, c :: rest) => if test c then [(false, rest)] else []
  | (_, []) => []

/-- The places reached by some number of rounds from `least` on, of at most `rounds` more. -/
def afterRounds (round : Place → List Place) : Nat → Nat → List Place → List Place
  | least + 1, rounds, places =>
    afterRounds round least rounds (places.flatMap round).eraseDups
  | 0, 0, places => places
  | 0, rounds + 1, places =>
    places ++ afterRounds round 0 rounds (places.flatMap round).eraseDups

/-- The places where an occurrence that begins at the given place may end. -/
def ends : Pattern → Place → List Place
  | nothing, place => [place]
  | char c, place => afterChar (· == c) place
  | anyChar, place => afterChar (· != '\n') place
  | oneOf negated ranges, place =>
    afterChar (fun c => (ranges.any fun (low, high) => low ≤ c && c ≤ high) != negated) place
  | atStart, place => if place.1 then [place] else []
  | atEnd, place => if place.2 == [] || place.2 == ['\n'] then [place] else []
  | sequence first second, place => (first.ends place).eraseDups.flatMap second.ends
  | either first second, place => first.ends place ++ second.ends place
  | repeated body least most, place =>
    let rounds :=
      match most with
      | some most => most - least
      | none => place.2.length
    (afterRounds body.ends least rounds [place]).eraseDups

def placesFrom (start : Bool) : List Char → List Place
  | [] => [(start, [])]
  | c :: rest => (start, c :: rest) :: placesFrom false rest

def occursIn (pattern : Pattern) (text : List Char) : Bool :=
  (placesFrom true text).any fun place => !(pattern.ends place).isEmpty

/-! ## Reading -/

/-- The class that a letter after a backslash stands for, or the character itself. -/
def escaped (c : Char) : Pattern :=
  let word := [('a', 'z'), ('A', 'Z'), ('0', '9'), ('_', '_')]
  let blanks := [(' ', ' '), ('\t', '\r')]
  if c == 'd' then oneOf false [('0', '9')]
  else if c == 'D' then oneOf true [('0', '9')]
  else if c == 'w' then oneOf false word
  else if c == 'W' then oneOf true word
  else if c == 's' then oneOf false blanks
  else if c == 'S' then oneOf true blanks
  else char c

/-- The ranges up to the bracket that closes a class. -/
def readRanges : List Char → Option (List (Char × Char) × List Char)
  | [] => none
  | ']' :: rest => some ([], rest)
  | '\\' :: c :: rest => (readRanges rest).map fun (ranges, rest) => ((c, c) :: ranges, rest)
  | low :: '-' :: high :: rest =>
    if high == ']' then some ([(low, low), ('-', '-')], rest)
    else (readRanges rest).map fun (ranges, rest) => ((low, high) :: ranges, rest)
  | c :: rest => (readRanges rest).map fun (ranges, rest) => ((c, c) :: ranges, rest)

/-- A class after its opening bracket; a closing bracket in first place belongs to it. -/
def readClass (text : List Char) : Option (Pattern × List Char) :=
  let (negated, text) :=
    match text with
    | '^' :: rest => (true, rest)
    | _ => (false, text)
  match text with
  | ']' :: rest =>
    (readRanges rest).map fun (ranges, rest) => (oneOf negated ((']', ']') :: ranges), rest)
  | _ => (readRanges text).map fun (ranges, rest) => (oneOf negated ranges, rest)

/-- A decimal number at the start of a text. -/
def readCount (text : List Char) : Option Nat × List Char :=
  let digits := text.takeWhile Char.isDigit
  (if digits.isEmpty then none
    else some (digits.foldl (fun n c => n * 10 + (c.toNat - 0x30)) 0),
   text.dropWhile Char.isDigit)

/-- The counts in braces after the opening one: `n}`, `n,}`, `,m}` or `n,m}`. -/
def readCounts? (text : List Char) : Option (Nat × Option Nat × List Char) :=
  match readCount text with
  | (some n, '\x7d' :: rest) => some (n, some n, rest)
  | (least, ',' :: rest) =>
    match readCount rest with
    | (most, '\x7d' :: rest) =>
      if least.isNone && most.isNone then none else some (least.getD 0, most, rest)
    | _ => none
  | _ => none

/-- Applies the repetition marks that follow an item. -/
def readMarks (item : Pattern) : Nat → List Char → Pattern × List Char
  | 0, text => (item, text)
  | fuel + 1, text =>
    match text with
    | '*' :: rest => readMarks (repeated item 0 none) fuel rest
    | '+' :: rest => readMarks (repeated item 1 none) fuel rest
    | '?' :: rest => readMarks (repeated item 0 (some 1)) fuel rest
    | '\x7b' :: rest =>
      match readCounts? rest with
      | some (least, most, rest) => readMarks (repeated item least most) fuel rest
      | none => (item, text)
    | _ => (item, text)

/-- Reads alternatives up to a closing parenthesis or the end; `whole` holds the alternatives before
the current one and `current` the items of the current one. -/
def readAlternatives (fuel : Nat) (whole : Option Pattern) (current : Pattern)
    (text : List Char) : Option (Pattern × List Char) :=
  let close := match whole with
    | some whole => either whole current
    | none => current
  match fuel with
  | 0 => none
  | fuel + 1 =>
    let next (item : Pattern) (rest : List Char) :=
      let (item, rest) := readMarks item rest.length rest
      readAlternatives fuel whole (sequence current item) rest
    match text with
    | [] => some (close, [])
    | ')' :: _ => some (close, text)
    | '|' :: rest => readAlternatives fuel (some close) nothing rest
    | '^' :: rest => next atStart rest
    | '$' :: rest => next atEnd rest
    | '.' :: rest => next anyChar rest
    | '\\' :: c :: rest => next (escaped c) rest
    | '[' :: rest => do
      let (item, rest) ← readClass rest
      next item rest
    | '(' :: rest => do
      let inner := match rest with
        | '?' :: ':' :: inner => inner
        | _ => rest
      let (item, rest) ← readAlternatives fuel none nothing inner
      match rest with
      | ')' :: rest => next item rest
      | _ => none
    | c :: rest => next (char c) rest

def read? (text : String) : Option Pattern :=
  match readAlternatives (text.length + 1) none nothing text.toList with
  | some (pattern, []) => some pattern
  | _ => none

end Pattern

end DeclaredOptions.Text
