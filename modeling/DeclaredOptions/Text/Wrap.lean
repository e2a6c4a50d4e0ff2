import DeclaredOptions.Text.Cut

/-!
Contract: running text in lines of limited width.

Owns:
- the pieces that a line may end after: words, parts of hyphenated words, dashes and the blanks between
  them;
- the filling of lines with pieces, and the cutting of pieces that fit on no line.

Does not own: indentation.
-/

namespace DeclaredOptions.Text

def isAsciiBlank (c : Char) : Bool := c == ' ' || (9 ≤ c.toNat && c.toNat ≤ 13)

/-- A text with one space for every run of blanks, and none at its ends. -/
def unspaced (text : List Char) : List Char :=
  let runs := text.splitBy fun c d => isAsciiBlank c == isAsciiBlank d
  trim (runs.flatMap fun run => if run.any isAsciiBlank then [' '] else run)

/-! ## Pieces -/

def isWordOrMark (c : Char) : Bool := isWord c || "!\"'&.,?".toList.contains c

def isLetter (c : Char) : Bool := isWord c && !isDecimal c

/-- The dashes that a text begins with, if there are two or more and a word follows. -/
def dashes? (text : List Char) : Option (List Char) :=
  let run := text.takeWhile (· == '-')
  if 2 ≤ run.length && ((text.drop run.length).head?.any isWord) then some run else none

/-- Whether a line may end after a hyphen: two letters, or a letter, a hyphen and a word, come before it,
the last first, and letters come after it. -/
def mayCutHyphen (before after : List Char) : Bool :=
  let left :=
    match before with
    | c :: '-' :: d :: _ => isWordOrMark c && isLetter d
    | c :: d :: _ => isLetter c && isLetter d
    | _ => false
  let right :=
    match after with
    | c :: '-' :: d :: _ => isLetter c && isLetter d
    | c :: d :: _ => isLetter c && isLetter d
    | _ => false
  left && right

/-- The rest of a piece that is part of a word, and what follows it. `before` holds the characters before,
the last one first. -/
def wordRest (before : List Char) : List Char → List Char × List Char
  | [] => ([], [])
  | c :: rest =>
    if isAsciiBlank c then ([], c :: rest)
    else if c == '-' && mayCutHyphen before rest then ([c], rest)
    else if before.head?.any isWordOrMark && (dashes? (c :: rest)).isSome then ([], c :: rest)
    else
      let (more, after) := wordRest (c :: before) rest
      (c :: more, after)

def nextPiece (before text : List Char) : List Char × List Char :=
  match text with
  | [] => ([], [])
  | c :: rest =>
    if isAsciiBlank c then (text.takeWhile isAsciiBlank, text.dropWhile isAsciiBlank)
    else
      match before.head?.any isWordOrMark, dashes? text with
      | true, some run => (run, text.drop run.length)
      | _, _ =>
        let (more, after) := wordRest (c :: before) rest
        (c :: more, after)

/-- The pieces of a text; `fuel` bounds their number. -/
def piecesAfter (before : List Char) : Nat → List Char → List (List Char)
  | 0, _ => []
  | _ + 1, [] => []
  | fuel + 1, text =>
    let (piece, after) := nextPiece before text
    piece :: piecesAfter (piece.reverse ++ before) fuel after

/-! ## Lines -/

def isBlankPiece (piece : List Char) : Bool := (trim piece).isEmpty

/-- The pieces that fit into a width, and those that are left. -/
def fitting (width : Nat) : List (List Char) → List (List Char) × List (List Char)
  | [] => ([], [])
  | piece :: rest =>
    if piece.length ≤ width then
      let (line, left) := fitting (width - piece.length) rest
      (piece :: line, left)
    else ([], piece :: rest)

/-- The number of characters of a piece that goes before a cut: up to its last hyphen in the width that
is left, or all that fit. -/
def cutLength (width : Nat) (piece : List Char) : Nat :=
  let head := piece.take width
  let kept := (head.reverse.dropWhile (· != '-')).reverse
  if width < piece.length && 1 < kept.length && kept.dropLast.any (· != '-') then kept.length
  else width

/-- A piece that fits on no line is cut to fill up the line. -/
def cutLong (width : Nat) (line left : List (List Char)) :
    List (List Char) × List (List Char) :=
  match left with
  | piece :: rest =>
    if width < piece.length then
      let taken := line.flatten.length
      let count := cutLength (if width == 0 then 1 else width - taken) piece
      (line ++ [piece.take count], piece.drop count :: rest)
    else (line, left)
  | [] => (line, [])

/-- A line without a blank piece at its end. -/
def withoutBlankEnd (line : List (List Char)) : List (List Char) :=
  if line.getLast?.any isBlankPiece then line.dropLast else line

/-- The lines of pieces; `first` tells whether there is no line yet, `fuel` bounds the lines. -/
def linesOf (width : Nat) (first : Bool) : Nat → List (List Char) → List (List Char)
  | 0, _ => []
  | fuel + 1, pieces =>
    match pieces with
    | [] => []
    | piece :: rest =>
      let pieces := if !first && isBlankPiece piece then rest else piece :: rest
      let (line, left) := fitting width pieces
      let (line, left) := cutLong width line left
      let line := withoutBlankEnd line
      if line.isEmpty then linesOf width first fuel left
      else line.flatten :: linesOf width false fuel left

def wrapped (width : Nat) (text : List Char) : List (List Char) :=
  let pieces := piecesAfter [] text.length text
  linesOf width true (2 * text.length + 2) pieces

end DeclaredOptions.Text
