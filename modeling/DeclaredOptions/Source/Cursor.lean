import DeclaredOptions.Doc.Block
import DeclaredOptions.Source.Fault
import DeclaredOptions.Text.Cut

/-!
Contract: positions in a source text, and the gaps between its tokens.

Owns:
- the place of every character, in rows and byte columns;
- blanks and comments between two tokens, and on which side of the first line break they stand;
- the rule by which a line break ends a statement.

Does not own: tokens themselves.
-/

namespace DeclaredOptions.Source

structure Comment where
  text : List Char
  row : Nat

/-- What stands between two tokens: whether there is a line feed outside of comments, and the comments
before and after the first one. -/
structure Gap where
  lineBreak : Bool
  before : List Comment
  after : List Comment

def Gap.empty : Gap := ⟨false, [], []⟩

def Gap.comments (gap : Gap) : List Comment := gap.before ++ gap.after

def Gap.push (gap : Gap) (comment : Comment) : Gap :=
  if gap.lineBreak then { gap with after := gap.after ++ [comment] }
  else { gap with before := gap.before ++ [comment] }

def placeAfter (place : SourcePlace) (c : Char) : SourcePlace :=
  if c == '\n' then ⟨place.row + 1, 0⟩ else ⟨place.row, place.column + c.utf8Size⟩

/-- A position in a text: what follows it, how many characters and which place precede it, where the
last token ended, and the gap after that token. -/
structure Cursor where
  rest : List Char
  index : Nat
  place : SourcePlace
  finish : Nat
  gap : Gap

namespace Cursor

/-- The position after some characters; the gap is kept. -/
def advance (cursor : Cursor) : Nat → Cursor
  | 0 => cursor
  | n + 1 =>
    match cursor.rest with
    | [] => cursor
    | c :: rest =>
      { cursor with
        rest := rest, index := cursor.index + 1, place := placeAfter cursor.place c }.advance n

def isSpace (c : Char) : Bool :=
  let n := c.toNat
  (Text.isBlank c && !(0x1c ≤ n && n ≤ 0x1f)) || n == 0xfeff || n == 0x2060 || n == 0x200b

def endsLineComment (c : Char) : Bool :=
  c == '\n' || c == '\r' || c == '\u2028' || c == '\u2029'

/-- The length of a block comment after its opening mark, the closing mark included. -/
def blockLength? : List Char → Option Nat
  | '*' :: '/' :: _ => some 2
  | _ :: rest => (blockLength? rest).map (· + 1)
  | [] => none

def commentLength? : List Char → Option Nat
  | '/' :: '/' :: rest => some (2 + (rest.takeWhile fun c => !endsLineComment c).length)
  | '/' :: '*' :: rest => (blockLength? rest).map (· + 2)
  | _ => none

/-- The next token's position; blanks and comments on the way are put into the gap. -/
def skipGap (cursor : Cursor) : Nat → Cursor
  | 0 => cursor
  | fuel + 1 =>
    match commentLength? cursor.rest with
    | some length =>
      let comment : Comment := ⟨cursor.rest.take length, cursor.place.row⟩
      { cursor.advance length with gap := cursor.gap.push comment }.skipGap fuel
    | none =>
      match cursor.rest with
      | c :: _ =>
        if isSpace c then
          let gap := if c == '\n' then { cursor.gap with lineBreak := true } else cursor.gap
          { cursor.advance 1 with gap := gap }.skipGap fuel
        else cursor
      | [] => cursor

/-- The position after a token of the given length, without looking for the next token. -/
def afterRaw (cursor : Cursor) (length : Nat) : Cursor :=
  let next := cursor.advance length
  { next with finish := next.index, gap := .empty }

/-- The position of the token after one of the given length. -/
def afterToken (cursor : Cursor) (length : Nat) : Cursor :=
  let next := cursor.afterRaw length
  next.skipGap next.rest.length

def start (text : List Char) : Cursor := ⟨text, 0, ⟨0, 0⟩, 0, .empty⟩

/-- The text from a position up to where the last token before another one ended. -/
def textTo (first last : Cursor) : String :=
  String.ofList (first.rest.take (last.finish - first.index))

/-! ## Line breaks that end statements -/

/-- Characters that go on with a statement on the next line. -/
def continuing : List Char :=
  ['\x60', ',', '.', ';', '*', '%', '>', '<', '=', '?', '^', '|', '&', '/', ':']

/-- Whether the text after a line break, which begins with the letters `in`, goes on with a statement:
both words for membership and class tests do. -/
def continuesWithWord (rest : List Char) : Bool :=
  match rest with
  | c :: _ =>
    if !c.isAlpha then true
    else
      match Text.after? "stanceof".toList rest with
      | some (c :: _) => !c.isAlpha
      | some [] => true
      | none => false
  | [] => true

/-- Whether a line break before the given text ends a statement. -/
def breakEnds (rest : List Char) : Bool :=
  match rest with
  | [] => true
  | '+' :: more => more.head? == some '+'
  | '-' :: more => more.head? == some '-'
  | '!' :: more => more.head? != some '='
  | 'i' :: 'n' :: more => !continuesWithWord more
  | c :: _ => !continuing.contains c

/-- Whether a statement or member may end at a position without a semicolon: at the end of the text,
before a closing brace, or at a line break that does not go on. A brace with a colon after it closes a
pattern, and only ends what is an expression. -/
def endsStatement (cursor : Cursor) (expression : Bool) : Bool :=
  if cursor.gap.lineBreak then breakEnds cursor.rest
  else
    match cursor.rest with
    | [] => true
    | '\x7d' :: rest => (rest.dropWhile isSpace).head? != some ':' || expression
    | _ => false

/-- A position whose earlier comments belong to the statement that has just ended. -/
def endStatement (cursor : Cursor) : Cursor :=
  { cursor with gap := { cursor.gap with before := [] } }

/-- The documentation block closest before a position, among the comments of its gap. -/
def doc? (cursor : Cursor) : Option DocBlock :=
  let isDoc (comment : Comment) :=
    (Text.after? "/**".toList comment.text).isSome && comment.text != "/**/".toList
  (cursor.gap.comments.reverse.find? isDoc).map fun comment =>
    DocBlock.ofComment (String.ofList comment.text) (comment.row + 1)

end Cursor

end DeclaredOptions.Source
