import DeclaredOptions.Text.Class
import DeclaredOptions.Text.LowerTable
import DeclaredOptions.Text.Upper

/-!
Contract: full lower-case forms of characters and texts.

Owns: the mapping of one character to one or two, and the final form of a sigma.

Does not own: upper case and title case.
-/

namespace DeclaredOptions.Text

/-- The lower-case form of a character, wherever it stands; a character without one is its own. -/
def lowerChar (c : Char) : List Char :=
  if c.toNat < 128 then [c.toLower]
  else if c.toNat == 0x130 then ['i', Char.ofNat 0x307]
  else
    match lowerRuns.findSome? (·.form? c.toNat) with
    | some code => [Char.ofNat code]
    | none => [c]

/-- Whether case passes over a character. -/
def isPassed (c : Char) : Bool :=
  if c.toNat < 128 then ['\'', '.', ':', '^', '\x60'].contains c else inRanges passedRanges c.toNat

def isCased (c : Char) : Bool :=
  if c.toNat < 128 then c.isAlpha else inRanges casedRanges c.toNat

/-- Whether the first character of a text that case does not pass over has case. -/
def opensWithCase (text : List Char) : Bool := (text.find? (!isPassed ·)).any isCased

/-- The lower-case form of a text; `before` is what comes before it, the last character first. A capital
sigma at the end of a word has its final form. -/
def lowerFrom (before : List Char) : List Char → List Char
  | [] => []
  | c :: rest =>
    let isFinal := c == 'Σ' && opensWithCase before && !opensWithCase rest
    (if isFinal then ['ς'] else lowerChar c) ++ lowerFrom (c :: before) rest

def lower (text : List Char) : List Char := lowerFrom [] text

end DeclaredOptions.Text
