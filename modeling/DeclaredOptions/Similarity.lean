import DeclaredOptions.Text.Cut

/-!
Contract: likeness of two names, for suggestions in messages.

Owns:
- exact scores from zero to a hundred, built on the longest common subsequence;
- the whole, the token-wise and the windowed score, and their weighted combination;
- the choice of the best candidates.

Does not own: which names are candidates.
-/

namespace DeclaredOptions.Similarity

/-- A score as an exact fraction. -/
structure Score where
  numerator : Nat
  denominator : Nat
  deriving Repr

namespace Score

def whole (n : Nat) : Score := ⟨n, 1⟩

def le (a b : Score) : Bool := a.numerator * b.denominator ≤ b.numerator * a.denominator

def max (a b : Score) : Score := if a.le b then b else a

def times (a b : Score) : Score := ⟨a.numerator * b.numerator, a.denominator * b.denominator⟩

/-- The part of a hundred that is left after a share of it is taken. -/
def leaving (taken total : Nat) : Score :=
  if total == 0 then whole 100 else ⟨100 * (total - taken), total⟩

end Score

/-- The next row of the table of common subsequences: `above` belongs to the letters before `c`, and
`left` and `corner` are the entries to the left in the new row and in `above`. -/
def nextRow (c : Char) (left corner : Nat) : List Char → List Nat → List Nat
  | b :: text, up :: above =>
    let entry := if b == c then corner + 1 else Nat.max left up
    entry :: nextRow c entry up text above
  | _, _ => []

/-- The length of the longest common subsequence of two texts. -/
def commonLength (a b : List Char) : Nat :=
  (a.foldl (fun row c => nextRow c 0 0 b row) (b.map fun _ => 0)).getLastD 0

/-- The share of two texts that their longest common subsequence covers. -/
def ratio (a b : List Char) : Score :=
  let total := a.length + b.length
  if total == 0 then .whole 100 else ⟨200 * commonLength a b, total⟩

/-- The pieces of a longer text of length `total` that are compared with a shorter one of length
`size`: beginnings and pieces of full size that end in a letter of it, and endings that begin with
one. -/
def windows (shorter longer : List Char) : List (List Char) :=
  let size := shorter.length
  let total := longer.length
  let endsInside (w : List Char) := (w.getLast?.map shorter.contains).getD false
  let startsInside (w : List Char) := (w.head?.map shorter.contains).getD false
  let beginnings := ((List.range size).drop 1).map fun i => longer.take i
  let middles := (List.range (total - size)).map fun i => (longer.drop i).take size
  let endings := (List.range size).map fun i => longer.drop (total - size + i)
  (beginnings ++ middles).filter endsInside ++ endings.filter startsInside

/-- The best ratio of a shorter text to a window of a longer one. -/
def bestWindow (shorter longer : List Char) : Score :=
  (windows shorter longer).foldl (fun best w => best.max (ratio shorter w)) (.whole 0)

/-- The windowed score of two texts, whichever is the shorter. -/
def partialRatio (a b : List Char) : Score :=
  if a.isEmpty && b.isEmpty then .whole 100
  else if a.length < b.length then bestWindow a b
  else if b.length < a.length then bestWindow b a
  else (bestWindow a b).max (bestWindow b a)

/-- Whether a text comes before another or is the same, by the numbers of their characters. -/
def isOrdered : List Char → List Char → Bool
  | [], _ => true
  | _ :: _, [] => false
  | c :: first, d :: second => c.toNat < d.toNat || (c == d && isOrdered first second)

def sortedWords (words : List (List Char)) : List Char :=
  Text.join [' '] (words.mergeSort isOrdered)

/-- The words of two texts that both have, that the first alone has, and that the second alone has, each
once. -/
def splitWords (a b : List Char) : List (List Char) × List (List Char) × List (List Char) :=
  let first := (Text.words a).eraseDups
  let second := (Text.words b).eraseDups
  (first.filter second.contains, first.filter (!second.contains ·),
    second.filter (!first.contains ·))

/-- The ratio of two texts with their words put in order. -/
def wordOrderRatio (a b : List Char) : Score :=
  ratio (sortedWords (Text.words a)) (sortedWords (Text.words b))

/-- The score of the shared words against the words of one text alone. -/
def wordSetRatio (a b : List Char) : Score :=
  let (shared, onlyA, onlyB) := splitWords a b
  if (Text.words a).isEmpty || (Text.words b).isEmpty then .whole 0
  else if !shared.isEmpty && (onlyA.isEmpty || onlyB.isEmpty) then .whole 100
  else
    let x := sortedWords onlyA
    let y := sortedWords onlyB
    let s := (sortedWords shared).length
    let gap := if s == 0 then 0 else 1
    let sa := s + gap + x.length
    let sb := s + gap + y.length
    let apart := x.length + y.length - 2 * commonLength x y
    let whole := Score.leaving apart (sa + sb)
    if s == 0 then whole
    else (whole.max (.leaving (1 + x.length) (s + sa))).max (.leaving (1 + y.length) (s + sb))

/-- The windowed score of the words of two texts; a shared word makes it full. -/
def partialWordRatio (a b : List Char) : Score :=
  let (shared, onlyA, onlyB) := splitWords a b
  if !shared.isEmpty then .whole 100
  else
    (partialRatio (sortedWords (Text.words a)) (sortedWords (Text.words b))).max
      (partialRatio (sortedWords onlyA) (sortedWords onlyB))

def wordWeight : Score := ⟨19, 20⟩

/-- The likeness of two texts. Texts of similar length are compared whole, others also by windows, which
count less the more the lengths differ. -/
def likeness (a b : List Char) : Score :=
  if a.isEmpty || b.isEmpty then .whole 0
  else
    let longer := Nat.max a.length b.length
    let shorter := Nat.min a.length b.length
    let whole := ratio a b
    if 2 * longer < 3 * shorter then
      whole.max (wordWeight.times ((wordSetRatio a b).max (wordOrderRatio a b)))
    else
      let weight : Score := if longer ≤ 8 * shorter then ⟨9, 10⟩ else ⟨6, 10⟩
      (whole.max (weight.times (partialRatio a b))).max
        ((wordWeight.times weight).times (partialWordRatio a b))

/-- The least score of a suggestion, unless a caller says otherwise. -/
def usualLeast : Score := .whole 70

/-- The most suggestions of a message, unless a caller says otherwise. -/
def usualMost : Nat := 3

/-- The candidates most like an unknown name, the best first and equally good ones in their order; the
name itself and repeated candidates are left out. -/
def suggest (unknown : String) (candidates : List String) (least : Score) (most : Nat) :
    List String :=
  if unknown.isEmpty then []
  else
    let scored := (candidates.eraseDups.filter (· != unknown)).map fun candidate =>
      (likeness unknown.toList candidate.toList, candidate)
    let good := scored.filter fun (score, _) => least.le score
    ((good.mergeSort fun a b => b.1.le a.1).take most).map (·.2)

end DeclaredOptions.Similarity
