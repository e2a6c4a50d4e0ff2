import DeclaredOptions.Usage.Grammar

/-!
Contract: how many of the words that are left each operand takes.

Owns:
- the marks of words: plain ones, flags, and the divider after which no word is a flag;
- the slots of an operand, and the greedy filling of slots with marks.

Does not own: which words are flags.
-/

namespace DeclaredOptions.Usage

inductive Mark where
  | plain
  | flag
  | divider
  deriving DecidableEq, Repr

/-- A slot that marks are taken by. -/
inductive Slot where
  /-- One plain word. -/
  | word
  /-- One plain word or none. -/
  | wordOrNone
  /-- Any number of marks of the given kinds. -/
  | run (kinds : List Mark)
  /-- The end of an operand. -/
  | close
  deriving DecidableEq, Repr

namespace Slot

/-- Counts one more mark for the operand under way. -/
def countOne : List Nat → List Nat
  | [] => []
  | n :: rest => (n + 1) :: rest

/-- A run takes as many marks of its kinds as leave enough for what comes after it. -/
def fillRun (kinds : List Mark) (after : List Mark → Option (List Nat)) :
    List Mark → Option (List Nat)
  | [] => after []
  | mark :: rest =>
    if kinds.contains mark then ((fillRun kinds after rest).map countOne).or (after (mark :: rest))
    else after (mark :: rest)

/-- The number of marks that each operand takes, if the slots can be filled from the first mark on. Slots take
as much as leaves enough for those after them. -/
def fill : List Slot → List Mark → Option (List Nat)
  | [], _ => some []
  | .close :: slots, marks => (fill slots marks).map (0 :: ·)
  | .word :: slots, marks =>
    match marks with
    | .plain :: rest => (fill slots rest).map countOne
    | _ => none
  | .wordOrNone :: slots, marks =>
    match marks with
    | .plain :: rest => ((fill slots rest).map countOne).or (fill slots marks)
    | _ => fill slots marks
  | .run kinds :: slots, marks => fillRun kinds (fill slots) marks

end Slot

namespace WordCount

def dividers : Slot := .run [.divider]

/-- The slots of an operand by the number of its words. Dividers may stand around its words. -/
def slots : WordCount → List Slot
  | .zero => [dividers, dividers, .close]
  | .one => [dividers, .word, dividers, .close]
  | .exactly n =>
    if n == 0 then [dividers, dividers, .close]
    else (List.replicate n [dividers, Slot.word]).flatten ++ [dividers, .close]
  | .optional => [dividers, .wordOrNone, dividers, .close]
  | .any => [dividers, .run [.plain, .divider], .close]
  | .atLeastOne => [dividers, .word, .run [.plain, .divider], .close]
  | .rest => [.run [.divider, .plain, .flag], .close]
  | .command => [dividers, .word, .run [.divider, .plain, .flag], .close]

end WordCount

/-- The number of words that each operand takes; of the operands that are left, as many are served as the
marks suffice for. -/
def operandCounts (marks : List Mark) (operands : List Argument) : List Nat :=
  let served (count : Nat) := Slot.fill ((operands.take count).flatMap (·.words.slots)) marks
  let counts := (List.range operands.length).reverse.map (· + 1)
  (counts.findSome? served).getD []

end DeclaredOptions.Usage
