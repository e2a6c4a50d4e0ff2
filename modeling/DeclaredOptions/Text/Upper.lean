import DeclaredOptions.Text.UpperTable

/-!
Contract: full upper-case forms of characters and texts.

Owns: the mapping of one character to one or several.

Does not own: lower case and title case.
-/

namespace DeclaredOptions.Text

/-- The form that a run gives to a code point it holds. -/
def CaseRun.form? (run : CaseRun) (code : Nat) : Option Nat :=
  if run.first ≤ code && code ≤ run.last && (code - run.first) % run.step == 0 then
    some (run.image + (code - run.first))
  else none

/-- The upper-case form of a character; a character without one is its own. -/
def upperChar (c : Char) : List Char :=
  if c.toNat < 128 then [c.toUpper]
  else
    match upperExpansions.find? (·.1 == c.toNat) with
    | some (_, codes) => codes.map Char.ofNat
    | none =>
      match upperRuns.findSome? (·.form? c.toNat) with
      | some code => [Char.ofNat code]
      | none => [c]

def upper (text : List Char) : List Char := text.flatMap upperChar

end DeclaredOptions.Text
