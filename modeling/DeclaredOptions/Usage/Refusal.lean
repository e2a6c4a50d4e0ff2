import DeclaredOptions.Usage.Template

/-!
Contract: why words of a command line are refused.

Owns: one value per cause and the wording of each.

Does not own: the usage text in front of it.
-/

namespace DeclaredOptions.Usage

inductive Refusal where
  /-- A label that begins several ones. -/
  | ambiguous (label : String) (candidates : List String)
  /-- A value for a flag that takes none. -/
  | unwanted (argument value : String)
  /-- A flag without its value. -/
  | noValue (argument : String)
  /-- A word that is not of the kind that is needed. -/
  | wrongKind (argument kind word : String)
  | notAChoice (argument : String) (value : Data) (choices : List Data)
  | missing (arguments : List String)
  /-- Words that no argument takes. -/
  | unclaimed (words : List String)
  deriving Repr

def aboutArgument (argument what : String) : String := "argument " ++ argument ++ ": " ++ what

def Refusal.message : Refusal → String
  | .ambiguous label candidates =>
    "ambiguous option: " ++ label ++ " could match " ++ Text.joined ", " candidates
  | .unwanted argument value =>
    aboutArgument argument ("ignored explicit argument " ++ Text.quoted value)
  | .noValue argument => aboutArgument argument "expected one argument"
  | .wrongKind argument kind word =>
    aboutArgument argument ("invalid " ++ kind ++ " value: " ++ Text.quoted word)
  | .notAChoice argument value choices =>
    aboutArgument argument ("invalid choice: " ++ value.inline ++ " (choose from "
      ++ Text.joined ", " (choices.map (·.inline)) ++ ")")
  | .missing arguments =>
    "the following arguments are required: " ++ Text.joined ", " arguments
  | .unclaimed words => "unrecognized arguments: " ++ Text.joined " " words

end DeclaredOptions.Usage
