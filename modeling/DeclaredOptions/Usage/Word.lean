import DeclaredOptions.Usage.Matching
import DeclaredOptions.Usage.Refusal

/-!
Contract: the words of a command line as a level sees them.

Owns:
- which words are flags: known labels, unique beginnings of long ones, single letters with a value or more
  letters behind them;
- which words with a hyphen are plain all the same: lone hyphens, negative numbers, words with spaces;
- the flags that are written in one word.

Does not own: the values of arguments.
-/

namespace DeclaredOptions.Usage

structure FlagUse where
  /-- The flag; none if the level has no such flag. -/
  argument : Option Argument
  label : String
  /-- Whether an equals sign stands before the value. -/
  separated : Bool
  /-- The value in the word itself. -/
  value : Option (List Char)
  deriving Repr

/-- What a word is to a level. -/
inductive Role where
  | plain
  | divider
  | flag (use : FlagUse)
  deriving Repr

structure Word where
  text : String
  role : Role
  deriving Repr

def Word.mark (word : Word) : Mark :=
  match word.role with
  | .plain => .plain
  | .divider => .divider
  | .flag _ => .flag

/-- Whether a text after a hyphen is a number without a sign: digits, or digits after a point. -/
def isUnsignedNumber (text : List Char) : Bool :=
  let text := match text.reverse with | '\n' :: rest => rest.reverse | _ => text
  match text.dropWhile Text.isDecimal with
  | [] => !text.isEmpty
  | '.' :: fraction => !fraction.isEmpty && fraction.all Text.isDecimal
  | _ => false

def isNegativeNumber (text : String) : Bool :=
  match text.toList with
  | '-' :: rest => isUnsignedNumber rest
  | _ => false

def splitAtEquals (text : List Char) : Option (List Char × List Char) :=
  match text.dropWhile (· != '=') with
  | _ :: value => some (text.takeWhile (· != '='), value)
  | [] => none

namespace Level

/-- The flags that a word with two hyphens may begin, with the value in it. -/
def longCandidates (level : Level) (word : List Char) : List FlagUse :=
  let (start, separated, value) :=
    match splitAtEquals word with
    | some (start, value) => (start, true, some value)
    | none => (word, false, none)
  (level.labels.filter fun pair => (Text.after? start pair.1.toList).isSome).map
    fun (label, argument) => ⟨some argument, label, separated, value⟩

/-- The flags that a word with one hyphen may mean: a letter with a value behind it, or the beginning of a
label. -/
def shortCandidates (level : Level) (word : List Char) : List FlagUse :=
  level.labels.filterMap fun (label, argument) =>
    if label.toList == word.take 2 then some ⟨some argument, label, false, some (word.drop 2)⟩
    else if (Text.after? word label.toList).isSome then some ⟨some argument, label, false, none⟩
    else none

/-- The role of a word with a hyphen that is no label as it stands. -/
def guessedRole (level : Level) (word : String) : Except Refusal Role :=
  let chars := word.toList
  let candidates :=
    match chars with
    | '-' :: '-' :: _ => level.longCandidates chars
    | _ => level.shortCandidates chars
  match candidates with
  | [use] => .ok (.flag use)
  | _ :: _ => .error (.ambiguous word (candidates.map (·.label)))
  | [] =>
    if isNegativeNumber word && !level.labels.any (isNegativeNumber ·.1) then .ok .plain
    else if chars.contains ' ' then .ok .plain
    else .ok (.flag ⟨none, word, false, none⟩)

def role (level : Level) (word : String) : Except Refusal Role :=
  match word.toList with
  | '-' :: rest =>
    match level.flag? word with
    | some argument => .ok (.flag ⟨some argument, word, false, none⟩)
    | none =>
      if rest.isEmpty then .ok .plain
      else
        match splitAtEquals word.toList with
        | some (label, value) =>
          match level.flag? (String.ofList label) with
          | some argument => .ok (.flag ⟨some argument, String.ofList label, true, some value⟩)
          | none => level.guessedRole word
        | none => level.guessedRole word
  | _ => .ok .plain

/-- Words with their roles; after a divider all words are plain. -/
def words (level : Level) : List String → Except Refusal (List Word)
  | [] => .ok []
  | word :: rest =>
    if word == "--" then .ok (⟨word, .divider⟩ :: rest.map (⟨·, .plain⟩))
    else do
      let role ← level.role word
      pure (⟨word, role⟩ :: (← level.words rest))

end Level

/-- The flags of one word: those that are complete, each with its value, the one that takes the words after
it, if any, and what is left of the word if it ends in no flag. -/
structure Cluster where
  complete : List (Argument × Option (List Char))
  last : Option Argument
  leftover : Option String
  deriving Repr

def Cluster.cons (argument : Argument) (cluster : Cluster) : Cluster :=
  { cluster with complete := (argument, none) :: cluster.complete }

/-- The flags of a word, of which the first is known with the value behind it. A flag with one hyphen that
takes no value may have more letters behind it. -/
def Level.cluster (level : Level) (argument : Argument) (label : String) (separated : Bool) :
    List Char → Except Refusal Cluster
  | [] =>
    if argument.words == .zero then .error (.unwanted argument.title "")
    else .ok ⟨[(argument, some [])], none, none⟩
  | letter :: rest =>
    if argument.words != .zero then .ok ⟨[(argument, some (letter :: rest))], none, none⟩
    else if label.startsWith "--" || separated || letter == '-' then
      .error (.unwanted argument.title (String.ofList (letter :: rest)))
    else
      let next := String.ofList ['-', letter]
      match level.flag? next with
      | none => .ok ⟨[(argument, none)], none, some (String.ofList ('-' :: letter :: rest))⟩
      | some more =>
        match rest with
        | [] => .ok ⟨[(argument, none)], some more, none⟩
        | '=' :: value => (·.cons argument) <$> level.cluster more next true value
        | rest => (·.cons argument) <$> level.cluster more next false rest

end DeclaredOptions.Usage
