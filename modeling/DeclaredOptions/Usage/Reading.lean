import DeclaredOptions.Literal.Typed
import DeclaredOptions.Usage.Layout
import DeclaredOptions.Usage.Word

/-!
Contract: the values that the words of a command line give, or the text that is shown instead.

Owns:
- the order in which flags and operands are served, level by level;
- the values of words, choices, defaults and required arguments;
- the texts and codes of command lines that end without values.

Does not own: what a program does with the values.
-/

namespace DeclaredOptions.Usage

abbrev Values := List (String × Data)

inductive UsageFault where
  | template (fault : TemplateFault)
  /-- A count that begins at a value that is no number. -/
  | cannotCount
  deriving DecidableEq, Repr

inductive Stop where
  /-- The help text of a level is asked for. -/
  | help (level : Level)
  | refused (level : Level) (refusal : Refusal)
  | fault (fault : UsageFault)
  deriving Repr

/-! ## Values -/

def Values.get? (values : Values) (key : String) : Option Data :=
  (values.find? fun pair => pair.1 == key).map (·.2)

/-- The values with a key set; a new key comes last. -/
def Values.set (key : String) (value : Data) : Values → Values
  | [] => [(key, value)]
  | pair :: rest =>
    if pair.1 == key then (key, value) :: rest else pair :: Values.set key value rest

def WordKind.value? (kind : WordKind) (word : String) : Option Data :=
  match kind with
  | .text => some (.text word)
  | .whole => (Numeral.wholeOfText word.toList (Text.quoted word)).toOption.map .whole
  | .real => (Numeral.realOfText? word.toList).map fun x => .number (.real x)

namespace Argument

def wordValue (argument : Argument) (word : String) : Except Refusal Data :=
  match argument.kind with
  | none => .ok (.text word)
  | some kind =>
    match kind.value? word with
    | some value => .ok value
    | none => .error (.wrongKind argument.title kind.name word)

/-- Refuses a value that is not among the choices. -/
def chosen (argument : Argument) (value : Data) : Except Refusal Data :=
  match argument.choices with
  | none => .ok value
  | some choices =>
    if choices.any value.same then .ok value
    else .error (.notAChoice argument.title value choices)

/-- The words of an operand without the divider in front of them. -/
def withoutDivider (argument : Argument) (words : List String) : List String :=
  if argument.isFlag || argument.words == .rest || argument.words == .command then words
  else words.erase "--"

/-- The value of the words of an argument: of a single word where at most one is taken, else a list. -/
def value (argument : Argument) (words : List String) : Except Refusal Data := do
  match argument.words, argument.withoutDivider words with
  | .optional, [] =>
    match argument.default with
    | .text word => argument.chosen (← argument.wordValue word)
    | default => pure default
  | .any, [] =>
    match argument.default with
    | .null => pure (.list [])
    | default => argument.chosen default
  | .one, [word] | .optional, [word] => argument.chosen (← argument.wordValue word)
  | .rest, words => .list <$> words.mapM argument.wordValue
  | .command, words => do
    let values ← words.mapM argument.wordValue
    let _ ← values.head?.mapM argument.chosen
    pure (.list values)
  | _, words => .list <$> words.mapM fun word => do argument.chosen (← argument.wordValue word)

end Argument

/-- One more than a value, where nothing counts as zero. -/
def countAfter : Data → Except UsageFault Data
  | .null => .ok (.whole 1)
  | .truth value => .ok (.whole (if value then 2 else 1))
  | .number (.whole n) => .ok (.whole (n + 1))
  | .number (.real x) => .ok (.number (.real x.plusOne))
  | _ => .error .cannotCount

/-! ## Levels -/

structure Progress where
  values : Values
  /-- The flags that were used. -/
  used : List (List String)
  /-- The operands that are still to come. -/
  operands : List Argument
  /-- The words that no argument took. -/
  unclaimed : List String
  /-- The words that no argument of the command took. -/
  unclaimedLater : List String
  deriving Repr

/-- How the words of a command are read: its values and the words that none of its arguments takes. -/
abbrev Enter := String → List String → Except Stop (Values × List String)

namespace Level

def refuse {α : Type} (level : Level) : Except Refusal α → Except Stop α
  | .ok value => .ok value
  | .error refusal => .error (.refused level refusal)

/-- The values before any word is read: the defaults, of which the first of a key counts. -/
def defaults (level : Level) : Values :=
  level.arguments.foldl (fun values argument =>
    match argument.key with
    | some key => if (values.get? key).isSome then values else values.set key argument.default
    | none => values) []

def serve (level : Level) (enter : Enter) (progress : Progress) (argument : Argument)
    (words : List String) : Except Stop Progress := do
  let key := argument.key.getD ""
  let keep (value : Data) : Progress := { progress with values := progress.values.set key value }
  match argument.effect with
  | .showHelp => throw (.help level)
  | .setTrue => pure (keep (.truth true))
  | .count =>
    match countAfter ((progress.values.get? key).getD .null) with
    | .ok value => pure (keep value)
    | .error fault => throw (.fault fault)
  | .store => pure (keep (← level.refuse (argument.value words)))
  | .runCommand =>
    let _ ← level.refuse (argument.value words)
    match words with
    | [] => pure progress
    | name :: words =>
      let (values, unclaimed) ← enter name words
      let merged := values.foldl (fun all pair => all.set pair.1 pair.2)
        (progress.values.set key (.text name))
      pure { progress with
        values := merged
        unclaimedLater := progress.unclaimedLater ++ unclaimed }

def serveFlag (level : Level) (enter : Enter) (progress : Progress) (argument : Argument)
    (words : List String) : Except Stop Progress :=
  level.serve enter { progress with used := argument.labels :: progress.used } argument words

/-- Serves as many of the operands as the words suffice for; the words that are left. -/
def serveOperands (level : Level) (enter : Enter) (progress : Progress) (words : List Word) :
    Except Stop (Progress × List Word) := do
  let counts := operandCounts (words.map (·.mark)) progress.operands
  let (served, left) ← (progress.operands.zip counts).foldlM
    (fun (progress, words) (argument, count) => do
      let taken := (words.take count).map (·.text)
      pure (← level.serve enter progress argument taken, words.drop count))
    (progress, words)
  pure ({ served with operands := progress.operands.drop counts.length }, left)

/-- The words after a flag that it takes, and those that are left. -/
def wordsAfter (argument : Argument) (words : List Word) :
    Except Refusal (List String × List Word) :=
  if argument.words == .zero then .ok ([], words)
  else
    match words with
    | ⟨word, .plain⟩ :: rest => .ok ([word], rest)
    | _ => .error (.noValue argument.title)

/-- Serves the flags of one word; the words that are left of those after it. -/
def serveWord (level : Level) (enter : Enter) (progress : Progress) (word : String)
    (use : FlagUse) (after : List Word) : Except Stop (Progress × List Word) := do
  let claimed (progress : Progress) (text : String) : Progress :=
    { progress with unclaimed := progress.unclaimed ++ [text] }
  match use.argument with
  | none => pure (claimed progress word, after)
  | some argument =>
    let cluster ←
      match use.value with
      | none => pure ⟨[], some argument, none⟩
      | some value => level.refuse (level.cluster argument use.label use.separated value)
    let (last, left) ←
      match cluster.last with
      | none => pure ([], after)
      | some argument =>
        let (words, left) ← level.refuse (wordsAfter argument after)
        pure ([(argument, words)], left)
    let uses := cluster.complete.map fun (argument, value) =>
      (argument, (value.map String.ofList).toList)
    let served ← (uses ++ last).foldlM (fun progress (argument, words) =>
      level.serveFlag enter progress argument words) progress
    match cluster.leftover with
    | some text => pure (claimed served text, left)
    | none => pure (served, left)

def isFlagWord (word : Word) : Bool := word.mark == .flag

/-- Serves all words: operands before each flag, the flag, and so on. Words before a flag that no operand
takes are unclaimed. `fuel` bounds the number of turns. -/
def serveAll (level : Level) (enter : Enter) :
    Nat → Progress → List Word → Except Stop Progress
  | 0, progress, _ => .ok progress
  | fuel + 1, progress, words =>
    match words.span (!isFlagWord ·) with
    | (_, []) => do
      let (served, left) ← level.serveOperands enter progress words
      pure { served with unclaimed := served.unclaimed ++ left.map (·.text) }
    | ([], word :: after) => do
      match word.role with
      | .flag use =>
        let (served, left) ← level.serveWord enter progress word.text use after
        level.serveAll enter fuel served left
      | _ => level.serveAll enter fuel progress after
    | (before, rest) => do
      let (served, left) ← level.serveOperands enter progress words
      if left.length < words.length then level.serveAll enter fuel served left
      else
        level.serveAll enter fuel
          { served with unclaimed := served.unclaimed ++ before.map (·.text) } rest

/-- The value of a default that is a text: it is read as a word would be, unless another flag of the same key
comes before or was used. -/
def readDefault (level : Level) (values : Values) (argument : Argument) :
    Except Refusal Values :=
  match argument.key, argument.default with
  | some key, .text word =>
    let first := level.arguments.find? fun other => other.key == some key
    let isFirst := (first.map (·.labels)) == some argument.labels
    if isFirst && ((values.get? key).map (·.same (.text word))) == some true then do
      pure (values.set key (← argument.wordValue word))
    else .ok values
  | _, _ => .ok values

/-- Reads the words of a level: its values and the words that no argument takes. -/
def read (level : Level) (enter : Enter) (words : List String) :
    Except Stop (Values × List String) := do
  let words ← level.refuse (level.words words)
  let start : Progress := ⟨level.defaults, [], level.operands, [], []⟩
  let served ← level.serveAll enter (2 * words.length + 1) start words
  let unused := level.flags.filter fun argument => !served.used.contains argument.labels
  let left := served.operands ++ unused
  let values ← level.refuse ((left.filter (!·.required)).foldlM level.readDefault served.values)
  match left.filter (·.required) with
  | [] => pure (values, served.unclaimed ++ served.unclaimedLater)
  | missing => level.refuse (.error (.missing (missing.map (·.title))))

end Level

/-! ## Programs -/

/-- What a command line comes to: values, or texts to be shown and an exit code. -/
inductive Outcome where
  | values (values : Values)
  | exit (code : Nat) (out err : String)
  deriving Repr

def Level.helpOutcome (level : Level) (code : Nat) : Except UsageFault Outcome :=
  match level.helpText with
  | .ok text => .ok (.exit code text "")
  | .error fault => .error (.template fault)

def Level.refusalText (level : Level) (refusal : Refusal) : String :=
  level.usageText ++ level.name ++ ": error: " ++ refusal.message ++ "\n"

/-- What reading that ends early comes to. -/
def Stop.outcome : Stop → Except UsageFault Outcome
  | .help level => level.helpOutcome 0
  | .refused level refusal => .ok (.exit 2 "" (level.refusalText refusal))
  | .fault reason => .error reason

namespace Program

def enter (program : Program) : Enter := fun name words =>
  match program.command? name with
  | none => .ok ([], words)
  | some command =>
    (program.commandLevel command).read (fun _ words => .ok ([], words)) words

/-- The values of a command line, all of whose words are claimed. -/
def values (program : Program) (words : List String) : Except Stop Values := do
  let (values, unclaimed) ← program.level.read program.enter words
  if unclaimed.isEmpty then pure values
  else throw (.refused program.level (.unclaimed unclaimed))

def read (program : Program) (words : List String) : Except UsageFault Outcome :=
  match program.values words with
  | .ok values => .ok (.values values)
  | .error stop => stop.outcome

end Program

end DeclaredOptions.Usage
