import DeclaredOptions.Literal.Basic
import DeclaredOptions.Literal.Typed

/-!
Contract: configurations, read from plain data.

Owns: the settings of resolution and output with their defaults, and the refusal of data that gives
none.

Does not own: the files that the data comes from.
-/

namespace DeclaredOptions

structure ResolveConfig where
  /-- The interface that holds a command's options, unless the command has one of its own. -/
  optionsInterface : Data
  /-- The tags that make an option required. -/
  demandTags : List Data
  deriving Repr

structure EmitConfig where
  indent : Int
  quote : QuoteMark
  deriving Repr

structure Config where
  resolve : ResolveConfig
  emit : EmitConfig
  deriving Repr

namespace Data

/-- The value of a named key of a mapping; other data has no keys. -/
def lookUp (data : Data) (key : String) : Except Failure (Option Data) :=
  match data with
  | .mapping entries => .ok (find? (.text key) entries)
  | other => .error (.wrongValue (.noLookup other.kind))

/-- The items that a value holds: characters of a text, keys of a mapping. -/
def items : Data → Except Failure (List Data)
  | .list items | .tuple items | .members items => .ok items
  | .text value => .ok (value.toList.map fun c => .text (String.ofList [c]))
  | .bytes value => .ok (value.map fun byte => whole byte.toNat)
  | .mapping entries => .ok (entries.map (·.1))
  | other => .error (.wrongValue (.notIterable other.kind))

def toWhole : Data → Except Failure Int
  | .truth value => .ok (if value then 1 else 0)
  | .number (.whole n) => .ok n
  | .number (.real x) =>
    match x, x.truncate? with
    | .nan, _ => .error (.wrongValue .notANumber)
    | _, some n => .ok n
    | _, none => .error (.wrongValue .infinite)
  | .text value =>
    (Numeral.wholeOfText value.toList (Text.quoted value)).mapError .wrongValue
  | .bytes value =>
    (Numeral.wholeOfText (value.map fun byte => Char.ofNat byte.toNat) (bytesText value)).mapError
      .wrongValue
  | other => .error (.wrongValue (.notWhole other.kind))

end Data

namespace Config

/-- The tags that make an option required, unless a configuration names others. -/
def usualDemandTags : List Data := [.text "demandOption", .text "require", .text "required"]

def readResolve (section_ : Data) : Except Failure ResolveConfig := do
  let interface ← section_.lookUp "options-interface"
  let tags ← section_.lookUp "demand-option-tags"
  let tags ← (tags.getD (.list usualDemandTags)).items
  if tags.isEmpty then throw .emptyDemandTags
  pure ⟨interface.getD (.text "Options"), tags⟩

def readQuote (value : Data) : Except Failure QuoteMark :=
  match value with
  | .text "'" => .ok .single
  | .text "\"" => .ok .double
  | other => do throw (.configQuote (← other.shown))

def readEmit (section_ : Data) : Except Failure EmitConfig := do
  let indent ← section_.lookUp "indent"
  let indent ← (indent.getD (.whole 2)).toWhole
  let quote ← section_.lookUp "quote"
  let quote ← readQuote (quote.getD (.text "'"))
  pure ⟨indent, quote⟩

/-- A section of a configuration; an absent or empty one has no keys. -/
def sectionOf (data : Data) (key : String) : Except Failure Data := do
  let value ← data.lookUp key
  pure (match value with
    | some value => if value.isPresent then value else .mapping []
    | none => .mapping [])

/-- The configuration that data gives; absent or empty data gives the usual one. -/
def ofData (data : Data) : Except Failure Config := do
  let data := if data.isPresent then data else .mapping []
  match data with
  | .mapping _ =>
    let resolve ← readResolve (← sectionOf data "resolve")
    let emit ← readEmit (← sectionOf data "emit")
    pure ⟨resolve, emit⟩
  | _ => throw .configNotMapping

def usual : Config := ⟨⟨.text "Options", usualDemandTags⟩, ⟨2, .single⟩⟩

end Config

end DeclaredOptions
