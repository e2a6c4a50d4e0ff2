import DeclaredOptions.Config
import DeclaredOptions.Proofs.Step
import DeclaredOptions.Work

/-!
Contract: the kinds of values that the settings of a configuration have.

Owns:
- configurations with settings of the kinds that later steps take them for;
- the data that is refused as data, gives such a configuration, or does neither;
- the tags of a configuration, which are never none and are taken over as they are listed.

Does not own: the text formats of configurations, and what becomes of a setting of another kind.

An indentation is a whole number and a quote one of two marks by their types. The name of the interface and the tags
are kept as the data that they are.
-/

set_option autoImplicit false

namespace DeclaredOptions

namespace Data

def IsText (data : Data) : Prop := ∃ value, data = .text value

end Data

namespace Config

/-! ## Sections and settings -/

/-- The value of a key, or the usual one where a mapping has no such key. -/
def setting (entries : List (Data × Data)) (key : String) (usual : Data) : Data :=
  (Data.find? (.text key) entries).getD usual

/-- The value of a section, where an absent or empty one is a mapping without keys. -/
def sectionIn (entries : List (Data × Data)) (key : String) : Data :=
  match Data.find? (.text key) entries with
  | some value => if value.isPresent then value else .mapping []
  | none => .mapping []

def tagsIn (entries : List (Data × Data)) : Data :=
  setting entries "demand-option-tags" (.list usualDemandTags)

def interfaceIn (entries : List (Data × Data)) : Data := setting entries "options-interface" (.text "Options")

def indentIn (entries : List (Data × Data)) : Data := setting entries "indent" (.whole 2)

def quoteIn (entries : List (Data × Data)) : Data := setting entries "quote" (.text "'")

variable {data section_ : Data} {entries : List (Data × Data)} {failure : Failure} {resolve : ResolveConfig}
  {emit : EmitConfig} {config : Config}

/-- A single or a double quotation mark. -/
def IsMark (value : Data) : Prop := value = .text "'" ∨ value = .text "\""

/-- The interface is named by a text, and the tags are texts and not none. -/
structure Sound (config : Config) : Prop where
  interface : config.resolve.optionsInterface.IsText
  someTag : config.resolve.demandTags ≠ []
  tags : ∀ tag ∈ config.resolve.demandTags, tag.IsText

/-- The values of a mapping that are refused as such or make settings of the right kinds, in the order in which they
are looked at: nothing is asked of the output if there are no tags, nor of the names if the quote is no mark. A quote
that is no mark has to be one that the refusal can show. -/
def Fits (entries : List (Data × Data)) : Prop :=
  ∃ resolve tags, sectionIn entries "resolve" = .mapping resolve ∧ (tagsIn resolve).items = .ok tags ∧
    (tags = [] ∨ ∃ emit indent, sectionIn entries "emit" = .mapping emit ∧
      (indentIn emit).toWhole = .ok indent ∧ (IsMark (quoteIn emit) ∨ (quoteIn emit).isWritable = true) ∧
      (IsMark (quoteIn emit) → (interfaceIn resolve).IsText ∧ ∀ tag ∈ tags, tag.IsText))

end Config

end DeclaredOptions
