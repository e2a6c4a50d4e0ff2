import DeclaredOptions.Config
import DeclaredOptions.Doc.Selection
import DeclaredOptions.Schema.Option
import DeclaredOptions.Schema.Resolution

/-!
Contract: the option schema of one member, from its type and its documentation.

Owns:
- positionals, which are described by the parameter tags of their function and demanded unless their
  signature lets them be left out;
- named options, which are described, named and demanded by their own block.

Does not own: how members are put together to commands.
-/

namespace DeclaredOptions

/-- An option with the type, list mark and choices of a descriptor. -/
def OptionSchema.ofDescriptor (name : String) (descriptor : Descriptor) : OptionSchema :=
  let bare := OptionSchema.named name
  match descriptor with
  | .scalar s => { bare with type := some (.text s.name) }
  | .list s => { bare with type := some (.text s.name), array := some (.truth true) }
  | .choice members _ => { bare with choices := some (members.map .path) }

/-- A text as a setting; an empty one is left out. -/
def textSetting (text : String) : Option Literal :=
  if text.isEmpty then none else some (.text text)

/-- A file and a declaration that a member belongs to, as far as it does. -/
structure MemberScope where
  file : Option SourceFile
  owner : Option Declaration

namespace Resolve

/-- The schema of a parameter, with a reference if its type is an enum. -/
def positional (scope : MemberScope) (parameter : Parameter) :
    Resolve (OptionSchema × Option Reference) := do
  let (descriptor, ref) ← typeOf scope.file .positional parameter.name parameter.type
  let doc := scope.owner.bind fun owner => paramDoc? owner.doc parameter.name
  let schema ← ofExcept { OptionSchema.ofDescriptor parameter.name descriptor with
    description := doc.bind textSetting
    demand := if parameter.isOptional then none else some (.text "true")
    variadic := parameter.rest }.checked
  pure (schema, ref)

def otherNameOf (block : Option DocBlock) : Resolve (Option Literal) :=
  match firstTag? block "alias" with
  | none => pure none
  | some tag => some <$> ofTag (Literal.parseAlias tag.comment)

def defaultOf (block : Option DocBlock) (descriptor : Descriptor) : Resolve (Option Literal) :=
  match firstTag? block "default" with
  | none => pure none
  | some tag => do
    let literal ← ofTag (Literal.parse (some tag.comment) (some "default"))
    some <$> ofExcept (literal.fitting descriptor tag.comment)

def isDemanded (block : Option DocBlock) : List Data → Except Failure Bool
  | [] => .ok false
  | tag :: rest => do
    let selector : TagSelector :=
      match tag with
      | .text name => .named name
      | other => .other other
    let found ← tagsOfChecked block selector
    if found.isEmpty then isDemanded block rest else pure true

/-- The schema of a property, with a reference if its type is an enum. -/
def option (file : Option SourceFile) (demandTags : List Data) (property : Property) :
    Resolve (OptionSchema × Option Reference) := do
  let (descriptor, ref) ← typeOf file .option property.name property.type
  let otherName ← otherNameOf property.doc
  let default ← defaultOf property.doc descriptor
  let demanded ← ofExcept (isDemanded property.doc demandTags)
  let schema ← ofExcept { OptionSchema.ofDescriptor property.name descriptor with
    description := textSetting (summaryOf property.doc)
    otherName := otherName
    default := default
    demand := if demanded then some (.truth true) else none }.checked
  pure (schema, ref)

end Resolve

end DeclaredOptions
