import DeclaredOptions.Schema.Option

/-!
Contract: schemas as plain data, for inspection.

Owns: the keys of options, commands and reference tables.

Does not own: the formats that plain data is shown in.
-/

namespace DeclaredOptions

def Setting.toData : Setting → Except Failure Data
  | .one value => value.toData
  | .many values => .list <$> values.mapM Literal.toData

def OptionSchema.toData (schema : OptionSchema) : Except Failure Data := do
  let fields ← schema.settings.mapM fun (key, value) => do pure (key, ← value.toData)
  let variadic := if schema.variadic then [("variadic", Data.truth true)] else []
  pure (.ofFields ([("name", .text schema.name), ("properties", .ofFields fields)] ++ variadic))

def namesData (refs : List Reference) : Data := .list (refs.map fun ref => .text ref.name)

def ReferenceTable.toData (table : ReferenceTable) : Data :=
  .ofFields (table.groups.map fun group =>
    (group.source,
      .ofFields [("default", namesData group.defaults), ("named", namesData group.named)]))

def Reference.toData (ref : Reference) : Data :=
  let exported :=
    match present ref.importedName with
    | some name => [("export_name", Data.text name)]
    | none => []
  .ofFields ([("name", .text ref.name), ("export", .text ref.kindWord),
    ("source", .text ref.source)] ++ exported)

def CommandSchema.toData (schema : CommandSchema) : Except Failure Data := do
  let positionals ← schema.positionals.mapM (·.toData)
  let options ← schema.options.mapM (·.toData)
  let command := (schema.command.map fun ref => ("command", ref.toData)).toList
  pure (.ofFields ([("name", .text schema.name), ("description", .text schema.description),
    ("positionals", .list positionals), ("options", .list options),
    ("references", schema.references.toData)] ++ command))

end DeclaredOptions
