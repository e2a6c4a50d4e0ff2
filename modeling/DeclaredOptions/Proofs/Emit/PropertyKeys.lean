import DeclaredOptions.Proofs.Declaration.Overloads
import DeclaredOptions.Proofs.Emit.Names
import DeclaredOptions.Proofs.Text.ScriptName

/-!
Contract: the keys of a module's options, against the property names that they come from.

Owns:
- what a key denotes in a script, which is the name that it is written for or nothing;
- the names that properties have, against what they denote where they are written;
- the rows of a module's options, one for each property of the interface.

Does not own: the values in the rows, and what an object makes of its keys.

## Which names survive

A property's name is the text between its marks, and a key escapes the marks and the backslashes of a name. The key
therefore denotes that text itself. A property name with an escape denotes something shorter than its text, and so
its key never denotes the same. A name without one denotes itself. Its key is lost only if it is written bare and
holds a character that counts as one of a word, but not as one of an identifier, such as a superscript.
-/

set_option autoImplicit false

namespace DeclaredOptions

open Script (Denotes IsIdentifier Plain PropertyName isIdentifierPart letterEscapes)
open Text (codeUnits units)

/-! ## Keys -/

namespace Emit

/-- A name with its backslashes and its marks escaped. -/
def escapedKey (quote : QuoteMark) (name : List Char) : List Char :=
  name.flatMap fun c => if c == '\\' || c == quote.char then ['\\', c] else [c]

theorem toList_propertyKey (quote : QuoteMark) (name : String) :
    (propertyKey quote name).toList =
      if isBareKey name.toList then name.toList
      else quote.char :: (escapedKey quote name.toList ++ [quote.char]) := by
  unfold propertyKey
  split
  · rfl
  · rw [String.toList_ofList]
    rfl

private theorem known_of_special {quote : QuoteMark} {c : Char}
    (special : (c == '\\' || c == quote.char) = true) :
    (c, c.toNat) ∈ letterEscapes ∧ codeUnits c.toNat = [c.toNat] ∧ c ≠ '\n' ∧ c ≠ '\r' := by
  rw [Bool.or_eq_true, beq_iff_eq, beq_iff_eq] at special
  rcases special with rfl | rfl
  · decide
  · cases quote <;> decide

/-- An escaped name denotes the name, if it denotes anything: line ends are not escaped. -/
theorem denotes_escapedKey_iff {quote : QuoteMark} {name : List Char} {value : List Nat} :
    Denotes quote.char (escapedKey quote name) value ↔
      value = units name ∧ ∀ c ∈ name, c ≠ '\n' ∧ c ≠ '\r' := by
  induction name generalizing value with
  | nil =>
      constructor
      · intro denotes
        cases denotes
        exact ⟨rfl, by simp⟩
      · rintro ⟨rfl, -⟩
        exact .nil
  | cons c rest inductionHypothesis =>
      have behind : (∃ others, Denotes quote.char (escapedKey quote rest) others ∧
          value = codeUnits c.toNat ++ others) ↔
          value = units (c :: rest) ∧ ∀ d ∈ rest, d ≠ '\n' ∧ d ≠ '\r' := by
        simp only [inductionHypothesis, Text.units_cons]
        exact ⟨fun ⟨_, ⟨same, clear⟩, whole⟩ => ⟨same ▸ whole, clear⟩,
          fun ⟨whole, clear⟩ => ⟨_, ⟨rfl, clear⟩, whole⟩⟩
      unfold escapedKey at behind ⊢
      rw [List.flatMap_cons, List.forall_mem_cons]
      split
      · rename_i special
        obtain ⟨known, oneUnit, clear⟩ := known_of_special special
        rw [oneUnit] at behind
        rw [and_iff_right clear, ← behind]
        exact Script.denotes_letter_iff known
      · rename_i plain
        rw [Bool.not_eq_true, Bool.or_eq_false_iff, beq_eq_false_iff_ne, beq_eq_false_iff_ne] at plain
        rw [List.singleton_append, Script.denotes_cons_iff plain.1, behind, and_left_comm]
        exact and_congr_right fun _ => and_congr_left fun _ =>
          ⟨fun free => free.2.2, fun clear => ⟨plain.2, plain.1, clear⟩⟩

theorem exists_head_of_isBareKey {name : List Char} (bare : isBareKey name = true) :
    ∃ first rest, name = first :: rest ∧ Text.isNameStart first = true := by
  cases name with
  | nil => contradiction
  | cons first rest =>
      unfold isBareKey at bare
      dsimp only at bare
      rw [Bool.and_eq_true] at bare
      exact ⟨first, rest, rfl, bare.1⟩

theorem noEscape_of_isBareKey {name : List Char} (bare : isBareKey name = true) : '\\' ∉ name := by
  have noStart : Text.isNameStart '\\' = false := by decide
  have noPart : Text.isNamePart '\\' = false := by decide
  obtain ⟨first, rest, rfl, start⟩ := exists_head_of_isBareKey bare
  unfold isBareKey at bare
  dsimp only at bare
  rw [Bool.and_eq_true, List.all_eq_true] at bare
  intro member
  rcases List.mem_cons.mp member with rfl | inRest
  · rw [noStart] at start
    contradiction
  · have parts := bare.2 '\\'
    rw [noPart] at parts
    split at parts
    · rename_i lineFeed
      have whole := List.dropLast_append_getLast? '\n' (beq_iff_eq.mp lineFeed)
      rw [← whole, List.mem_append, List.mem_singleton] at inRest
      exact absurd (parts (inRest.resolve_right (by decide))) Bool.false_ne_true
    · exact absurd (parts inRest) Bool.false_ne_true

/-- A bare key denotes its text exactly if its characters are those of identifiers. -/
theorem propertyName_iff_of_isBareKey {name : List Char} {value : List Nat}
    (bare : isBareKey name = true) :
    PropertyName name value ↔ value = units name ∧ ∀ c ∈ name, isIdentifierPart c = true := by
  have noEscape := noEscape_of_isBareKey bare
  obtain ⟨first, rest, shape, start⟩ := exists_head_of_isBareKey bare
  constructor
  · intro named
    cases named with
    | identifier spells isIdentifier =>
        rw [spells.eq_of_noEscape noEscape]
        exact ⟨rfl, isIdentifier.parts⟩
    | @string quote =>
        have noStart : Text.isNameStart quote.char = false := by cases quote <;> decide
        rw [← (List.cons.inj shape).1, noStart] at start
        contradiction
  · rintro ⟨rfl, parts⟩
    refine .identifier (Script.spells_self noEscape) ⟨⟨first, ?_, ?_⟩, parts⟩
    · rw [shape]
      rfl
    · exact Script.isIdentifierStart_of_isNameStart start

/-- A key denotes the name that it is written for, or nothing: a bare one if a character of it is none of identifiers,
and a quoted one if a line ends in it. -/
theorem propertyName_propertyKey_iff {quote : QuoteMark} {name : String} {value : List Nat} :
    PropertyName (propertyKey quote name).toList value ↔
      value = units name.toList ∧
        if isBareKey name.toList then ∀ c ∈ name.toList, isIdentifierPart c = true
        else ∀ c ∈ name.toList, c ≠ '\n' ∧ c ≠ '\r' := by
  rw [toList_propertyKey]
  split
  · rename_i bare
    exact propertyName_iff_of_isBareKey bare
  · exact Script.propertyName_quoted_iff.trans denotes_escapedKey_iff

end Emit

/-! ## Names of properties -/

namespace Source

/-- The names that the properties of an interface are written with. -/
def Statement.propertyNames? : Statement → Option (List String)
  | .declaring _ _ (.interface _ properties _) => some (properties.map (·.name))
  | _ => none

theorem unquoted_of_head {text : String}
    (noMark : ∀ mark ∈ ['\'', '"', '\x60'], text.toList.head? ≠ some mark) : unquoted text = text := by
  unfold unquoted
  split
  · rename_i first rest shape
    rw [shape] at noMark
    have notFirst : ∀ mark ∈ ['\'', '"', '\x60'], first ≠ mark := fun mark isMark same =>
      noMark mark isMark (congrArg some same)
    simp [notFirst]
  · rfl

theorem toList_unquoted_of_marks {quote : QuoteMark} {body : List Char} {text : String}
    (shape : text.toList = quote.char :: (body ++ [quote.char])) : (unquoted text).toList = body := by
  have isMark : (quote.char == '\'' || quote.char == '"' || quote.char == '\x60') = true := by
    cases quote <;> decide
  unfold unquoted
  rw [shape]
  dsimp only
  rw [isMark, List.getLast?_concat, beq_self_eq_true, Bool.and_self, if_pos rfl, String.toList_ofList,
    List.dropLast_concat]

variable {name : String} {value : List Nat}

/-- A property name with an escape denotes less than the text between its marks. -/
theorem length_lt_of_propertyName (named : PropertyName name.toList value) (escaped : '\\' ∈ name.toList) :
    value.length < (units (unquoted name).toList).length := by
  generalize whole : name.toList = text at named
  cases named with
  | identifier spells isIdentifier =>
      rw [unquoted_of_head fun mark isMark => whole ▸ spells.head_ne isIdentifier isMark, whole]
      exact spells.length_lt isIdentifier (whole ▸ escaped)
  | @string quote body _ denotes =>
      have notMark : '\\' ≠ quote.char := by cases quote <;> decide
      rw [toList_unquoted_of_marks whole]
      rw [whole, List.mem_cons, List.mem_append, List.mem_singleton] at escaped
      exact denotes.length_lt ((escaped.resolve_left notMark).resolve_right notMark)

/-- A property name without an escape denotes the text between its marks, in which no line ends. -/
theorem eq_units_of_propertyName (named : PropertyName name.toList value)
    (noEscape : '\\' ∉ name.toList) :
    value = units (unquoted name).toList ∧ ∀ c ∈ (unquoted name).toList, c ≠ '\n' ∧ c ≠ '\r' := by
  generalize whole : name.toList = text at named
  cases named with
  | @identifier _ spelled spells isIdentifier =>
      rw [unquoted_of_head fun mark isMark => whole ▸ spells.head_ne isIdentifier isMark, whole,
        spells.eq_of_noEscape (whole ▸ noEscape)]
      refine ⟨rfl, fun c member => ⟨?_, ?_⟩⟩
      · rintro rfl
        exact isIdentifier.not_mem (by simp) member
      · rintro rfl
        exact isIdentifier.not_mem (by simp) member
  | @string quote body _ denotes =>
      rw [toList_unquoted_of_marks whole]
      rw [whole, List.mem_cons, List.mem_append, not_or, not_or] at noEscape
      refine ⟨denotes.eq_units noEscape.2.1, fun c member => ?_⟩
      exact (denotes.plain noEscape.2.1 c member).2.2

end Source

namespace Emit

/-- The key of a property that is written with a name: it is made of the text between the marks of the name. -/
def keyOf (quote : QuoteMark) (written : String) : String := propertyKey quote (Source.unquoted written)

/-- A property is written with a name that its key denotes again: there is no escape in it, and its characters are
those of identifiers if its key is bare. -/
def KeepsName (written : String) : Prop :=
  '\\' ∉ written.toList ∧ (isBareKey (Source.unquoted written).toList = true →
    ∀ c ∈ (Source.unquoted written).toList, isIdentifierPart c = true)

instance (written : String) : Decidable (KeepsName written) :=
  have := List.decidableBAll (isIdentifierPart · = true) (Source.unquoted written).toList
  inferInstanceAs (Decidable (_ ∧ (_ → _)))

/-- The key of a property denotes what the name of the property does exactly if the name is one that is kept. -/
theorem propertyName_keyOf_iff {quote : QuoteMark} {written : String} {value : List Nat}
    (named : PropertyName written.toList value) :
    PropertyName (keyOf quote written).toList value ↔ KeepsName written := by
  unfold keyOf KeepsName
  rw [propertyName_propertyKey_iff]
  by_cases escaped : '\\' ∈ written.toList
  · have shorter := Source.length_lt_of_propertyName named escaped
    refine iff_of_false ?_ fun kept => kept.1 escaped
    rintro ⟨rfl, -⟩
    exact Nat.lt_irrefl _ shorter
  · obtain ⟨same, noLineEnd⟩ := Source.eq_units_of_propertyName named escaped
    rw [and_iff_right same, and_iff_right escaped]
    split
    · rename_i bare
      exact (imp_iff_right bare).symm
    · rename_i quoted
      exact iff_of_true noLineEnd fun bare => absurd bare quoted

/-- A superscript is a character of words, so this key is written bare, although no identifier holds it. -/
example : keyOf .single "'a²'" = "a²" := by decide +kernel

/-! ## Rows -/

/-- The row of an option in a table. -/
def tableRow (config : EmitConfig) (schema : OptionSchema) : String :=
  String.ofList (List.replicate config.indent.toNat ' ') ++ propertyKey config.quote schema.name ++ ": " ++
    optionSource config.quote schema ++ ","

theorem lines_table (config : EmitConfig) (name : String) {schemas : List OptionSchema}
    (nonempty : schemas ≠ []) :
    (table config name schemas).lines =
      ("export const " ++ name ++ " = " ++ "\x7b") :: (schemas.map (tableRow config) ++ ["\x7d"]) := by
  unfold table
  rw [if_neg (by simpa using nonempty)]
  rfl

/-- The table of options is a part of a command's module. -/
theorem options_infix_moduleLines {working : List String} {config : EmitConfig} {schema : CommandSchema}
    {path : String} {lines : List String} (written : moduleLines working config schema path = .ok lines) :
    (table config "options" schema.options).lines <:+: lines := by
  unfold moduleLines at written
  cases imported : imports working config.quote schema path with
  | error failure =>
      rw [imported] at written
      contradiction
  | ok texts =>
      rw [imported] at written
      cases written
      refine List.IsInfix.trans ?_ (List.suffix_append _ _).isInfix
      unfold constants
      rw [List.cons_append, List.cons_append, List.cons_append, List.cons_append, List.flatMap_cons,
        List.flatMap_cons, List.flatMap_cons, List.flatMap_cons, ← List.append_assoc, ← List.append_assoc,
        ← List.append_assoc]
      exact List.infix_append _ _ _

/-- The options of a command's module are rows in a table, one for each property of the interface in the order in
which the properties are written. A row begins with a key. Where the name of the property is an identifier or a
string, the key denotes the same name exactly if the name is one that is kept. -/
theorem propertyName_key_of_commandSchema {path text : String} {first : Nat} {file : SourceFile}
    (formed : SourceFile.ofText path text first = .ok file) {i : Declaration} (declared : i ∈ file.interfaces)
    {own optionsFile : Option SourceFile} {config : Config} {d : Declaration} {schema : CommandSchema}
    {start final : Session}
    (ends : Step.Ends (Resolve.commandSchema own config d (some ⟨optionsFile, i⟩)) start (.ok schema) final)
    (emit : EmitConfig) :
    ∃ statements doc kind name properties line rows,
      Source.read path text = .ok statements ∧
      .declaring doc kind (.interface name properties line) ∈ statements ∧
      i.properties = properties.map .ofSyntax ∧
      List.Forall₂
        (fun property row => (∃ value, row = String.ofList (List.replicate emit.indent.toNat ' ') ++
            keyOf emit.quote property.name ++ ": " ++ value ++ ",") ∧
          ∀ units, PropertyName property.name.toList units →
            (PropertyName (keyOf emit.quote property.name).toList units ↔ KeepsName property.name))
        properties rows ∧
      (properties ≠ [] → ∀ working modulePath lines,
        moduleLines working emit schema modulePath = .ok lines →
          "export const options = \x7b" :: (rows ++ ["\x7d"]) <:+: lines) := by
  obtain ⟨isDeclared, isInterface⟩ := List.mem_filter.mp declared
  obtain ⟨statements, ran, -⟩ := SourceFile.headings_ofText formed
  obtain ⟨doc, kind, form, stated, sameBody, -⟩ :=
    SourceFile.exists_declaring_of_mem ran formed isDeclared
  cases form with
  | interface name properties line =>
      have sameProperties : i.properties = properties.map .ofSyntax := by
        rw [Declaration.properties, sameBody]
        rfl
      have names : schema.options.map (·.name) = properties.map (Source.unquoted ·.name) := by
        rw [Resolve.optionNames_of_ends_commandSchema ends, sameProperties, List.map_map]
        rfl
      refine ⟨statements, doc, kind, name, properties, line, schema.options.map (tableRow emit), ran, stated,
        sameProperties, ?_, ?_⟩
      · have aligned : List.Forall₂ (fun property option => Source.unquoted property.name = option.name)
            properties schema.options :=
          List.forall₂_map_left_iff.mp (List.forall₂_map_right_iff.mp
            ((congrFun (congrFun List.forall₂_eq_eq_eq _) _).mpr names.symm))
        refine List.forall₂_map_right_iff.mpr (aligned.imp fun property option sameName => ?_)
        refine ⟨⟨optionSource emit.quote option, ?_⟩, fun units => propertyName_keyOf_iff⟩
        rw [keyOf, sameName]
        rfl
      · intro some working modulePath lines written
        have hasOptions : schema.options ≠ [] := by
          intro none
          rw [none, List.map_nil, eq_comm, List.map_eq_nil_iff] at names
          exact some names
        have part := options_infix_moduleLines written
        rwa [lines_table emit "options" hasOptions] at part
  | _ =>
      rw [Declaration.isInterface, sameBody] at isInterface
      contradiction

/-- A command of a text with options of an interface there, if the schema of one passes a check. -/
theorem exists_options_of_check (path text : String) (check : List Source.Statement → CommandSchema → Bool)
    (passes : (match Source.read path text, SourceFile.ofText path text 1 with
      | .ok statements, .ok file => file.interfaces.any fun i => file.functions.any fun d =>
        ((Resolve.commandSchema (some file) .usual d (some ⟨some file, i⟩)).run.run
          ⟨.empty (.empty []) false, []⟩).1.toOption.any (check statements)
      | _, _ => false) = true) :
    ∃ statements file i d schema final, Source.read path text = .ok statements ∧
      SourceFile.ofText path text 1 = .ok file ∧ i ∈ file.interfaces ∧
      Step.Ends (Resolve.commandSchema (some file) .usual d (some ⟨some file, i⟩))
        ⟨.empty (.empty []) false, []⟩ (.ok schema) final ∧
      check statements schema = true := by
  obtain ⟨statements, file, ran, formed, passes⟩ := SourceFile.exists_of_check _ passes
  obtain ⟨i, isInterface, passes⟩ := List.any_eq_true.mp passes
  obtain ⟨d, -, passes⟩ := List.any_eq_true.mp passes
  obtain ⟨schema, final, ends, passes⟩ := Step.ends_of_check _ _ _ passes
  exact ⟨statements, file, i, d, schema, final, ran, formed, isInterface, ends, passes⟩

def keptText : String := "interface Options\x7btrim?:boolean;'a-b'?:string;\"it's\"?:string\x7d
export function f()\x7b\x7d"

/-- A bare name, a quoted one, and one that holds a mark of the other kind are kept: each denotes something, and the
key denotes it too. -/
theorem propertyName_key_of_commandSchema_kept :
    ∃ file i d schema final properties rows,
      SourceFile.ofText "f.ts" keptText 1 = .ok file ∧ i ∈ file.interfaces ∧
      Step.Ends (Resolve.commandSchema (some file) .usual d (some ⟨some file, i⟩))
        ⟨.empty (.empty []) false, []⟩ (.ok schema) final ∧
      properties.map (·.name) = ["trim", "'a-b'", "\"it's\""] ∧
      List.Forall₂
        (fun (property : Source.PropertySyntax) (row : String) =>
          (∃ value, row = "  " ++ keyOf .single property.name ++ ": " ++ value ++ ",") ∧
          ∃ units, PropertyName property.name.toList units ∧
            PropertyName (keyOf .single property.name).toList units)
        properties rows ∧
      ∀ modulePath lines, moduleLines [] Config.usual.emit schema modulePath = .ok lines →
        "export const options = \x7b" :: (rows ++ ["\x7d"]) <:+: lines := by
  obtain ⟨statements, file, i, d, schema, final, ran, formed, declared, ends, written⟩ :=
    exists_options_of_check "f.ts" keptText
      (fun statements _ => statements.all fun statement =>
        statement.propertyNames?.all (· == ["trim", "'a-b'", "\"it's\""])) (by decide +kernel)
  obtain ⟨_, doc, kind, name, properties, line, rows, ranAgain, stated, -, keys, part⟩ :=
    propertyName_key_of_commandSchema formed declared ends Config.usual.emit
  cases ran.symm.trans ranAgain
  have names : properties.map (·.name) = ["trim", "'a-b'", "\"it's\""] :=
    beq_iff_eq.mp (List.all_eq_true.mp written _ stated)
  have each : ∀ name ∈ ["trim", "'a-b'", "\"it's\""],
      KeepsName name ∧ ∃ units, PropertyName name.toList units := by
    have identifier : IsIdentifier "trim".toList :=
      ⟨⟨'t', rfl, by decide +kernel⟩, List.all_eq_true.mp (by decide +kernel)⟩
    have dashed : Plain '\'' "a-b".toList := by decide
    have marked : Plain '"' "it's".toList := by decide
    rw [List.forall_mem_cons, List.forall_mem_cons, List.forall_mem_singleton]
    refine ⟨⟨by decide +kernel, _, .identifier (Script.spells_self (by decide)) identifier⟩,
      ⟨by decide +kernel, units "a-b".toList, ?_⟩, ⟨by decide +kernel, units "it's".toList, ?_⟩⟩
    · exact @PropertyName.string .single _ _ (Script.denotes_units_of_plain dashed)
    · exact @PropertyName.string .double _ _ (Script.denotes_units_of_plain marked)
  have kept : ∀ property ∈ properties,
      KeepsName property.name ∧ ∃ units, PropertyName property.name.toList units := by
    intro property member
    exact each _ (names ▸ List.mem_map_of_mem member)
  refine ⟨file, i, d, schema, final, properties, rows, formed, declared, ends, names, ?_, ?_⟩
  · refine ((List.forall₂_and_left _ _).mpr ⟨kept, keys⟩).imp ?_
    rintro property row ⟨⟨isKept, units, named⟩, shape, same⟩
    exact ⟨shape, units, named, (same units named).mpr isKept⟩
  · refine part ?_ []
    rintro rfl
    exact absurd names (List.cons_ne_nil _ _).symm

def escapedText : String := "interface Options\x7b'it\\'s'?:string\x7d
export function f()\x7b\x7d"

/-- A quoted name with an escaped mark denotes a name that the key of its option does not denote: the backslash of the
name is escaped again. -/
theorem not_propertyName_key_escaped :
    ∃ file i d schema final,
      SourceFile.ofText "a.ts" escapedText 1 = .ok file ∧ i ∈ file.interfaces ∧
      Step.Ends (Resolve.commandSchema (some file) .usual d (some ⟨some file, i⟩))
        ⟨.empty (.empty []) false, []⟩ (.ok schema) final ∧
      PropertyName "'it\\'s'".toList (units "it's".toList) ∧
      (table Config.usual.emit "options" schema.options).lines =
        ["export const options = \x7b", "  'it\\\\\\'s': \x7b type: 'string' \x7d,", "\x7d"] ∧
      ¬PropertyName "'it\\\\\\'s'".toList (units "it's".toList) := by
  obtain ⟨_, file, i, d, schema, final, -, formed, declared, ends, written⟩ :=
    exists_options_of_check "a.ts" escapedText (fun _ schema =>
      (table Config.usual.emit "options" schema.options).lines ==
        ["export const options = \x7b", "  'it\\\\\\'s': \x7b type: 'string' \x7d,", "\x7d"])
      (by decide +kernel)
  refine ⟨file, i, d, schema, final, formed, declared, ends, ?_, beq_iff_eq.mp written, ?_⟩
  · have body : Denotes '\'' "it\\'s".toList (units "it's".toList) :=
      .free (by decide) (.free (by decide) (.escape (.letter (by decide)) (.free (by decide) .nil)))
    exact @PropertyName.string .single _ _ body
  · have isKey : "'it\\\\\\'s'" = propertyKey .single "it\\'s" := by decide
    rw [isKey, propertyName_propertyKey_iff]
    rintro ⟨same, -⟩
    exact absurd same (by decide)

end Emit

end DeclaredOptions
