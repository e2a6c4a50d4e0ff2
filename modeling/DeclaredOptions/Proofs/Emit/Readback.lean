import DeclaredOptions.Proofs.Emit.Strings
import DeclaredOptions.Proofs.Source.Stretch
import DeclaredOptions.Source.Reading

/-!
Contract: the import lines of a command's module, as a reader of sources takes them.

Owns:
- the bindings of an import that has been read;
- import lines as sources of one statement, which gives the specifier and the bindings back.

Does not own: lines with escapes in their names, or with a specifier that does not stand for itself.
-/

set_option autoImplicit false

namespace DeclaredOptions

open Source (IsBareWord EndsWord endsWord_space)
open Source.Cursor (IsGap BeginsToken isGap_nil isGap_space)
open Source.Parser

/-! ## Named imports -/

/-- A named import of words without escapes. -/
structure NamedImport.IsBare (item : NamedImport) : Prop where
  exported : IsBareWord item.exported.toList
  name : IsBareWord item.name.toList

section Named

variable {rules : Source.Rules} {gap rest : List Char} {name : String} {item : NamedImport}

/-- A comma or a closing brace. -/
def EndsItem (text : List Char) : Prop := text.head? = some ',' ∨ text.head? = some '\x7d'

theorem EndsItem.beginsToken (ends : EndsItem rest) : BeginsToken rest := by
  rcases ends with first | first <;> simp [BeginsToken, first] <;> decide

theorem EndsItem.endsWord (ends : EndsItem rest) : EndsWord rest := by
  rcases ends with first | first <;> simp [EndsWord, first] <;> decide

theorem endsWord_append (blank : IsGap gap) (ends : EndsWord rest) : EndsWord (gap ++ rest) := by
  cases gap with
  | nil => exact ends
  | cons c gap =>
      obtain rfl := blank c List.mem_cons_self
      exact endsWord_space _

theorem reads_moduleName (bare : IsBareWord name.toList) (ends : EndsWord (gap ++ rest))
    (blank : IsGap gap) (begins : BeginsToken rest) :
    Reads rules Source.moduleName (name.toList ++ (gap ++ rest)) name rest := by
  have noMark : ∀ c ∈ (name.toList ++ (gap ++ rest)).head?, c ≠ '\'' ∧ c ≠ '"' := by
    rintro c first
    refine ⟨?_, ?_⟩ <;> rintro rfl <;> exact bare.head?_append_ne (by decide) first
  have read : Reads rules Source.moduleName (name.toList ++ (gap ++ rest)) (Source.unquoted name) rest :=
    reads_map (reads_orElse_right (fails_lexeme (Source.Lexeme.string?_eq_none noMark))
      (reads_word bare ends blank begins))
  have unquoted := bare.unquoted_ofList
  rw [String.ofList_toList] at unquoted
  rwa [unquoted] at read

/-- The end of an item is in sight. -/
theorem reads_endOfItem {name : String × String} (ends : EndsItem rest) :
    Reads rules (do
      ensure ((← sees ",") || (← sees "\x7d"))
      pure name) rest name rest := by
  refine reads_bind looks_sees.reads (reads_bind looks_sees.reads (reads_bind (looks_ensure ?_).reads reads_pure))
  cases rest with
  | nil => rcases ends with first | first <;> contradiction
  | cons c rest =>
      rcases ends with first | first <;> obtain rfl := Option.some.inj first <;> simp [Text.after?]

theorem reads_clauseItem (bare : item.IsBare) (blank : IsGap gap) (ends : EndsItem rest) :
    Reads rules Source.clauseItem (item.text.toList ++ (gap ++ rest)) (item.exported, item.name) rest := by
  have readName := @reads_moduleName rules gap rest _ bare.name (endsWord_append blank ends.endsWord) blank
    ends.beginsToken
  refine reads_orElse_left ?_
  unfold NamedImport.text
  split
  · rename_i same
    rw [beq_iff_eq] at same
    refine reads_bind readName (reads_bind (looks_keyword?_false ends.endsWord).reads ?_)
    rw [if_neg Bool.false_ne_true, same]
    exact reads_bind reads_pure (reads_endOfItem ends)
  · have shape : (item.exported ++ " as " ++ item.name).toList ++ (gap ++ rest) = item.exported.toList ++
        ([' '] ++ ("as".toList ++ ([' '] ++ (item.name.toList ++ (gap ++ rest))))) := by simp
    have asBare : IsBareWord "as".toList := by decide
    rw [shape]
    refine reads_bind (reads_moduleName bare.exported (endsWord_space _) isGap_space asBare.beginsToken)
      (reads_bind (reads_keyword?_true asBare (endsWord_space _) isGap_space bare.name.beginsToken) ?_)
    rw [if_pos rfl]
    exact reads_bind readName (reads_endOfItem ends)

/-- The pair that a reader makes of a named import. -/
def NamedImport.pair (item : NamedImport) : String × String := (item.exported, item.name)

/-- The texts of named imports, with commas between them. -/
def NamedImport.row (items : List NamedImport) : List Char := Text.join [',', ' '] (items.map (·.text.toList))

theorem NamedImport.row_cons {items : List NamedImport} (nonempty : items ≠ []) :
    NamedImport.row (item :: items) = item.text.toList ++ ([',', ' '] ++ NamedImport.row items) := by
  rw [NamedImport.row, List.map_cons, Text.join_cons_of_ne_nil _ _ (by simpa using nonempty), List.append_assoc]
  rfl

theorem NamedImport.IsBare.exists_word (bare : item.IsBare) :
    ∃ word more, IsBareWord word ∧ item.text.toList = word ++ more := by
  unfold NamedImport.text
  split
  · exact ⟨_, [], bare.name, (List.append_nil _).symm⟩
  · exact ⟨_, _, bare.exported, by rw [String.toList_append, String.toList_append, List.append_assoc]⟩

/-- A row begins with a word. -/
theorem NamedImport.exists_word_row {items : List NamedImport} (bare : ∀ item ∈ items, item.IsBare)
    (nonempty : items ≠ []) : ∃ word more, IsBareWord word ∧ NamedImport.row items = word ++ more := by
  obtain ⟨item, rest, rfl⟩ := List.exists_cons_of_ne_nil nonempty
  obtain ⟨word, more, wordBare, shape⟩ := (bare item List.mem_cons_self).exists_word
  cases rest with
  | nil => exact ⟨word, more, wordBare, shape⟩
  | cons next last =>
      refine ⟨word, more ++ ([',', ' '] ++ NamedImport.row (next :: last)), wordBare, ?_⟩
      rw [NamedImport.row_cons (List.cons_ne_nil _ _), shape, List.append_assoc]

/-- Named imports are read one by one, up to the closing brace. -/
theorem readsItems_row {items : List NamedImport} (bare : ∀ item ∈ items, item.IsBare)
    (nonempty : items ≠ []) : ReadsItems rules (sees "\x7d") (do
        let first ← Source.clauseItem
        unless ← sees "\x7d" do symbol ","
        pure first)
      (NamedImport.row items ++ (' ' :: '\x7d' :: rest)) (items.map (·.pair)) ('\x7d' :: rest) := by
  induction items with
  | nil => contradiction
  | cons item more inductionHypothesis =>
      obtain ⟨itemBare, moreBare⟩ := List.forall_mem_cons.mp bare
      have inFront (text : List Char) : Looks rules (sees "\x7d") (item.text.toList ++ text) false := by
        obtain ⟨word, more, wordBare, shape⟩ := itemBare.exists_word
        rw [shape, List.append_assoc]
        exact looks_sees_word wordBare rfl (by decide)
      by_cases last : more = []
      · subst last
        refine .item (inFront _) ?_ ?_ (.finished looks_sees_true)
        · refine reads_bind (@reads_clauseItem rules [' '] ('\x7d' :: rest) _ itemBare isGap_space (.inr rfl))
            (reads_bind looks_sees_true.reads ?_)
          exact reads_pure
        · simp [NamedImport.row, Text.join]
          omega
      · rw [NamedImport.row_cons last, List.append_assoc, List.append_assoc]
        refine .item (inFront _) ?_ ?_ (inductionHypothesis moreBare last)
        · refine reads_bind (@reads_clauseItem rules [] _ _ itemBare isGap_nil (.inl rfl))
            (reads_else (looks_sees_false rfl fun first => absurd (Option.some.inj first) (by decide)) ?_)
          obtain ⟨word, behind, wordBare, shape⟩ := NamedImport.exists_word_row moreBare last
          refine reads_bind (@reads_symbol rules _ [' '] "," isGap_space ?_) reads_pure
          rw [shape, List.append_assoc]
          exact wordBare.beginsToken
        · simp only [List.length_append, List.length_cons]
          omega

theorem reads_clause {items : List NamedImport} (bare : ∀ item ∈ items, item.IsBare) (nonempty : items ≠ [])
    (begins : BeginsToken rest) :
    Reads rules Source.clause ("\x7b ".toList ++ (NamedImport.row items ++ (" \x7d ".toList ++ rest)))
      (items.map (·.pair)) rest := by
  have opened : BeginsToken (NamedImport.row items ++ (" \x7d ".toList ++ rest)) := by
    obtain ⟨word, more, wordBare, shape⟩ := NamedImport.exists_word_row bare nonempty
    rw [shape, List.append_assoc]
    exact wordBare.beginsToken
  refine reads_bind (@reads_symbol rules _ [' '] "\x7b" isGap_space opened) ?_
  refine reads_bind (reads_manyUntil (readsItems_row bare nonempty)) ?_
  exact reads_bind (@reads_symbol rules _ [' '] "\x7d" isGap_space begins) reads_pure

end Named

/-! ## Statements -/

section Statements

variable {rules : Source.Rules} {rest : List Char} {statement : ImportStatement} {specifier : String}

/-- A statement that binds something, and whose names are words without escapes. -/
structure ImportStatement.IsBare (statement : ImportStatement) : Prop where
  binds : statement.bindings ≠ []
  names : ∀ binding ∈ statement.bindings, IsBareWord binding.name.toList
  exports : ∀ binding ∈ statement.bindings, ∀ exported ∈ binding.exported, IsBareWord exported.toList

theorem ImportStatement.IsBare.default? (bare : statement.IsBare) :
    ∀ name ∈ statement.default?, IsBareWord name.toList := by
  intro name isDefault
  have bound : ⟨statement.source, none, name⟩ ∈ statement.bindings :=
    List.mem_append_left _ (List.mem_map.mpr ⟨name, Option.mem_toList.mpr isDefault, rfl⟩)
  exact bare.names _ bound

theorem ImportStatement.IsBare.named (bare : statement.IsBare) : ∀ item ∈ statement.named, item.IsBare := by
  intro item member
  have bound : ⟨statement.source, some item.exported, item.name⟩ ∈ statement.bindings :=
    List.mem_append_right _ (List.mem_map.mpr ⟨item, member, rfl⟩)
  exact ⟨bare.exports _ bound _ rfl, bare.names _ bound⟩

/-- The clauses that names without escapes can make up: a default name, named imports, or both. -/
inductive ImportStatement.HasClauses : ImportStatement → Prop where
  | default {source name : String} (bare : IsBareWord name.toList) : HasClauses ⟨source, some name, []⟩
  | named {source : String} {items : List NamedImport} (nonempty : items ≠ [])
      (bare : ∀ item ∈ items, item.IsBare) : HasClauses ⟨source, none, items⟩
  | both {source name : String} {items : List NamedImport} (bareName : IsBareWord name.toList)
      (nonempty : items ≠ []) (bare : ∀ item ∈ items, item.IsBare) : HasClauses ⟨source, some name, items⟩

theorem ImportStatement.IsBare.hasClauses (bare : statement.IsBare) : statement.HasClauses := by
  have defaultName := bare.default?
  have named := bare.named
  have binds := bare.binds
  obtain ⟨source, default?, items⟩ := statement
  cases default? with
  | none =>
      refine .named ?_ named
      rintro rfl
      exact binds rfl
  | some name =>
      by_cases nonempty : items = []
      · subst nonempty
        exact .default (defaultName name rfl)
      · exact .both (defaultName name rfl) nonempty named

/-- The characters of an import clause. -/
def ImportStatement.clauseChars (statement : ImportStatement) : List Char :=
  (Text.joined ", " statement.clauses).toList

section Clauses

variable {source name : String} {items : List NamedImport}

theorem ImportStatement.clauseChars_default :
    (ImportStatement.mk source (some name) []).clauseChars = name.toList := by
  simp [clauseChars, clauses, Text.joined, Text.join]

variable (nonempty : items ≠ [])

include nonempty

theorem ImportStatement.clauseChars_named : (ImportStatement.mk source none items).clauseChars =
    "\x7b ".toList ++ (NamedImport.row items ++ " \x7d".toList) := by
  simp [clauseChars, clauses, Text.joined, Text.join, nonempty, NamedImport.row, Function.comp_def]

theorem ImportStatement.clauseChars_both : (ImportStatement.mk source (some name) items).clauseChars =
    name.toList ++ (", ".toList ++ (ImportStatement.mk source none items).clauseChars) := by
  simp [clauseChars, clauses, Text.joined, Text.join, nonempty]

/-- Named imports open with a brace. -/
theorem ImportStatement.head?_clauseChars_named :
    ((ImportStatement.mk source none items).clauseChars ++ rest).head? = some '\x7b' := by
  rw [clauseChars_named nonempty]
  rfl

theorem looks_star_named : Looks rules (sees "*") ((ImportStatement.mk source none items).clauseChars ++ rest)
    false := by
  refine looks_sees_false rfl ?_
  rw [ImportStatement.head?_clauseChars_named nonempty]
  decide

theorem beginsToken_named : BeginsToken ((ImportStatement.mk source none items).clauseChars ++ rest) := by
  intro c first
  rw [ImportStatement.head?_clauseChars_named nonempty] at first
  obtain rfl := Option.some.inj first
  decide

theorem reads_clause_named (bare : ∀ item ∈ items, item.IsBare) (begins : BeginsToken rest) :
    Reads rules Source.clause ((ImportStatement.mk source none items).clauseChars ++ ([' '] ++ rest))
      (items.map (·.pair)) rest := by
  rw [ImportStatement.clauseChars_named nonempty, List.append_assoc, List.append_assoc]
  exact reads_clause bare nonempty begins

end Clauses

/-- A clause is read as the names that it was written for. -/
theorem reads_importClause (clauses : statement.HasClauses) (begins : BeginsToken rest)
    (notComma : rest.head? ≠ some ',') :
    Reads rules Source.importClause (statement.clauseChars ++ ([' '] ++ rest))
      (statement.default?, none, statement.named.map (·.pair)) rest := by
  cases clauses with
  | named nonempty bare =>
      refine reads_else (looks_star_named nonempty) ?_
      refine reads_then (looks_sees_head (ImportStatement.head?_clauseChars_named nonempty) rfl).reads ?_
      exact reads_bind (reads_clause_named nonempty bare begins) reads_pure
  | default bare =>
      rw [ImportStatement.clauseChars_default]
      refine reads_else (looks_sees_word bare rfl (by decide)) ?_
      refine reads_else (looks_sees_word bare rfl (by decide)) ?_
      refine reads_bind (reads_word bare (endsWord_space _) isGap_space begins) ?_
      exact reads_else (looks_symbol?_false rfl notComma) reads_pure
  | both bareName nonempty bare =>
      rw [ImportStatement.clauseChars_both nonempty, List.append_assoc, List.append_assoc]
      refine reads_else (looks_sees_word bareName rfl (by decide)) ?_
      refine reads_else (looks_sees_word bareName rfl (by decide)) ?_
      refine reads_bind (@reads_word rules _ [] _ bareName (Source.endsWord_cons (by decide)) isGap_nil
        (Source.Cursor.beginsToken_cons (by decide))) ?_
      refine reads_then (@reads_symbol?_true rules _ [' '] "," isGap_space (beginsToken_named nonempty)) ?_
      refine reads_else (looks_star_named nonempty) ?_
      exact reads_bind (reads_clause_named nonempty bare begins) reads_pure

/-- An import clause begins with a word or a brace. -/
theorem ImportStatement.HasClauses.opens (clauses : statement.HasClauses) (text : List Char) :
    ∀ c ∈ (statement.clauseChars ++ text).head?, Source.Lexeme.isWordPart c = true ∨ c = '\x7b' := by
  intro c first
  cases clauses with
  | named nonempty bare =>
      rw [head?_clauseChars_named nonempty] at first
      exact .inr (Option.some.inj first).symm
  | default bare =>
      rw [clauseChars_default] at first
      exact .inl (bare.isWordPart_head first)
  | both bareName nonempty bare =>
      rw [clauseChars_both nonempty, List.append_assoc] at first
      exact .inl (bareName.isWordPart_head first)

/-- The characters behind an import clause. -/
def sourceChars (quote : QuoteMark) (specifier : String) : List Char :=
  "from ".toList ++ (quote.char :: (specifier.toList ++ [quote.char]))

/-- The characters of an import line. -/
def ImportStatement.lineChars (statement : ImportStatement) (quote : QuoteMark) (specifier : String) :
    List Char :=
  "import ".toList ++ (statement.clauseChars ++ ([' '] ++ sourceChars quote specifier))

variable {quote : QuoteMark} {cursor : Source.Cursor}

theorem looks_importAttributes_nil : Looks rules Source.importAttributes [] () :=
  looks_bind (looks_keyword?_false nofun) (looks_bind (looks_keyword?_false nofun) looks_pure)

theorem reads_importKeyword (bare : statement.IsBare) :
    Reads rules (keyword "import") (statement.lineChars quote specifier) ()
      (statement.clauseChars ++ ([' '] ++ sourceChars quote specifier)) := by
  refine @reads_keyword rules _ [' '] "import" (by decide) (endsWord_space _) isGap_space ?_
  intro c first
  rcases bare.hasClauses.opens _ c first with part | rfl
  · exact Source.Lexeme.beginsToken_of_isWordPart part
  · decide

theorem readsAt_importStatement (bare : statement.IsBare)
    (plain : Script.Plain quote.char specifier.toList) (same : cursor.rest = statement.lineChars quote specifier) :
    ReadsAt rules Source.importStatement cursor (.importing
      ⟨specifier, statement.default?, statement.named.map (·.pair), none, lineOf cursor⟩) [] := by
  have opens := bare.hasClauses.opens ([' '] ++ sourceChars quote specifier)
  have noMark : ∀ c ∈ (statement.clauseChars ++ ([' '] ++ sourceChars quote specifier)).head?,
      c ≠ '\'' ∧ c ≠ '"' := by
    intro c first
    rcases opens c first with part | rfl
    · constructor <;> rintro rfl <;> exact absurd part (by decide)
    · decide
  refine readsAt_here ?_
  dsimp only
  refine reads_bind (reads_importKeyword bare) ?_ cursor same
  refine reads_orElse_right (fails_first (fails_lexeme (Source.Lexeme.string?_eq_none noMark))) ?_
  refine reads_orElse_left ?_
  refine reads_bind (reads_importClause bare.hasClauses (Source.Cursor.beginsToken_cons (by decide))
    (by simp [sourceChars])) ?_
  dsimp only
  have beginsString : BeginsToken (quote.char :: (specifier.toList ++ [quote.char])) :=
    Source.Cursor.beginsToken_cons (by cases quote <;> decide)
  refine reads_bind (@reads_keyword rules _ [' '] "from" (by decide) (endsWord_space _)
    isGap_space beginsString) ?_
  refine reads_bind (reads_quotedString quote plain) ?_
  refine reads_bind looks_importAttributes_nil.reads ?_
  refine reads_bind reads_semicolon_nil ?_
  rw [Source.Lexeme.unquoted_string, String.ofList_toList]
  exact reads_pure

/-- An import line opens no call and no access to a member. -/
theorem looks_importCall (bare : statement.IsBare) : Looks rules (wouldRead (do
      keyword "import"
      ensure ((← sees "(") || (← sees ".")))) (statement.lineChars quote specifier) false := by
  have apart {mark : String} {c : Char} (begins : mark.toList.head? = some c)
      (noPart : Source.Lexeme.isWordPart c = false ∧ c ≠ '\x7b') :
      Looks rules (sees mark) (statement.clauseChars ++ ([' '] ++ sourceChars quote specifier)) false := by
    refine looks_sees_false begins fun first => ?_
    rcases bare.hasClauses.opens _ c first with part | brace
    · rw [noPart.1] at part
      contradiction
    · exact noPart.2 brace
  refine looks_wouldRead_false (fails_second (reads_importKeyword bare) ?_)
  exact fails_second (apart rfl (by decide)).reads
    (fails_second (apart rfl (by decide)).reads (fails_ensure rfl))

theorem readsAt_statementRule (bare : statement.IsBare)
    (plain : Script.Plain quote.char specifier.toList) (same : cursor.rest = statement.lineChars quote specifier) :
    ReadsAt rules Source.statementRule cursor (.importing
      ⟨specifier, statement.default?, statement.named.map (·.pair), none, lineOf cursor⟩) [] := by
  have noMark {mark : String} {c : Char} (begins : mark.toList.head? = some c) (differs : c ≠ 'i') :
      Looks rules (sees mark) (statement.lineChars quote specifier) false :=
    looks_sees_false begins fun first => differs (Option.some.inj first).symm
  have importBare : IsBareWord "import".toList := by decide
  have noRule : Source.wordStatement "import" = none := rfl
  refine readsAt_here ?_
  dsimp only
  refine readsAt_else (noMark rfl (by decide)) same ?_
  refine readsAt_else (noMark rfl (by decide)) same ?_
  refine readsAt_else (noMark rfl (by decide)) same ?_
  refine readsAt_look (@looks_peekWord rules _ "import" importBare (endsWord_space _)) same ?_
  dsimp only
  rw [noRule]
  dsimp only
  rw [if_pos (beq_self_eq_true _)]
  exact readsAt_else (looks_importCall bare) same (readsAt_importStatement bare plain same)

end Statements

/-! ## Sources -/

section Sources

variable {markup : Bool} {depth : Nat} {text rest : List Char} {cursor : Source.Cursor}

/-- A goal is solved by its rule. -/
theorem readsAt_goal {goal : Source.Goal} {value : goal.Result}
    (one : ReadsAt ⟨markup, Source.solve markup depth⟩ (Source.rule goal) cursor value rest) :
    ReadsAt ⟨markup, Source.solve markup (depth + 1)⟩ (Source.Parser.goal goal) cursor value rest := one

/-- A text with one statement in it is a source of this statement. -/
theorem statements?_single {value : Source.Statement} (begins : BeginsToken text)
    (noMark : text.head? ≠ some '#') (nonempty : text ≠ [])
    (one : ∀ rules, ReadsAt rules Source.statementRule (.start text) value []) :
    Source.statements? markup text = some [value] := by
  have noGap (rules : Source.Rules) : Looks rules skipGap text () := by
    intro cursor same
    change some ((), cursor.skipGap cursor.rest.length) = _
    rw [Source.Cursor.skipGap_of_beginsToken (same ▸ begins)]
  have noInterpreter (rules : Source.Rules) : Looks rules Source.interpreterLine text () :=
    looks_else (looks_sees_false rfl noMark) looks_pure
  have atEnd (rules : Source.Rules) (text : List Char) :
      Looks rules (do pure (← here).rest.isEmpty) text text.isEmpty := by
    rintro cursor rfl
    rfl
  have notAtEnd (rules : Source.Rules) : Looks rules (do pure (← here).rest.isEmpty) text false := by
    have found := atEnd rules text
    rwa [List.isEmpty_eq_false_iff.mpr nonempty] at found
  have whole (depth : Nat) :
      ReadsAt ⟨markup, Source.solve markup (depth + 1)⟩ Source.program (.start text) [value] [] := by
    refine readsAt_look (noGap _) rfl (readsAt_look (noInterpreter _) rfl (readsAt_here ?_))
    refine readsAt_item (notAtEnd _) rfl (readsAt_goal (one _)) (List.length_pos_iff.mpr nonempty) ?_
    exact reads_manyUntilFuel (.finished (atEnd _ [])) (List.length_pos_iff.mpr nonempty)
  obtain ⟨next, ran, -⟩ := whole (4 * text.length + 15)
  exact congrArg (Option.map (·.1)) ran

/-- A bare import line is a source of one statement, which imports what the line was written for. -/
theorem statements?_lineChars {statement : ImportStatement} {quote : QuoteMark} {specifier : String}
    (bare : statement.IsBare) (plain : Script.Plain quote.char specifier.toList) :
    Source.statements? markup (statement.lineChars quote specifier) =
      some [.importing ⟨specifier, statement.default?, statement.named.map (·.pair), none, 1⟩] :=
  statements?_single (Source.Cursor.beginsToken_cons (by decide))
    (fun first => absurd (Option.some.inj first) (by decide)) (List.cons_ne_nil _ _)
    fun _ => readsAt_statementRule bare plain rfl

end Sources

/-! ## Lines -/

/-- What an import that has been read binds from the file that it leads to. -/
def Import.bindings (source : String) (clause : Import) : List ImportBinding :=
  clause.defaultName.toList.map (⟨source, none, ·⟩) ++
    clause.named.map fun pair => ⟨source, some pair.1, pair.2⟩

section Lines

variable {working : List String} {quote : QuoteMark} {path text : String} {statement : ImportStatement}

/-- A bare import line, read as a source of its own, is one import of the specifier with the bindings of the
statement. -/
theorem ImportStatement.exists_read_text (bare : statement.IsBare)
    (written : statement.text working quote path = .ok text)
    (plain : ∀ specifier, Path.specifier working path statement.source = .ok specifier →
      Script.Plain quote.char specifier.toList) (file : String) :
    ∃ clause : Import, Source.read file text = .ok [.importing clause] ∧
      Path.specifier working path statement.source = .ok clause.module ∧
      clause.bindings statement.source = statement.bindings := by
  obtain ⟨specifier, led, rfl⟩ := exists_specifier_of_text written
  have space : " from ".toList = [' '] ++ "from ".toList := by decide
  have shape : ("import " ++ Text.joined ", " statement.clauses ++ " from " ++
      (String.ofList [quote.char] ++ specifier ++ String.ofList [quote.char])).toList =
        statement.lineChars quote specifier := by
    unfold lineChars clauseChars sourceChars
    simp only [String.toList_append, String.toList_ofList]
    rw [space]
    simp only [List.append_assoc, List.cons_append, List.nil_append]
  refine ⟨⟨specifier, statement.default?, statement.named.map (·.pair), none, 1⟩, ?_, led, ?_⟩
  · unfold Source.read
    rw [shape, statements?_lineChars bare (plain specifier led)]
  · simp [Import.bindings, bindings, NamedImport.pair, Function.comp_def]

/-- Bare import lines for one file that are written alike bind alike. -/
theorem ImportStatement.bindings_eq_of_text_eq {other : ImportStatement} (bare : statement.IsBare)
    (bareOther : other.IsBare) (sameSource : statement.source = other.source)
    (plain : ∀ specifier, Path.specifier working path statement.source = .ok specifier →
      Script.Plain quote.char specifier.toList)
    (written : statement.text working quote path = .ok text)
    (writtenOther : other.text working quote path = .ok text) :
    statement.bindings = other.bindings := by
  obtain ⟨clause, read, -, told⟩ := exists_read_text bare written plain ""
  obtain ⟨clauseOther, readOther, -, toldOther⟩ :=
    exists_read_text bareOther writtenOther (sameSource ▸ plain) ""
  have same : clause = clauseOther := by
    rw [read] at readOther
    simpa using readOther
  rw [← told, ← toldOther, same, sameSource]

end Lines

/-! ## Modules -/

namespace Emit

variable {schema : CommandSchema}

/-- Every statement of a module binds something: its source is that of a symbol. -/
theorem bindings_ne_nil (ids : ((symbols schema).map (·.id)).Nodup) :
    ∀ statement ∈ importStatements schema, statement.bindings ≠ [] := by
  intro statement isStatement
  obtain ⟨⟨source, refs⟩, isGroup, rfl⟩ := List.mem_map.mp isStatement
  obtain ⟨source, isSource, same⟩ := List.mem_map.mp isGroup
  obtain ⟨rfl, rfl⟩ := Prod.mk.inj same
  obtain ⟨ref, isSymbol, rfl⟩ := List.mem_map.mp (List.mem_eraseDups.mp isSource)
  have inFile : ref ∈ symbolsIn schema ref.source := List.mem_filter.mpr ⟨isSymbol, beq_self_eq_true _⟩
  have apart : ((symbolsIn schema ref.source).map (·.id)).Nodup := ids.sublist (List.filter_sublist.map _)
  have grouped : distinct ((symbols schema).filter (·.source == ref.source)) =
      symbolsIn schema ref.source := distinct_of_nodup apart
  have fromSource : ∀ other ∈ symbolsIn schema ref.source, other.source = ref.source :=
    fun other member => by simpa using (List.mem_filter.mp member).2
  rw [grouped, ImportStatement.bindings_ofReferences fromSource]
  intro none
  obtain ⟨noDefault, noNamed⟩ := List.append_eq_nil_iff.mp (List.map_eq_nil_iff.mp none)
  by_cases isDefault : ref.isDefault
  · have member : ref ∈ (symbolsIn schema ref.source).filter (·.isDefault) :=
      List.mem_filter.mpr ⟨inFile, isDefault⟩
    cases defaults : (symbolsIn schema ref.source).filter (·.isDefault) with
    | nil =>
        rw [defaults] at member
        contradiction
    | cons first rest =>
        rw [defaults] at noDefault
        contradiction
  · have member : ref ∈ (symbolsIn schema ref.source).filter (!·.isDefault) :=
      List.mem_filter.mpr ⟨inFile, by simpa using isDefault⟩
    rw [noNamed] at member
    contradiction

theorem isBare_importStatements (ids : ((symbols schema).map (·.id)).Nodup)
    (bare : ∀ ref ∈ symbols schema, IsBareWord ref.name.toList ∧
      ∀ exported ∈ ref.imported.exported, IsBareWord exported.toList) :
    ∀ statement ∈ importStatements schema, statement.IsBare := by
  intro statement isStatement
  have bound : ∀ binding ∈ statement.bindings, ∃ ref ∈ symbols schema, ref.imported = binding := by
    intro binding isBinding
    have inModule : binding ∈ (importStatements schema).flatMap (·.bindings) :=
      List.mem_flatMap.mpr ⟨statement, isStatement, isBinding⟩
    rw [bindings_importStatements ids] at inModule
    obtain ⟨ref, isBound, same⟩ := List.mem_map.mp inModule
    exact ⟨ref, boundSymbols_subperm.subset isBound, same⟩
  refine ⟨bindings_ne_nil ids statement isStatement, ?_, ?_⟩
  · intro binding isBinding
    obtain ⟨ref, isSymbol, rfl⟩ := bound binding isBinding
    exact (bare ref isSymbol).1
  · intro binding isBinding
    obtain ⟨ref, isSymbol, rfl⟩ := bound binding isBinding
    exact (bare ref isSymbol).2

end Emit

/-- The import lines of a command's module tell what they bind, where the names of the symbols are words without
escapes and each character of a specifier stands for itself: read as a source, each line is one import, of the
specifier that leads to the file of its statement, with the bindings of its statement. -/
theorem Emit.read_imports_of_commandSchema {start final : Session} {file : SourceFile} {config : Config}
    {d : Declaration} {paired : Option PairedOptions} {schema : CommandSchema} {working : List String}
    {quote : QuoteMark} {path : String}
    (reachable : start.project.Reachable) (offers : start.project.Offers (some file) d paired)
    (ends : Step.Ends (Resolve.commandSchema (some file) config d paired) start (.ok schema) final)
    (named : ∀ ref ∈ symbols schema, ref.source ∉ "" :: Path.sourceSuffixes)
    (bare : ∀ ref ∈ symbols schema, IsBareWord ref.name.toList ∧
      ∀ exported ∈ ref.imported.exported, IsBareWord exported.toList)
    (plain : ∀ ref ∈ symbols schema, ∀ specifier, Path.specifier working path ref.source = .ok specifier →
      Script.Plain quote.char specifier.toList) (reader : String) :
    ∃ texts, imports working quote schema path = .ok texts ∧
      List.Forall₂ (fun statement text => ∃ clause : Import,
          Source.read reader text = .ok [.importing clause] ∧
          Path.specifier working path statement.source = .ok clause.module ∧
          clause.bindings statement.source = statement.bindings)
        (importStatements schema) texts := by
  obtain ⟨-, -, hasSymbols, -⟩ := Resolve.ends_commandSchema_of_reachable reachable offers ends
  obtain ⟨texts, written⟩ := exists_imports working quote path named
  have each := mapM_eq_ok_iff.mp written
  have clear : ∀ statement ∈ importStatements schema, statement.IsBare ∧
      ∀ specifier, Path.specifier working path statement.source = .ok specifier →
        Script.Plain quote.char specifier.toList := by
    intro statement isStatement
    refine ⟨isBare_importStatements hasSymbols.nodup_ids bare statement isStatement, ?_⟩
    have inSources : statement.source ∈ (importStatements schema).map (·.source) :=
      List.mem_map_of_mem isStatement
    rw [sources_importStatements, List.mem_eraseDups] at inSources
    obtain ⟨ref, isSymbol, same⟩ := List.mem_map.mp inSources
    exact same ▸ plain ref isSymbol
  refine ⟨texts, written, ((List.forall₂_and_left _ _).mpr ⟨clear, each⟩).imp ?_⟩
  rintro statement text ⟨⟨statementBare, statementPlain⟩, isText⟩
  exact ImportStatement.exists_read_text statementBare isText statementPlain reader

/-- The import lines of a command with an enum of another file, which are read back. -/
theorem Emit.read_imports_of_commandSchema_paint :
    ∃ file d paired schema final,
      paintProject.Reachable ∧ paintProject.Offers (some file) d paired ∧
      Step.Ends (Resolve.commandSchema (some file) .usual d paired) ⟨paintProject, []⟩ (.ok schema) final ∧
      ∃ texts, imports [] .single schema "out/paint.command.ts" = .ok texts ∧
        List.Forall₂ (fun statement text => ∃ clause : Import,
            Source.read "lines.ts" text = .ok [.importing clause] ∧
            Path.specifier [] "out/paint.command.ts" statement.source = .ok clause.module ∧
            clause.bindings statement.source = statement.bindings)
          (importStatements schema) texts := by
  obtain ⟨file, d, paired, schema, final, offers, ends, shape⟩ :=
    Resolve.exists_commandSchema paintProject .usual "paint.ts" "paint"
      (fun schema => (symbols schema).all fun ref => decide (ref.source ∉ "" :: Path.sourceSuffixes) &&
        (decide (IsBareWord ref.name.toList) &&
          decide (∀ exported ∈ ref.imported.exported, IsBareWord exported.toList)) &&
        (Path.specifier [] "out/paint.command.ts" ref.source).toOption.all
          fun specifier => decide (Script.Plain '\'' specifier.toList)) (by decide +kernel)
  simp only [List.all_eq_true, Bool.and_eq_true, decide_eq_true_eq] at shape
  refine ⟨file, d, paired, schema, final, reachable_paintProject, offers, ends, ?_⟩
  refine @read_imports_of_commandSchema ⟨paintProject, []⟩ final file .usual d paired schema [] .single
    "out/paint.command.ts" reachable_paintProject offers ends (fun ref member => (shape ref member).1.1)
    (fun ref member => (shape ref member).1.2) (fun ref member specifier led => ?_) "lines.ts"
  have clear := (shape ref member).2
  rw [led] at clear
  exact of_decide_eq_true clear

end DeclaredOptions
