import DeclaredOptions.Source.Grammar
import DeclaredOptions.Proofs.Source.Word
import DeclaredOptions.Proofs.Text.Cutting
import DeclaredOptions.Proofs.Text.ScriptString

/-!
Contract: parsers on name texts.

Owns:
- that a parser takes a stretch of a text, gives a value for it and leaves the rest, wherever the text stands;
- the stretches that tokens take: marks, words without escapes, and lexemes with the blanks behind them;
- sequences, choices and lists of parsers.

Does not own: the rules of the grammar.

The index of a cursor and the length of what is left make up the length of the whole text, which no step changes. So
an item of a list moves the cursor on if what it leaves is shorter.
-/

set_option autoImplicit false

namespace DeclaredOptions.Source

/-! ## Cursors -/

namespace Cursor

/-- The length of the whole text, as far as a cursor tells. -/
def extent (cursor : Cursor) : Nat := cursor.index + cursor.rest.length

/-- A text of spaces. -/
def IsGap (text : List Char) : Prop := ∀ c ∈ text, c = ' '

/-- A text that does not begin with a blank or a comment. -/
def BeginsToken (text : List Char) : Prop := ∀ c ∈ text.head?, c ≠ '/' ∧ isSpace c = false

variable (cursor : Cursor)

theorem rest_advance (n : Nat) : (cursor.advance n).rest = cursor.rest.drop n := by
  induction n generalizing cursor with
  | zero => rfl
  | succ n inductionHypothesis =>
      unfold advance
      split
      · rename_i none
        rw [none, List.drop_nil]
      · rename_i c rest some
        rw [inductionHypothesis, some, List.drop_succ_cons]

theorem extent_advance (n : Nat) : (cursor.advance n).extent = cursor.extent := by
  induction n generalizing cursor with
  | zero => rfl
  | succ n inductionHypothesis =>
      unfold advance
      split
      · rfl
      · rename_i c rest some
        rw [inductionHypothesis, extent, extent, some, List.length_cons]
        dsimp only
        omega

theorem extent_skipGap (fuel : Nat) : (cursor.skipGap fuel).extent = cursor.extent := by
  induction fuel generalizing cursor with
  | zero => rfl
  | succ fuel inductionHypothesis =>
      unfold skipGap
      split
      · rw [inductionHypothesis]
        exact cursor.extent_advance _
      · split
        · split
          · rw [inductionHypothesis]
            exact cursor.extent_advance 1
          · rfl
        · rfl

theorem extent_afterToken (length : Nat) : (cursor.afterToken length).extent = cursor.extent := by
  rw [afterToken, extent_skipGap]
  exact cursor.extent_advance length

variable {cursor} {token gap rest : List Char}

theorem isGap_nil : IsGap [] := nofun

theorem isGap_space : IsGap [' '] := by
  rintro c (_ | ⟨_, ⟨⟩⟩)
  rfl

theorem beginsToken_cons {c : Char} (begins : c ≠ '/' ∧ isSpace c = false) : BeginsToken (c :: rest) := by
  rintro _ ⟨⟩
  exact begins

theorem commentLength?_of_beginsToken (begins : BeginsToken rest) : commentLength? rest = none := by
  unfold commentLength?
  split
  · simp [BeginsToken] at begins
  · simp [BeginsToken] at begins
  · rfl

/-- Nothing is left out where a token begins. -/
theorem skipGap_of_beginsToken (begins : BeginsToken cursor.rest) (fuel : Nat) : cursor.skipGap fuel = cursor := by
  cases fuel with
  | zero => rfl
  | succ fuel =>
      rw [skipGap, commentLength?_of_beginsToken begins]
      dsimp only
      split
      · rename_i c rest some
        rw [if_neg]
        simpa [some] using (begins c (by simp [some])).2
      · rfl

theorem rest_skipGap (same : cursor.rest = gap ++ rest) (blank : IsGap gap) (begins : BeginsToken rest)
    {fuel : Nat} (enough : gap.length ≤ fuel) : (cursor.skipGap fuel).rest = rest := by
  induction gap generalizing cursor fuel with
  | nil =>
      rw [List.nil_append] at same
      rw [skipGap_of_beginsToken (same ▸ begins), same]
  | cons c gap inductionHypothesis =>
      obtain ⟨rfl, blankRest⟩ := List.forall_mem_cons.mp blank
      rw [List.length_cons] at enough
      obtain ⟨fuel, rfl⟩ : ∃ more, fuel = more + 1 := ⟨fuel - 1, by omega⟩
      have noComment : commentLength? (' ' :: (gap ++ rest)) = none := by simp [commentLength?]
      rw [skipGap, same, List.cons_append, noComment]
      dsimp only
      rw [if_pos (by decide)]
      refine inductionHypothesis ?_ blankRest (by omega)
      rw [if_neg (by decide)]
      change (cursor.advance 1).rest = gap ++ rest
      rw [rest_advance, same]
      rfl

theorem rest_afterToken (same : cursor.rest = token ++ (gap ++ rest)) (blank : IsGap gap)
    (begins : BeginsToken rest) : (cursor.afterToken token.length).rest = rest := by
  have behind : (cursor.afterRaw token.length).rest = gap ++ rest := by
    change (cursor.advance token.length).rest = gap ++ rest
    rw [rest_advance, same, List.drop_left]
  refine rest_skipGap behind blank begins ?_
  rw [behind, List.length_append]
  omega

end Cursor

/-! ## Words without escapes -/

/-- A word without escapes: its characters are parts of a word by themselves. -/
structure IsBareWord (text : List Char) : Prop where
  nonempty : text ≠ []
  parts : ∀ c ∈ text, Lexeme.isWordPart c = true
  start : ∀ c ∈ text.head?, c.isDigit = false

instance (text : List Char) : Decidable (IsBareWord text) :=
  decidable_of_iff (text ≠ [] ∧ text.all Lexeme.isWordPart = true ∧ text.head?.all (!·.isDigit) = true)
    ⟨fun ⟨nonempty, parts, start⟩ =>
        ⟨nonempty, List.all_eq_true.mp parts, by simpa [Option.all_eq_true] using start⟩,
      fun ⟨nonempty, parts, start⟩ =>
        ⟨nonempty, List.all_eq_true.mpr parts, by simpa [Option.all_eq_true] using start⟩⟩

/-- A part of a word is no blank, and opens no comment. -/
theorem Lexeme.beginsToken_of_isWordPart {c : Char} (part : isWordPart c = true) :
    c ≠ '/' ∧ Cursor.isSpace c = false := by
  constructor
  · rintro rfl
    exact absurd part (by decide)
  · have noBlank : Text.isBlank c = false := isBlank_of_isWordChar (by simp [isWordChar, part])
    unfold isWordPart at part
    simp only [Cursor.isSpace, noBlank, Bool.false_and, Bool.false_or]
    dsimp only at part
    split at part
    · simp
      omega
    · rw [noBlank, Bool.false_or, Bool.not_eq_true'] at part
      exact part

namespace IsBareWord

variable {word rest : List Char} (bare : IsBareWord word)

include bare

theorem isWordPart_head {c : Char} (first : (word ++ rest).head? = some c) : Lexeme.isWordPart c = true := by
  obtain ⟨head, more, rfl⟩ := List.exists_cons_of_ne_nil bare.nonempty
  obtain rfl := Option.some.inj first
  exact bare.parts head List.mem_cons_self

/-- What is no part of a word does not begin one. -/
theorem head?_append_ne {c : Char} (noPart : Lexeme.isWordPart c = false) : (word ++ rest).head? ≠ some c := by
  intro first
  rw [bare.isWordPart_head first] at noPart
  contradiction

theorem beginsToken : Cursor.BeginsToken (word ++ rest) := by
  obtain ⟨first, more, rfl⟩ := List.exists_cons_of_ne_nil bare.nonempty
  exact Cursor.beginsToken_cons (Lexeme.beginsToken_of_isWordPart (bare.parts first List.mem_cons_self))

theorem unquoted_ofList : unquoted (String.ofList word) = String.ofList word := by
  obtain ⟨c, more, rfl⟩ := List.exists_cons_of_ne_nil bare.nonempty
  have part := bare.parts c List.mem_cons_self
  have noQuote : (c == '\'' || c == '"' || c == '\x60') = false := by
    rw [← Bool.not_eq_true]
    intro quoted
    simp only [Bool.or_eq_true, beq_iff_eq] at quoted
    obtain (rfl | rfl) | rfl := quoted <;> exact absurd part (by decide)
  unfold unquoted
  rw [String.toList_ofList]
  simp only [noQuote, Bool.false_and]
  rfl

end IsBareWord

/-- A text that goes on with no word. -/
def EndsWord (text : List Char) : Prop := ∀ c ∈ text.head?, Lexeme.isWordPart c = false ∧ c ≠ '\\'

theorem endsWord_cons {c : Char} {text : List Char} (ends : Lexeme.isWordPart c = false ∧ c ≠ '\\') :
    EndsWord (c :: text) := by
  rintro _ ⟨⟩
  exact ends

theorem endsWord_space (text : List Char) : EndsWord (' ' :: text) := endsWord_cons (by decide)

namespace Lexeme

variable {text word rest : List Char}

theorem wordEscape?_eq_none (noEscape : ∀ c ∈ text.head?, c ≠ '\\') : wordEscape? text = none := by
  unfold wordEscape?
  split
  · simp at noEscape
  · simp at noEscape
  · rfl

theorem wordTail_of_endsWord (ends : EndsWord text) (fuel : Nat) : wordTail text fuel = 0 := by
  cases fuel with
  | zero => rfl
  | succ fuel =>
      unfold wordTail
      rw [wordEscape?_eq_none fun c first => (ends c first).2]
      cases text with
      | nil => rfl
      | cons c text => simp [(ends c rfl).1]

theorem wordTail_append (parts : ∀ c ∈ word, isWordPart c = true) (ends : EndsWord rest) {fuel : Nat}
    (enough : word.length ≤ fuel) : wordTail (word ++ rest) fuel = word.length := by
  induction word generalizing fuel with
  | nil => exact wordTail_of_endsWord ends fuel
  | cons c word inductionHypothesis =>
      rw [List.forall_mem_cons] at parts
      rw [List.length_cons] at enough
      obtain ⟨fuel, rfl⟩ : ∃ more, fuel = more + 1 := ⟨fuel - 1, by omega⟩
      have noEscape : c ≠ '\\' := by
        rintro rfl
        exact absurd parts.1 (by decide)
      unfold wordTail
      rw [wordEscape?_eq_none (by simpa using noEscape)]
      have tail : wordTail (word ++ rest) fuel = word.length := inductionHypothesis parts.2 (by omega)
      simp only [List.cons_append, parts.1, if_true, tail, List.length_cons]
      omega

theorem word?_append (bare : IsBareWord word) (ends : EndsWord rest) : word? (word ++ rest) = some word.length := by
  have length : wordTail (word ++ rest) (word ++ rest).length = word.length :=
    wordTail_append bare.parts ends (by simp)
  obtain ⟨c, more, rfl⟩ := List.exists_cons_of_ne_nil bare.nonempty
  have noDigit := bare.start c rfl
  rw [List.cons_append] at length ⊢
  simp only [word?, length, noDigit]
  simp

theorem word?_of_endsWord (ends : EndsWord text) : word? text = none := by
  cases text with
  | nil => rfl
  | cons c text => simp [word?, wordTail_of_endsWord ends]

/-! ## Strings -/

variable {mark : Char} {body : List Char}

theorem stringTail?_append (plain : Script.Plain mark body) (noBackslash : mark ≠ '\\') {fuel : Nat}
    (enough : body.length < fuel) : stringTail? mark (body ++ mark :: rest) fuel = some (body.length + 1) := by
  induction body generalizing fuel with
  | nil =>
      obtain ⟨fuel, rfl⟩ : ∃ more, fuel = more + 1 := ⟨fuel - 1, by omega⟩
      simp [stringTail?]
  | cons c body inductionHypothesis =>
      obtain ⟨free, plainRest⟩ := List.forall_mem_cons.mp plain
      obtain ⟨notMark, notBackslash, notFeed, notReturn⟩ := free
      rw [List.length_cons] at enough
      obtain ⟨fuel, rfl⟩ : ∃ more, fuel = more + 1 := ⟨fuel - 1, by omega⟩
      have tail : stringTail? mark (body ++ mark :: rest) fuel = some (body.length + 1) :=
        inductionHypothesis plainRest (by omega)
      simp [stringTail?, notMark, notFeed, notReturn, tail]

/-- A string of characters that stand for themselves reaches up to its closing mark. -/
theorem string?_append (quote : QuoteMark) (plain : Script.Plain quote.char body) :
    string? (quote.char :: (body ++ [quote.char]) ++ rest) = some (quote.char :: (body ++ [quote.char])).length := by
  have noBackslash : quote.char ≠ '\\' := by cases quote <;> decide
  have shape : quote.char :: (body ++ [quote.char]) ++ rest = quote.char :: (body ++ quote.char :: rest) := by simp
  have enough : body.length < (quote.char :: (body ++ quote.char :: rest)).length := by
    simp only [List.length_cons, List.length_append]
    omega
  have tail := @stringTail?_append rest quote.char body plain noBackslash _ enough
  rw [shape]
  cases quote with
  | single =>
      change (stringTail? '\'' (body ++ '\'' :: rest) _).map (· + 1) = _
      rw [show '\'' = QuoteMark.single.char from rfl, tail]
      simp
  | double =>
      change (stringTail? '"' (body ++ '"' :: rest) _).map (· + 1) = _
      rw [show '"' = QuoteMark.double.char from rfl, tail]
      simp

theorem unquoted_string (quote : QuoteMark) (body : List Char) :
    unquoted (String.ofList (quote.char :: (body ++ [quote.char]))) = String.ofList body := by
  unfold unquoted
  rw [String.toList_ofList]
  cases quote <;> simp [QuoteMark.char]

theorem string?_eq_none (noMark : ∀ c ∈ text.head?, c ≠ '\'' ∧ c ≠ '"') : string? text = none := by
  unfold string?
  split
  · simp at noMark
  · simp at noMark
  · rfl

end Lexeme

/-! ## Parsers -/

namespace Parser

/-- At a cursor, a parser gives a value and leaves a rest of the same text. -/
def ReadsAt {α : Type} (rules : Rules) (p : Parser α) (cursor : Cursor) (value : α) (rest : List Char) : Prop :=
  ∃ next : Cursor, (p rules).run cursor = some (value, next) ∧ next.rest = rest ∧ next.extent = cursor.extent

/-- Wherever a text stands, a parser gives a value for it and leaves a rest. -/
def Reads {α : Type} (rules : Rules) (p : Parser α) (text : List Char) (value : α) (rest : List Char) : Prop :=
  ∀ cursor : Cursor, cursor.rest = text → ReadsAt rules p cursor value rest

/-- Wherever a text stands, a parser gives a value and does not move. -/
def Looks {α : Type} (rules : Rules) (p : Parser α) (text : List Char) (value : α) : Prop :=
  ∀ cursor : Cursor, cursor.rest = text → (p rules).run cursor = some (value, cursor)

/-- Wherever a text stands, a parser fails. -/
def Fails {α : Type} (rules : Rules) (p : Parser α) (text : List Char) : Prop :=
  ∀ cursor : Cursor, cursor.rest = text → (p rules).run cursor = none

section Sequences

variable {α β : Type} {rules : Rules} {p q : Parser α} {f : α → Parser β} {a : α} {b : β}
  {text middle rest : List Char}

theorem Looks.reads (looks : Looks rules p text a) : Reads rules p text a text :=
  fun cursor same => ⟨cursor, looks cursor same, same, rfl⟩

theorem looks_pure : Looks rules (pure a) text a := fun _ _ => rfl

theorem reads_pure : Reads rules (pure a) text a text := looks_pure.reads

theorem looks_bind (first : Looks rules p text a) (second : Looks rules (f a) text b) :
    Looks rules (p >>= f) text b := by
  intro cursor same
  change ((p rules).run cursor).bind (fun pair => (f pair.1 rules).run pair.2) = _
  rw [first cursor same]
  exact second cursor same

theorem looks_else {seen : Parser Bool} {yes no : Parser β} (absent : Looks rules seen text false)
    (one : Looks rules no text b) : Looks rules (do if ← seen then yes else no) text b := by
  refine looks_bind absent ?_
  rw [if_neg Bool.false_ne_true]
  exact one

theorem readsAt_bind {cursor : Cursor} (first : ReadsAt rules p cursor a middle)
    (second : ∀ between : Cursor, between.rest = middle → between.extent = cursor.extent →
      ReadsAt rules (f a) between b rest) : ReadsAt rules (p >>= f) cursor b rest := by
  obtain ⟨between, ranFirst, left, extentFirst⟩ := first
  obtain ⟨next, ranSecond, leftSecond, extentSecond⟩ := second between left extentFirst
  refine ⟨next, ?_, leftSecond, extentSecond.trans extentFirst⟩
  change ((p rules).run cursor).bind (fun pair => (f pair.1 rules).run pair.2) = _
  rw [ranFirst]
  exact ranSecond

/-- A parser that looks leaves the cursor for the next one. -/
theorem readsAt_look {cursor : Cursor} (first : Looks rules p text a) (same : cursor.rest = text)
    (second : ReadsAt rules (f a) cursor b rest) : ReadsAt rules (p >>= f) cursor b rest := by
  obtain ⟨next, ran, left⟩ := second
  refine ⟨next, ?_, left⟩
  change ((p rules).run cursor).bind (fun pair => (f pair.1 rules).run pair.2) = _
  rw [first cursor same]
  exact ran

theorem readsAt_else {cursor : Cursor} {seen : Parser Bool} {yes no : Parser β}
    (absent : Looks rules seen text false) (same : cursor.rest = text) (one : ReadsAt rules no cursor b rest) :
    ReadsAt rules (do if ← seen then yes else no) cursor b rest := by
  refine readsAt_look absent same ?_
  rw [if_neg Bool.false_ne_true]
  exact one

theorem reads_bind (first : Reads rules p text a middle) (second : Reads rules (f a) middle b rest) :
    Reads rules (p >>= f) text b rest :=
  fun cursor same => readsAt_bind (first cursor same) fun between left _ => second between left

theorem reads_then {seen : Parser Bool} {yes no : Parser β} (there : Reads rules seen text true middle)
    (one : Reads rules yes middle b rest) :
    Reads rules (do if ← seen then yes else no) text b rest := by
  refine reads_bind there ?_
  rw [if_pos rfl]
  exact one

theorem reads_else {seen : Parser Bool} {yes no : Parser β} (absent : Looks rules seen text false)
    (one : Reads rules no text b rest) :
    Reads rules (do if ← seen then yes else no) text b rest := by
  refine reads_bind absent.reads ?_
  rw [if_neg Bool.false_ne_true]
  exact one

theorem reads_map {g : α → β} (one : Reads rules p text a rest) : Reads rules (g <$> p) text (g a) rest := by
  rw [map_eq_pure_bind]
  exact reads_bind one reads_pure

theorem fails_first (first : Fails rules p text) : Fails rules (p >>= f) text := by
  intro cursor same
  change ((p rules).run cursor).bind (fun pair => (f pair.1 rules).run pair.2) = none
  rw [first cursor same]
  rfl

theorem fails_second (first : Reads rules p text a middle) (second : Fails rules (f a) middle) :
    Fails rules (p >>= f) text := by
  intro cursor same
  obtain ⟨between, ran, left, -⟩ := first cursor same
  change ((p rules).run cursor).bind (fun pair => (f pair.1 rules).run pair.2) = none
  rw [ran]
  exact second between left

theorem reads_orElse_left (left : Reads rules p text a rest) : Reads rules (p <|> q) text a rest := by
  intro cursor same
  obtain ⟨next, ran, left⟩ := left cursor same
  refine ⟨next, ?_, left⟩
  change ((p rules).run cursor <|> (q rules).run cursor) = _
  rw [ran]
  rfl

theorem reads_orElse_right (left : Fails rules p text) (right : Reads rules q text a rest) :
    Reads rules (p <|> q) text a rest := by
  intro cursor same
  obtain ⟨next, ran, left'⟩ := right cursor same
  refine ⟨next, ?_, left'⟩
  change ((p rules).run cursor <|> (q rules).run cursor) = _
  rw [left cursor same]
  exact ran

theorem looks_ensure {condition : Bool} (holds : condition = true) : Looks rules (ensure condition) text () := by
  rw [holds]
  exact looks_pure

theorem fails_ensure {condition : Bool} (notHolds : condition = false) : Fails rules (ensure condition) text := by
  rw [notHolds]
  exact fun _ _ => rfl

theorem looks_wouldRead_false (fails : Fails rules p text) : Looks rules (wouldRead p) text false := by
  intro cursor same
  change some (((p rules).run cursor).isSome, cursor) = _
  rw [fails cursor same]
  rfl

/-- A parser may look at the cursor that it starts from. -/
theorem readsAt_here {cursor : Cursor} {g : Cursor → Parser β} (one : ReadsAt rules (g cursor) cursor b rest) :
    ReadsAt rules (here >>= g) cursor b rest := one

theorem fails_here {g : Cursor → Parser β}
    (each : ∀ cursor : Cursor, cursor.rest = text → (g cursor rules).run cursor = none) :
    Fails rules (here >>= g) text := each

/-! ## Tokens -/

variable {token gap : List Char} {mark name : String}

theorem reads_take (blank : Cursor.IsGap gap) (begins : Cursor.BeginsToken rest) :
    Reads rules (take token.length) (token ++ (gap ++ rest)) () rest :=
  fun cursor same => ⟨cursor.afterToken token.length, rfl, Cursor.rest_afterToken same blank begins,
    cursor.extent_afterToken _⟩

theorem reads_lexeme {length? : List Char → Option Nat}
    (cut : length? (token ++ (gap ++ rest)) = some token.length) (blank : Cursor.IsGap gap)
    (begins : Cursor.BeginsToken rest) :
    Reads rules (lexeme length?) (token ++ (gap ++ rest)) (String.ofList token) rest := by
  refine fun cursor same => readsAt_here ?_
  rw [same, cut]
  dsimp only
  rw [List.take_left]
  refine reads_bind (reads_take blank begins) ?_ cursor same
  exact reads_pure

theorem fails_lexeme {length? : List Char → Option Nat} (uncut : length? text = none) :
    Fails rules (lexeme length?) text := by
  refine fails_here fun cursor same => ?_
  rw [same, uncut]
  rfl

theorem looks_sees : Looks rules (sees mark) text (Text.after? mark.toList text).isSome := by
  rintro cursor rfl
  rfl

theorem looks_sees_true : Looks rules (sees mark) (mark.toList ++ rest) true := by
  have sees := @looks_sees rules (mark.toList ++ rest) mark
  rwa [Text.after?_eq_some_iff.mpr rfl] at sees

theorem looks_sees_head {c : Char} (first : text.head? = some c) (single : mark.toList = [c]) :
    Looks rules (sees mark) text true := by
  obtain ⟨rest, rfl⟩ := List.head?_eq_some_iff.mp first
  have seen := @looks_sees_true rules rest mark
  rwa [single] at seen

/-- A text that begins with another character does not begin with a mark. -/
theorem looks_sees_false {c : Char} (begins : mark.toList.head? = some c) (differs : text.head? ≠ some c) :
    Looks rules (sees mark) text false := by
  obtain ⟨more, shape⟩ := List.head?_eq_some_iff.mp begins
  have notThere : Text.after? mark.toList text = none := by
    rw [Option.eq_none_iff_forall_not_mem]
    intro rest there
    rw [Option.mem_def, Text.after?_eq_some_iff, shape] at there
    exact differs (by rw [there]; rfl)
  have sees := @looks_sees rules text mark
  rwa [notThere] at sees

/-- A word does not begin with a mark. -/
theorem looks_sees_word {word : List Char} {c : Char} (bare : IsBareWord word) (begins : mark.toList.head? = some c)
    (noPart : Lexeme.isWordPart c = false) : Looks rules (sees mark) (word ++ rest) false :=
  looks_sees_false begins (bare.head?_append_ne noPart)

theorem reads_symbol (blank : Cursor.IsGap gap) (begins : Cursor.BeginsToken rest) :
    Reads rules (symbol mark) (mark.toList ++ (gap ++ rest)) () rest :=
  reads_bind looks_sees_true.reads
    (reads_bind (looks_ensure rfl).reads (String.length_toList ▸ reads_take blank begins))

theorem reads_symbol?_true (blank : Cursor.IsGap gap) (begins : Cursor.BeginsToken rest) :
    Reads rules (symbol? mark) (mark.toList ++ (gap ++ rest)) true rest :=
  reads_then looks_sees_true.reads (reads_bind (String.length_toList ▸ reads_take blank begins) reads_pure)

theorem looks_symbol?_false {c : Char} (begins : mark.toList.head? = some c) (differs : text.head? ≠ some c) :
    Looks rules (symbol? mark) text false := looks_else (looks_sees_false begins differs) looks_pure

/-! ## Words -/

theorem reads_word (bare : IsBareWord name.toList) (ends : EndsWord (gap ++ rest)) (blank : Cursor.IsGap gap)
    (begins : Cursor.BeginsToken rest) : Reads rules word (name.toList ++ (gap ++ rest)) name rest := by
  have read := @reads_lexeme rules rest name.toList gap _ (Lexeme.word?_append bare ends) blank begins
  rwa [String.ofList_toList] at read

theorem looks_peekWord (bare : IsBareWord name.toList) (ends : EndsWord rest) :
    Looks rules peekWord (name.toList ++ rest) (some name) := by
  intro cursor same
  change some ((Lexeme.word? cursor.rest).map fun length => String.ofList (cursor.rest.take length), cursor) = _
  rw [same, Lexeme.word?_append bare ends, Option.map_some, List.take_left, String.ofList_toList]

theorem looks_peekWord_none (ends : EndsWord text) : Looks rules peekWord text none := by
  intro cursor same
  change some ((Lexeme.word? cursor.rest).map fun length => String.ofList (cursor.rest.take length), cursor) = _
  rw [same, Lexeme.word?_of_endsWord ends, Option.map_none]

theorem looks_seesWord_true (bare : IsBareWord name.toList) (ends : EndsWord rest) :
    Looks rules (seesWord name) (name.toList ++ rest) true := by
  refine looks_bind (looks_peekWord bare ends) ?_
  rw [beq_self_eq_true]
  exact looks_pure

theorem looks_seesWord_false (ends : EndsWord text) : Looks rules (seesWord name) text false :=
  looks_bind (looks_peekWord_none ends) looks_pure

theorem reads_keyword (bare : IsBareWord name.toList) (ends : EndsWord (gap ++ rest))
    (blank : Cursor.IsGap gap) (begins : Cursor.BeginsToken rest) :
    Reads rules (keyword name) (name.toList ++ (gap ++ rest)) () rest :=
  reads_bind (looks_seesWord_true bare ends).reads
    (reads_bind (looks_ensure rfl).reads (String.length_toList ▸ reads_take blank begins))

theorem reads_keyword?_true (bare : IsBareWord name.toList) (ends : EndsWord (gap ++ rest))
    (blank : Cursor.IsGap gap) (begins : Cursor.BeginsToken rest) :
    Reads rules (keyword? name) (name.toList ++ (gap ++ rest)) true rest :=
  reads_then (looks_seesWord_true bare ends).reads
    (reads_bind (String.length_toList ▸ reads_take blank begins) reads_pure)

theorem looks_keyword?_false (ends : EndsWord text) : Looks rules (keyword? name) text false :=
  looks_else (looks_seesWord_false ends) looks_pure

/-! ## Ends of texts -/

/-- A string of characters that stand for themselves is taken with its marks. -/
theorem reads_quotedString {body : List Char} (quote : QuoteMark) (plain : Script.Plain quote.char body) :
    Reads rules quotedString (quote.char :: (body ++ [quote.char]))
      (String.ofList (quote.char :: (body ++ [quote.char]))) [] := by
  have read := @reads_lexeme rules [] _ [] _ (Lexeme.string?_append quote plain) Cursor.isGap_nil nofun
  rwa [List.append_nil, List.append_nil] at read

theorem reads_semicolon_nil {expression : Bool} : Reads rules (semicolon expression) [] () [] := by
  refine reads_else (looks_symbol?_false rfl nofun) fun cursor same => readsAt_here ?_
  have ends : cursor.endsStatement expression = true := by
    unfold Cursor.endsStatement
    rw [same]
    split <;> rfl
  exact readsAt_look (looks_ensure ends) same ⟨cursor.endStatement, rfl, same, rfl⟩

end Sequences

/-! ## Lists -/

section Lists

variable {α : Type} {rules : Rules} {atEnd : Parser Bool} {p : Parser α}

/-- The items of a list, each of which takes something, up to where the end of the list is in sight. -/
inductive ReadsItems (rules : Rules) (atEnd : Parser Bool) (p : Parser α) :
    List Char → List α → List Char → Prop where
  | finished {text : List Char} (inSight : Looks rules atEnd text true) : ReadsItems rules atEnd p text [] text
  | item {text middle rest : List Char} {value : α} {values : List α} (notInSight : Looks rules atEnd text false)
      (one : Reads rules p text value middle) (shorter : middle.length < text.length)
      (others : ReadsItems rules atEnd p middle values rest) :
      ReadsItems rules atEnd p text (value :: values) rest

variable {text rest : List Char} {values : List α}

theorem ReadsItems.length_le (items : ReadsItems rules atEnd p text values rest) : values.length ≤ text.length := by
  induction items with
  | finished inSight => exact Nat.zero_le _
  | item notInSight one shorter others inductionHypothesis =>
      rw [List.length_cons]
      omega

/-- One item of a list, and the others. -/
theorem readsAt_item {cursor : Cursor} {middle : List Char} {value : α} {fuel : Nat}
    (notInSight : Looks rules atEnd text false) (same : cursor.rest = text)
    (one : ReadsAt rules p cursor value middle) (shorter : middle.length < text.length)
    (others : Reads rules (manyUntilFuel atEnd p fuel) middle values rest) :
    ReadsAt rules (manyUntilFuel atEnd p (fuel + 1)) cursor (value :: values) rest := by
  refine readsAt_else notInSight same (readsAt_here (readsAt_bind one fun between left extent => ?_))
  have moved : (between.index != cursor.index) = true := by
    rw [Cursor.extent, Cursor.extent, left, same] at extent
    rw [bne_iff_ne]
    omega
  refine readsAt_here (reads_bind (looks_ensure moved).reads ?_ between left)
  refine reads_bind others ?_
  exact reads_pure

theorem reads_manyUntilFuel (items : ReadsItems rules atEnd p text values rest) {fuel : Nat}
    (enough : values.length < fuel) : Reads rules (manyUntilFuel atEnd p fuel) text values rest := by
  induction items generalizing fuel with
  | finished inSight =>
      obtain ⟨fuel, rfl⟩ : ∃ more, fuel = more + 1 := ⟨fuel - 1, by omega⟩
      exact reads_bind inSight.reads reads_pure
  | item notInSight one shorter others inductionHypothesis =>
      rw [List.length_cons] at enough
      obtain ⟨fuel, rfl⟩ : ∃ more, fuel = more + 1 := ⟨fuel - 1, by omega⟩
      exact fun cursor same =>
        readsAt_item notInSight same (one cursor same) shorter (inductionHypothesis (by omega))

theorem reads_manyUntil (items : ReadsItems rules atEnd p text values rest) :
    Reads rules (manyUntil atEnd p) text values rest := by
  refine fun cursor same => readsAt_here ?_
  have enough := items.length_le
  rw [same]
  exact reads_manyUntilFuel items (by omega) cursor same

end Lists

end Parser

end DeclaredOptions.Source
