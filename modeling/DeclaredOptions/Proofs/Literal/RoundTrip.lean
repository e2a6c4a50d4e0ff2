import DeclaredOptions.Literal.Reading
import DeclaredOptions.Proofs.Text.Cutting

/-!
Contract: reading a written literal back.

Owns:
- the escaped body of a text under either quote: where it closes, what it is with double quotes, and what it
  decodes to;
- the exact set of texts whose written form reads back;
- the return of every other literal from its own source text.

Does not own: the source texts that are no written form of a literal.
-/

set_option autoImplicit false

namespace DeclaredOptions.Literal

/-! ## Escaped bodies -/

/-- A character that survives in a written text: any but the controls, of which tab, line feed and carriage
return have escapes of their own. -/
def isCarried (c : Char) : Bool := 0x20 ≤ c.toNat || c == '\t' || c == '\n' || c == '\r'

def escaped (mark : Char) (value : List Char) : List Char := value.flatMap (escapeChar mark)

theorem escaped_cons (mark c : Char) (rest : List Char) :
    escaped mark (c :: rest) = escapeChar mark c ++ escaped mark rest := rfl

theorem escapeChar_cases (mark c : Char) :
    (c = '\\' ∧ escapeChar mark c = ['\\', '\\']) ∨
    (c = mark ∧ escapeChar mark c = ['\\', mark]) ∨
    (c = '\n' ∧ escapeChar mark c = ['\\', 'n']) ∨
    (c = '\r' ∧ escapeChar mark c = ['\\', 'r']) ∨
    (c = '\t' ∧ escapeChar mark c = ['\\', 't']) ∨
    (c ≠ '\\' ∧ c ≠ mark ∧ c ≠ '\n' ∧ c ≠ '\r' ∧ c ≠ '\t' ∧ escapeChar mark c = [c]) := by
  unfold escapeChar
  by_cases isBackslash : c = '\\'
  · exact .inl ⟨isBackslash, by simp [isBackslash]⟩
  by_cases isMark : c = mark
  · exact .inr (.inl ⟨isMark, by simp [isMark]⟩)
  by_cases isFeed : c = '\n'
  · exact .inr (.inr (.inl ⟨isFeed, by simp_all⟩))
  by_cases isReturn : c = '\r'
  · exact .inr (.inr (.inr (.inl ⟨isReturn, by simp_all⟩)))
  by_cases isTab : c = '\t'
  · exact .inr (.inr (.inr (.inr (.inl ⟨isTab, by simp_all⟩))))
  · exact .inr (.inr (.inr (.inr (.inr ⟨isBackslash, isMark, isFeed, isReturn, isTab, by simp_all⟩))))

theorem quotedBody?_escape_pair (mark c : Char) (rest : List Char) (notFeed : c ≠ '\n') :
    quotedBody? mark ('\\' :: c :: rest) = (quotedBody? mark rest).map ('\\' :: c :: ·) := by
  simp [quotedBody?, notFeed]

theorem quotedBody?_plain {mark c : Char} (rest : List Char) (notMark : c ≠ mark)
    (notBackslash : c ≠ '\\') (notFeed : c ≠ '\n') :
    quotedBody? mark (c :: rest) = (quotedBody? mark rest).map (c :: ·) := by
  cases rest with
  | nil => simp [quotedBody?, notMark, notBackslash, notFeed]
  | cons next more => simp [quotedBody?, notMark, notBackslash, notFeed]

/-- An escaped text closes at the mark behind it, and nowhere before. -/
theorem quotedBody?_escaped {mark : Char} (markNotFeed : mark ≠ '\n')
    (markNotBackslash : mark ≠ '\\') (value : List Char) :
    quotedBody? mark (escaped mark value ++ [mark]) = some (escaped mark value) := by
  induction value with
  | nil => simp [escaped, quotedBody?]
  | cons c rest inductionHypothesis =>
      rw [escaped_cons]
      rcases escapeChar_cases mark c with
        ⟨-, shape⟩ | ⟨-, shape⟩ | ⟨-, shape⟩ | ⟨-, shape⟩ | ⟨-, shape⟩ |
          ⟨notBackslash, notMark, notFeed, -, -, shape⟩ <;>
        rw [shape]
      · simp [quotedBody?_escape_pair, inductionHypothesis]
      · simp [quotedBody?_escape_pair, inductionHypothesis, markNotFeed]
      · simp [quotedBody?_escape_pair, inductionHypothesis]
      · simp [quotedBody?_escape_pair, inductionHypothesis]
      · simp [quotedBody?_escape_pair, inductionHypothesis]
      · simp [quotedBody?_plain, notMark, notBackslash, notFeed, inductionHypothesis]

/-- A text escaped for single quotes and then quoted doubly is the text escaped for double quotes. -/
theorem requote_escaped (value : List Char) :
    Escape.requote (escaped '\'' value) = escaped '"' value := by
  induction value with
  | nil => rfl
  | cons c rest inductionHypothesis =>
      rw [escaped_cons, escaped_cons]
      by_cases isDouble : c = '"'
      · subst isDouble
        simp [escapeChar, Escape.requote, inductionHypothesis]
      rcases escapeChar_cases '\'' c with
        ⟨isBackslash, shape⟩ | ⟨isMark, shape⟩ | ⟨isFeed, shape⟩ | ⟨isReturn, shape⟩ |
          ⟨isTab, shape⟩ | ⟨notBackslash, notMark, notFeed, notReturn, notTab, shape⟩
      · subst isBackslash
        simp [escapeChar, Escape.requote, inductionHypothesis]
      · subst isMark
        simp [escapeChar, Escape.requote, inductionHypothesis]
      · subst isFeed
        simp [escapeChar, Escape.requote, inductionHypothesis]
      · subst isReturn
        simp [escapeChar, Escape.requote, inductionHypothesis]
      · subst isTab
        simp [escapeChar, Escape.requote, inductionHypothesis]
      · simp [escapeChar, Escape.requote, inductionHypothesis, isDouble, notBackslash, notMark,
          notFeed, notReturn, notTab]

theorem decode_letter {c d : Char} (rest : List Char)
    (letter : Escape.letter? c = some d) :
    Escape.decode ('\\' :: c :: rest) = (d :: ·) <$> Escape.decode rest := by
  have notUnit : c ≠ 'u' := by
    intro equal
    subst equal
    simp [Escape.letter?] at letter
  rw [Escape.decode.eq_def]
  split
  case h_7 first more noPair noEnd shape =>
      injection shape with firstShape moreShape
      exact absurd moreShape.symm (noPair _ _ firstShape.symm)
  all_goals simp_all

theorem decode_plain {c : Char} (rest : List Char) (notBackslash : c ≠ '\\') :
    Escape.decode (c :: rest) =
      if c.toNat < 0x20 then .error .rawControl else (c :: ·) <$> Escape.decode rest := by
  rw [Escape.decode.eq_def]
  split <;> simp_all

private theorem map_decoded (c : Char) (rest : List Char) :
    (c :: ·) <$> (if rest.all isCarried then Except.ok rest else .error Escape.Fault.rawControl) =
      if rest.all isCarried then .ok (c :: rest) else .error .rawControl := by
  split <;> rfl

/-- A text escaped for double quotes decodes to itself, unless a raw control is left in it. -/
theorem decode_escaped (value : List Char) :
    Escape.decode (escaped '"' value) =
      if value.all isCarried then .ok value else .error .rawControl := by
  induction value with
  | nil => rfl
  | cons c rest inductionHypothesis =>
      rw [escaped_cons, List.all_cons]
      rcases escapeChar_cases '"' c with
        ⟨rfl, shape⟩ | ⟨rfl, shape⟩ | ⟨rfl, shape⟩ | ⟨rfl, shape⟩ | ⟨rfl, shape⟩ |
          ⟨notBackslash, -, notFeed, notReturn, notTab, shape⟩
      case inr.inr.inr.inr.inr =>
          rw [shape, List.singleton_append, decode_plain _ notBackslash, inductionHypothesis,
            map_decoded]
          by_cases control : c.toNat < 0x20
          · have refused : isCarried c = false := by
              simp [isCarried, notFeed, notReturn, notTab, control]
            simp [control, refused]
          · have carried : isCarried c = true := by simp [isCarried, Nat.le_of_not_lt control]
            simp [control, carried]
      all_goals
        rw [shape, List.cons_append, List.singleton_append, decode_letter _ rfl,
          inductionHypothesis, map_decoded]
        rfl

/-! ## Texts -/

/-- The refusal of a text with a raw control in it. -/
def rawControlRefusal (value : List Char) (tag : Option String) : TagRefusal :=
  ⟨String.ofList ('"' :: escaped '"' value ++ ['"']),
    "invalid string escape (" ++ Escape.Fault.rawControl.message ++ ")", tag⟩

private theorem quotedForm?_quote (mark : QuoteMark) (value : List Char) :
    quotedForm? (quote mark.char value) = some (escaped '"' value) := by
  cases mark with
  | single =>
      change (quotedBody? '\'' (escaped '\'' value ++ ['\''])).map Escape.requote = _
      rw [quotedBody?_escaped (by decide) (by decide), Option.map_some, requote_escaped]
  | double => exact quotedBody?_escaped (by decide) (by decide) value

private theorem trim_quote (mark : QuoteMark) (value : List Char) :
    Text.trim (quote mark.char value) = quote mark.char value :=
  Text.trim_of_hasBareEnds (Text.hasBareEnds_between _ (by cases mark <;> decide))

/-- A written text reads back under either quote, unless it holds a raw control. -/
theorem parse_quoted (value : String) (mark : QuoteMark) (tag : Option String) :
    parse (some ((Literal.text value).toSource mark)) tag =
      if value.toList.all isCarried then .ok (.text value)
      else .error (rawControlRefusal value.toList tag) := by
  have source : ((Literal.text value).toSource mark).toList = quote mark.char value.toList := by
    simp [toSource]
  unfold parse
  simp only [Option.getD_some, source, trim_quote, quotedForm?_quote]
  rw [if_neg (by simp [quote]), ofQuotedBody, decode_escaped]
  by_cases carried : value.toList.all isCarried
  · simp [carried]
  · simp [carried, rawControlRefusal]

/-! ## Other literals -/

/-- Reading depends only on the text without the blanks at its ends. -/
theorem parse_trimmed {text tag : Option String} {literal : Literal}
    (read : parse text tag = .ok literal) (notText : ∀ value, literal ≠ .text value)
    (tag' : Option String) :
    parse (some (Text.trimmed (text.getD ""))) tag' = .ok literal := by
  unfold parse at read ⊢
  simp only [Option.getD_some, Text.trimmed, String.toList_ofList, Text.trim_trim] at read ⊢
  split at read
  · contradiction
  · rename_i notEmpty
    rw [if_neg notEmpty]
    cases form : quotedForm? (Text.trim (text.getD "").toList) with
    | some body =>
        simp only [form, ofQuotedBody] at read
        split at read
        · exact absurd (Except.ok.inj read).symm (notText _)
        · contradiction
    | none =>
        simp only [form] at read ⊢
        split at read
        · rename_i numeral
          rw [if_pos numeral]
          exact read
        · rename_i noNumeral
          rw [if_neg noNumeral]
          split at read
          · exact read
          · contradiction

private theorem toSource_ofPath (mark : QuoteMark) (parts : List String) :
    (ofPath parts).toSource mark = Text.joined "." parts := by
  unfold ofPath
  split <;> rfl

/-- The source text of a numeral, a truth value or a path is the text it was read from, without the
blanks at its ends. -/
theorem toSource_of_parse {text tag : Option String} {literal : Literal}
    (read : parse text tag = .ok literal) (notText : ∀ value, literal ≠ .text value)
    (mark : QuoteMark) : literal.toSource mark = Text.trimmed (text.getD "") := by
  unfold parse at read
  simp only at read
  split at read
  · contradiction
  · split at read
    · unfold ofQuotedBody at read
      split at read
      · exact absurd (Except.ok.inj read).symm (notText _)
      · contradiction
    · split at read
      · rw [← Except.ok.inj read]
        rfl
      · split at read
        · rename_i parts path
          rw [← Except.ok.inj read, toSource_ofPath]
          unfold pathParts? at path
          simp only [Option.ite_none_right_eq_some, Option.some.injEq] at path
          rw [← path.2]
          exact Text.joined_cut '.' _
        · contradiction

/-! ## The round trip -/

/-- Reading undoes writing. A text comes back under either quote exactly if no raw control is left in it,
and is refused otherwise; every other literal that reading gives comes back always. -/
theorem parse_toSource :
    (∀ (value : String) (mark : QuoteMark) (tag : Option String),
      parse (some ((Literal.text value).toSource mark)) tag =
        if value.toList.all isCarried then .ok (.text value)
        else .error (rawControlRefusal value.toList tag)) ∧
    ∀ (text tag : Option String) (literal : Literal), parse text tag = .ok literal →
      (∀ value, literal ≠ .text value) →
        ∀ (mark : QuoteMark) (tag' : Option String),
          parse (some (literal.toSource mark)) tag' = .ok literal := by
  refine ⟨parse_quoted, fun text tag literal read notText mark tag' => ?_⟩
  rw [toSource_of_parse read notText mark]
  exact parse_trimmed read notText tag'

/-- The round trip of a hexadecimal numeral with a sign and blanks around it. -/
theorem parse_toSource_hexadecimal :
    parse (some " -0x1F\t") none = .ok (.number "-0x1F") ∧
      parse (some ((Literal.number "-0x1F").toSource .double)) none = .ok (.number "-0x1F") := by
  have read : parse (some " -0x1F\t") none = .ok (.number "-0x1F") := by decide +kernel
  exact ⟨read, parse_toSource.2 (some " -0x1F\t") none (.number "-0x1F") read
    (fun _ equal => Literal.noConfusion equal) .double none⟩

end DeclaredOptions.Literal
