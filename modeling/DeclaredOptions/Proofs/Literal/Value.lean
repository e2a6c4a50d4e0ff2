import DeclaredOptions.Proofs.Literal.Grammar
import DeclaredOptions.Proofs.Literal.Misquoted

/-!
Contract: the two readers of literals, for fragments of every form and for values alone.

Owns:
- the values that fragments write, which are the literals of two of the four forms;
- reading a value, by what the fragment is: a value, a body that breaks off, or anything else;
- the agreement of the two readers on every text.

Does not own: which literals are expected where.

## Refusals

Reading a value refuses no fragment for its form: what is no value is no mistake. Only a body that breaks off is one, and
both readers refuse it alike, each under the tag that it was given.
-/

set_option autoImplicit false

namespace DeclaredOptions.Literal

/-- The value that a fragment writes: the text that it quotes, or itself as a numeral. -/
inductive Writes (fragment : List Char) : Literal → Prop where
  | text {value : List Char} (quoted : Quotes fragment value) :
      Writes fragment (.text (String.ofList value))
  | number (spelled : Numeral.Spelled fragment) :
      Writes fragment (.number (String.ofList fragment))

variable {fragment doubled : List Char} {text : String} {tag : Option String} {literal : Literal}
  {refusal : TagRefusal}

theorem Writes.form (writes : Writes fragment literal) :
    InQuotes fragment ∨ Numeral.Spelled fragment := by
  cases writes with
  | text quoted =>
      obtain ⟨doubled, cut, -⟩ := quotes_iff.mp quoted
      exact .inl (inQuotes_iff.mpr (by rw [cut]; rfl))
  | number spelled => exact .inr spelled

/-- Values are the literals that are texts or numbers. -/
theorem writes_iff_reads :
    Writes fragment literal ↔
      Reads fragment literal ∧ ((∃ value, literal = .text value) ∨ ∃ source, literal = .number source) := by
  constructor
  · intro writes
    cases writes with
    | text quoted => exact ⟨.text quoted, .inl ⟨_, rfl⟩⟩
    | number spelled => exact ⟨.number spelled, .inr ⟨_, rfl⟩⟩
  · rintro ⟨reads, isValue⟩
    cases reads with
    | text quoted => exact .text quoted
    | number spelled => exact .number spelled
    | truth => simp at isValue
    | path => simp at isValue

/-! ## Quoted fragments -/

/-- The refusal of a body names the fault for which it does not decode. -/
theorem ofQuotedBody_eq_error_iff :
    ofQuotedBody doubled tag = .error refusal ↔ ∃ fault, Escape.decode doubled = .error fault ∧
      refusal = ⟨String.ofList ('"' :: doubled ++ ['"']),
        "invalid string escape (" ++ fault.message ++ ")", tag⟩ := by
  unfold ofQuotedBody
  cases Escape.decode doubled with
  | ok value => simp
  | error fault => simp [eq_comm]

theorem parse_of_cut (cut : quotedForm? (Text.trim text.toList) = some doubled) (tag : Option String) :
    parse (some text) tag = ofQuotedBody doubled tag := by
  have nonempty : Text.trim text.toList ≠ [] := by
    intro blank
    rw [blank] at cut
    contradiction
  simp [parse, cut, nonempty]

theorem parseValue_of_cut (cut : quotedForm? (Text.trim text.toList) = some doubled) :
    parseValue text = some <$> ofQuotedBody doubled none := by
  rw [parseValue, cut]

/-! ## Reading a value -/

/-- Reading a value gives the one that the fragment writes. -/
theorem parseValue_eq_some_iff :
    parseValue text = .ok (some literal) ↔ Writes (Text.trim text.toList) literal := by
  constructor
  · intro read
    cases cut : quotedForm? (Text.trim text.toList) with
    | some doubled =>
        rw [parseValue_of_cut cut, ofQuotedBody] at read
        cases decoded : Escape.decode doubled with
        | ok value =>
            rw [decoded] at read
            cases read
            exact .text (quotes_iff.mpr ⟨doubled, cut, decoded⟩)
        | error fault =>
            rw [decoded] at read
            contradiction
    | none =>
        rw [parseValue, cut] at read
        dsimp only at read
        split at read
        · rename_i isNumeral
          cases read
          exact .number (Numeral.isNumeral_iff.mp isNumeral)
        · cases read
  · intro writes
    generalize isFragment : Text.trim text.toList = fragment at writes
    cases writes with
    | text quoted =>
        obtain ⟨doubled, cut, decoded⟩ := quotes_iff.mp quoted
        rw [← isFragment] at cut
        rw [parseValue_of_cut cut, ofQuotedBody, decoded]
        rfl
    | number spelled =>
        simp [parseValue, isFragment, quotedForm?_of_spelled spelled, Numeral.isNumeral_iff.mpr spelled]

/-- What is neither in quotation marks nor a numeral is no value, and is not refused. -/
theorem parseValue_of_other (unquoted : ¬InQuotes (Text.trim text.toList))
    (unspelled : ¬Numeral.Spelled (Text.trim text.toList)) : parseValue text = .ok none := by
  rw [inQuotes_iff, Option.not_isSome_iff_eq_none] at unquoted
  rw [← Numeral.isNumeral_iff, Bool.not_eq_true] at unspelled
  simp [parseValue, unquoted, unspelled]

/-- A value is refused as its quoted body is. -/
theorem parseValue_eq_error_iff :
    parseValue text = .error refusal ↔ ∃ doubled, quotedForm? (Text.trim text.toList) = some doubled ∧
      ofQuotedBody doubled none = .error refusal := by
  constructor
  · intro refused
    cases cut : quotedForm? (Text.trim text.toList) with
    | some doubled =>
        refine ⟨doubled, rfl, ?_⟩
        rw [parseValue_of_cut cut] at refused
        cases read : ofQuotedBody doubled none with
        | ok literal =>
            rw [read] at refused
            contradiction
        | error own =>
            rw [read] at refused
            cases refused
            rfl
    | none =>
        rw [parseValue, cut] at refused
        dsimp only at refused
        split at refused <;> contradiction
  · rintro ⟨doubled, cut, refused⟩
    rw [parseValue_of_cut cut, refused]
    rfl

/-- A value is refused exactly if its body breaks off. -/
theorem parseValue_refused_iff_misquotes :
    (∃ refusal, parseValue text = .error refusal) ↔ ∃ fault, Misquotes (Text.trim text.toList) fault := by
  simp only [parseValue_eq_error_iff, ofQuotedBody_eq_error_iff, misquotes_iff]
  constructor
  · rintro ⟨_, doubled, cut, fault, undecoded, -⟩
    exact ⟨fault, doubled, cut, undecoded⟩
  · rintro ⟨fault, doubled, cut, undecoded⟩
    exact ⟨_, doubled, cut, fault, undecoded, rfl⟩

/-- A value is refused exactly if its fragment is in quotation marks and quotes nothing. -/
theorem parseValue_refused_iff :
    (∃ refusal, parseValue text = .error refusal) ↔
      InQuotes (Text.trim text.toList) ∧ ¬∃ value, Quotes (Text.trim text.toList) value := by
  rw [parseValue_refused_iff_misquotes, exists_misquotes_iff]

/-- There is no value exactly where the fragment has another form than quotation marks and numerals. -/
theorem parseValue_eq_none_iff_form :
    parseValue text = .ok none ↔
      ¬InQuotes (Text.trim text.toList) ∧ ¬Numeral.Spelled (Text.trim text.toList) := by
  constructor
  · intro read
    constructor
    · intro quoted
      by_cases decodes : ∃ value, Quotes (Text.trim text.toList) value
      · obtain ⟨value, isText⟩ := decodes
        cases read.symm.trans (parseValue_eq_some_iff.mpr (.text isText))
      · obtain ⟨refusal, refused⟩ := parseValue_refused_iff.mpr ⟨quoted, decodes⟩
        cases read.symm.trans refused
    · intro spelled
      cases read.symm.trans (parseValue_eq_some_iff.mpr (.number spelled))
  · rintro ⟨unquoted, unspelled⟩
    exact parseValue_of_other unquoted unspelled

/-! ## Agreement -/

/-- Where a value is refused, so is the literal, under its own tag. -/
theorem parse_of_parseValue_refused (refused : parseValue text = .error refusal) (tag : Option String) :
    parse (some text) tag = .error { refusal with tag := tag } := by
  obtain ⟨doubled, cut, refusedBody⟩ := parseValue_eq_error_iff.mp refused
  obtain ⟨fault, undecoded, rfl⟩ := ofQuotedBody_eq_error_iff.mp refusedBody
  rw [parse_of_cut cut]
  exact ofQuotedBody_eq_error_iff.mpr ⟨fault, undecoded, rfl⟩

/-- The refusal of a value names the fault that its body breaks off with. -/
theorem exists_misquotes_of_refused (refused : parseValue text = .error refusal) :
    ∃ fault, Misquotes (Text.trim text.toList) fault ∧
      refusal.reason = "invalid string escape (" ++ fault.message ++ ")" := by
  obtain ⟨doubled, cut, refusedBody⟩ := parseValue_eq_error_iff.mp refused
  obtain ⟨fault, undecoded, rfl⟩ := ofQuotedBody_eq_error_iff.mp refusedBody
  exact ⟨fault, misquotes_of_decode cut undecoded, rfl⟩

theorem parseValue_eq_some_iff_parse (text : String) (tag : Option String) (literal : Literal) :
    parseValue text = .ok (some literal) ↔ parse (some text) tag = .ok literal ∧
      ((∃ value, literal = .text value) ∨ ∃ source, literal = .number source) := by
  rw [parseValue_eq_some_iff, writes_iff_reads, parse_eq_ok_iff]
  rfl

/-- There is no value where the literal is a truth value or a path, or is refused for another reason than its body. -/
theorem parseValue_eq_none_iff (text : String) (tag : Option String) :
    parseValue text = .ok none ↔
      (∃ literal, parse (some text) tag = .ok literal ∧
        ((∃ value, literal = .truth value) ∨ ∃ parts, literal = .path parts)) ∨
      (∃ refusal, parse (some text) tag = .error refusal) ∧
        ∀ fault, ¬Misquotes (Text.trim text.toList) fault := by
  rw [← not_exists, ← parseValue_refused_iff_misquotes]
  cases read : parseValue text with
  | error refusal => simp [parse_of_parseValue_refused read tag]
  | ok found =>
      cases found with
      | some literal =>
          obtain ⟨parsed, isValue⟩ := (parseValue_eq_some_iff_parse text tag literal).mp read
          rw [parsed]
          rcases isValue with ⟨value, rfl⟩ | ⟨source, rfl⟩ <;> simp
      | none =>
          cases parsed : parse (some text) tag with
          | error refusal => simp
          | ok literal =>
              have noValue : ¬((∃ value, literal = .text value) ∨ ∃ source, literal = .number source) := by
                intro isValue
                have isRead := (parseValue_eq_some_iff_parse text tag literal).mpr ⟨parsed, isValue⟩
                rw [read] at isRead
                cases isRead
              cases literal with
              | text value => exact absurd (.inl ⟨value, rfl⟩) noValue
              | number source => exact absurd (.inr ⟨source, rfl⟩) noValue
              | truth value => simp
              | path parts => simp

/-- The two readers agree on every text. A value is read exactly if the literal is that text or that number. It is
refused exactly if the fragment is in quotation marks and its body breaks off, for that fault, and then the literal is
refused alike. In all other cases there is no value: the literal is a truth value or a path, or it is refused for another
reason. -/
theorem parseValue_agrees (text : String) (tag : Option String) :
    (∀ literal, parseValue text = .ok (some literal) ↔ parse (some text) tag = .ok literal ∧
      ((∃ value, literal = .text value) ∨ ∃ source, literal = .number source)) ∧
    ((∃ refusal, parseValue text = .error refusal) ↔
      ∃ fault, Misquotes (Text.trim text.toList) fault) ∧
    (∀ refusal, parseValue text = .error refusal →
      parse (some text) tag = .error { refusal with tag := tag } ∧
      ∃ fault, Misquotes (Text.trim text.toList) fault ∧
        refusal.reason = "invalid string escape (" ++ fault.message ++ ")") ∧
    (parseValue text = .ok none ↔
      (∃ literal, parse (some text) tag = .ok literal ∧
        ((∃ value, literal = .truth value) ∨ ∃ parts, literal = .path parts)) ∨
      (∃ refusal, parse (some text) tag = .error refusal) ∧
        ∀ fault, ¬Misquotes (Text.trim text.toList) fault) := by
  refine ⟨parseValue_eq_some_iff_parse text tag, parseValue_refused_iff_misquotes, ?_,
    parseValue_eq_none_iff text tag⟩
  intro refusal refused
  exact ⟨parse_of_parseValue_refused refused tag, exists_misquotes_of_refused refused⟩

end DeclaredOptions.Literal
