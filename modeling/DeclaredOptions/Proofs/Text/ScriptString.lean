import DeclaredOptions.Literal.Basic
import DeclaredOptions.Proofs.Text.Units

/-!
Contract: the string literals of the scripts that modules are, and the lines that hold one alone.

Owns:
- the escapes of a script, which are more than those of documentation;
- the units that the body of a string denotes, and the bodies that denote themselves;
- lines that end with their only string.

Does not own: which lines modules have.

## Why a body is compared with itself

Lines that are written without escapes put a value between marks as it is. Every escape takes more units than it
gives. A value with a backslash is therefore never what it denotes as a body, whichever escape the backslash
begins, and no escape needs to be looked at on its own.
-/

set_option autoImplicit false

namespace DeclaredOptions.Script

open Text (codeUnits units)

/-! ## Escapes -/

/-- The characters that end a line of a script. -/
def lineEnds : List Char := ['\n', '\r', '\u2028', '\u2029']

/-- The escapes of one letter with the units they give. -/
def letterEscapes : List (Char × Nat) :=
  [('\'', 0x27), ('"', 0x22), ('\\', 0x5c), ('b', 0x08), ('f', 0x0c), ('n', 0x0a), ('r', 0x0d),
    ('t', 0x09), ('v', 0x0b)]

/-- The number of hexadecimal digits. -/
def hexNumber? (digits : List Char) : Option Nat :=
  digits.foldlM (fun number digit => (Text.hexValue? digit).map (16 * number + ·)) 0

/-- A character that an escape may hold by itself, as no other escape begins with it. -/
def StandsBehindBackslash (c : Char) : Prop :=
  (∀ pair ∈ letterEscapes, c ≠ pair.1) ∧ c.isDigit = false ∧ c ≠ 'x' ∧ c ≠ 'u' ∧ c ∉ lineEnds

/-- What stands behind the backslash of an escape, and the units that the escape gives. A line end behind a
backslash continues the string and gives none. -/
inductive Escape : List Char → List Nat → Prop where
  | letter {c : Char} {unit : Nat} (known : (c, unit) ∈ letterEscapes) : Escape [c] [unit]
  | byte {a b : Char} {unit : Nat} (hex : hexNumber? [a, b] = some unit) :
      Escape ['x', a, b] [unit]
  | unit {a b c d : Char} {unit : Nat} (hex : hexNumber? [a, b, c, d] = some unit) :
      Escape ['u', a, b, c, d] [unit]
  | point {digits : List Char} {code : Nat} (nonempty : digits ≠ [])
      (hex : hexNumber? digits = some code) (bounded : code ≤ 0x10ffff) :
      Escape ('u' :: '\x7b' :: (digits ++ ['\x7d'])) (codeUnits code)
  | other {c : Char} (stands : StandsBehindBackslash c) : Escape [c] (codeUnits c.toNat)
  | lineEnd {c : Char} (ends : c ∈ lineEnds) : Escape [c] []
  | lineEndPair : Escape ['\r', '\n'] []

/-- A character that stands for itself between two marks. -/
def StandsFree (mark c : Char) : Prop := c ≠ mark ∧ c ≠ '\\' ∧ c ≠ '\n' ∧ c ≠ '\r'

instance (mark c : Char) : Decidable (StandsFree mark c) :=
  inferInstanceAs (Decidable (c ≠ mark ∧ c ≠ '\\' ∧ c ≠ '\n' ∧ c ≠ '\r'))

/-- The body of a string between two marks denotes units. A zero is an escape where no digit follows it. -/
inductive Denotes (mark : Char) : List Char → List Nat → Prop where
  | nil : Denotes mark [] []
  | free {c : Char} {rest : List Char} {more : List Nat} (free : StandsFree mark c)
      (others : Denotes mark rest more) : Denotes mark (c :: rest) (codeUnits c.toNat ++ more)
  | escape {text rest : List Char} {given more : List Nat} (escape : Escape text given)
      (others : Denotes mark rest more) : Denotes mark ('\\' :: (text ++ rest)) (given ++ more)
  | zero {rest : List Char} {more : List Nat} (noDigit : ∀ c ∈ rest.head?, c.isDigit = false)
      (others : Denotes mark rest more) : Denotes mark ('\\' :: '0' :: rest) (0 :: more)

/-- A text that stands for itself between two marks, character by character. -/
def Plain (mark : Char) (text : List Char) : Prop := ∀ c ∈ text, StandsFree mark c

instance (mark : Char) (text : List Char) : Decidable (Plain mark text) :=
  List.decidableBAll (StandsFree mark) text

theorem plain_append {mark : Char} {text rest : List Char} :
    Plain mark (text ++ rest) ↔ Plain mark text ∧ Plain mark rest :=
  List.forall_mem_append

/-! ## Bodies that denote themselves -/

theorem units_append (text rest : List Char) : units (text ++ rest) = units text ++ units rest :=
  List.flatMap_append

theorem length_le_length_units (text : List Char) : text.length ≤ (units text).length := by
  induction text with
  | nil => exact Nat.le_refl 0
  | cons c rest inductionHypothesis =>
      have one := Text.codeUnits_length_pos c.toNat
      rw [Text.units_cons, List.length_append, List.length_cons]
      omega

theorem Escape.length_le {text : List Char} {given : List Nat} (escape : Escape text given) :
    given.length ≤ (units text).length := by
  cases escape with
  | letter => exact length_le_length_units [_]
  | @byte a b =>
      have atLeast := length_le_length_units ['x', a, b]
      exact Nat.le_trans (by simp) atLeast
  | @unit a b c d =>
      have atLeast := length_le_length_units ['u', a, b, c, d]
      exact Nat.le_trans (by simp) atLeast
  | @point digits code =>
      have two := Text.codeUnits_length_le code
      have atLeast := length_le_length_units ('u' :: '\x7b' :: (digits ++ ['\x7d']))
      rw [List.length_cons, List.length_cons, List.length_append] at atLeast
      omega
  | other => exact Nat.le_of_eq (by simp [Text.units])
  | lineEnd => exact Nat.zero_le _
  | lineEndPair => exact Nat.zero_le _

section Denotes

variable {mark : Char} {body : List Char} {value : List Nat}

theorem Denotes.length_le (denotes : Denotes mark body value) :
    value.length ≤ (units body).length := by
  induction denotes with
  | nil => exact Nat.le_refl 0
  | free _ _ inductionHypothesis =>
      rw [Text.units_cons, List.length_append, List.length_append]
      omega
  | @escape text rest _ _ escape _ inductionHypothesis =>
      have given := escape.length_le
      rw [Text.units_cons, units_append, List.length_append, List.length_append,
        List.length_append]
      omega
  | @zero rest _ _ _ inductionHypothesis =>
      have one := Text.codeUnits_length_pos '0'.toNat
      rw [Text.units_cons, Text.units_cons, List.length_append, List.length_append,
        List.length_cons]
      omega

/-- A body with an escape has more units than it denotes. -/
theorem Denotes.length_lt (denotes : Denotes mark body value) (escaped : '\\' ∈ body) :
    value.length < (units body).length := by
  have backslash := Text.codeUnits_length_pos '\\'.toNat
  -- up to the first escape both grow alike; there the backslash is one unit more, and the rest gives no unit back
  induction denotes with
  | nil => contradiction
  | free free _ inductionHypothesis =>
      have inRest := (List.mem_cons.mp escaped).resolve_left free.2.1.symm
      have shorter := inductionHypothesis inRest
      rw [Text.units_cons, List.length_append, List.length_append]
      omega
  | escape escape others _ =>
      have given := escape.length_le
      have more := others.length_le
      rw [Text.units_cons, units_append, List.length_append, List.length_append,
        List.length_append]
      omega
  | zero _ others _ =>
      have one := Text.codeUnits_length_pos '0'.toNat
      have more := others.length_le
      rw [Text.units_cons, Text.units_cons, List.length_append, List.length_append,
        List.length_cons]
      omega

theorem Denotes.plain (denotes : Denotes mark body value) (noEscape : '\\' ∉ body) :
    Plain mark body := by
  induction denotes with
  | nil => exact fun _ member => absurd member List.not_mem_nil
  | free free _ inductionHypothesis =>
      have noneBehind := fun inRest => noEscape (List.mem_cons_of_mem _ inRest)
      exact List.forall_mem_cons.mpr ⟨free, inductionHypothesis noneBehind⟩
  | escape => exact absurd List.mem_cons_self noEscape
  | zero => exact absurd List.mem_cons_self noEscape

theorem Denotes.eq_units (denotes : Denotes mark body value) (noEscape : '\\' ∉ body) :
    value = units body := by
  induction denotes with
  | nil => rfl
  | free _ _ inductionHypothesis =>
      rw [Text.units_cons, inductionHypothesis fun inRest => noEscape (List.mem_cons_of_mem _ inRest)]
  | escape => exact absurd List.mem_cons_self noEscape
  | zero => exact absurd List.mem_cons_self noEscape

theorem denotes_units_of_plain (plain : Plain mark body) : Denotes mark body (units body) := by
  induction body with
  | nil => exact .nil
  | cons c rest inductionHypothesis =>
      obtain ⟨free, others⟩ := List.forall_mem_cons.mp plain
      exact .free free (inductionHypothesis others)

/-- A body denotes itself exactly if each of its characters stands for itself. -/
theorem denotes_units_iff : Denotes mark body (units body) ↔ Plain mark body := by
  constructor
  · intro denotes
    apply denotes.plain
    intro escaped
    exact Nat.lt_irrefl _ (denotes.length_lt escaped)
  · exact denotes_units_of_plain

end Denotes

/-! ## Bodies by their first character -/

section FirstCharacter

variable {c : Char} {unit : Nat} {more : List Char} {value : List Nat}

/-- A letter with an escape of its own begins no other escape. -/
theorem Escape.of_letter (known : (c, unit) ∈ letterEscapes) {text rest : List Char} {given : List Nat}
    (escape : Escape text given) (cut : text ++ rest = c :: more) : rest = more ∧ given = [unit] := by
  have oneUnit : ∀ pair ∈ letterEscapes, ∀ other ∈ letterEscapes, pair.1 = other.1 →
      pair.2 = other.2 := by decide
  have apart : ∀ pair ∈ letterEscapes, pair.1 ∉ 'x' :: 'u' :: lineEnds := by decide
  have ne {d : Char} (listed : d ∈ 'x' :: 'u' :: lineEnds) : d ≠ c := by
    rintro rfl
    exact apart _ known listed
  cases escape with
  | letter listed =>
      obtain ⟨rfl, rfl⟩ := List.cons.inj cut
      exact ⟨rfl, congrArg (fun unit => [unit]) (oneUnit _ listed _ known rfl)⟩
  | byte => exact absurd (List.cons.inj cut).1 (ne (by simp))
  | unit => exact absurd (List.cons.inj cut).1 (ne (by simp))
  | point => exact absurd (List.cons.inj cut).1 (ne (by simp))
  | other stands => exact absurd (List.cons.inj cut).1 (stands.1 _ known)
  | lineEnd ends => exact absurd (List.cons.inj cut).1 (ne (by simp [ends]))
  | lineEndPair => exact absurd (List.cons.inj cut).1 (ne (by simp [lineEnds]))

theorem denotes_letter_iff {mark : Char} (known : (c, unit) ∈ letterEscapes) :
    Denotes mark ('\\' :: c :: more) value ↔ ∃ others, Denotes mark more others ∧ value = unit :: others := by
  have notZero : ∀ pair ∈ letterEscapes, pair.1 ≠ '0' := by decide
  constructor
  · intro denotes
    generalize whole : '\\' :: c :: more = body at denotes
    cases denotes with
    | nil => contradiction
    | free free =>
        obtain ⟨rfl, -⟩ := List.cons.inj whole
        exact absurd rfl free.2.1
    | escape escape others =>
        obtain ⟨-, cut⟩ := List.cons.inj whole
        obtain ⟨rfl, rfl⟩ := escape.of_letter known cut.symm
        exact ⟨_, others, rfl⟩
    | zero =>
        obtain ⟨-, cut⟩ := List.cons.inj whole
        exact absurd (List.cons.inj cut).1 (notZero _ known)
  · rintro ⟨others, denotes, rfl⟩
    exact .escape (.letter known) denotes

theorem denotes_cons_iff {mark : Char} (noEscape : c ≠ '\\') :
    Denotes mark (c :: more) value ↔
      StandsFree mark c ∧ ∃ others, Denotes mark more others ∧ value = codeUnits c.toNat ++ others := by
  constructor
  · intro denotes
    cases denotes with
    | free free others => exact ⟨free, _, others, rfl⟩
    | escape => contradiction
    | zero => contradiction
  · rintro ⟨free, others, denotes, rfl⟩
    exact .free free denotes

end FirstCharacter

/-! ## Where a body can hold its mark -/

theorem mem_hexDigits_of_hexNumber? {digits : List Char} {number : Nat}
    (hex : hexNumber? digits = some number) : ∀ c ∈ digits, Text.isHex c = true := by
  have fromAny : ∀ first, digits.foldlM
      (fun number digit => (Text.hexValue? digit).map (16 * number + ·)) first = some number →
        ∀ c ∈ digits, Text.isHex c = true := by
    clear hex
    induction digits with
    | nil => simp
    | cons digit rest inductionHypothesis =>
        intro first read
        rw [List.foldlM_cons] at read
        obtain ⟨next, isNext, readRest⟩ := Option.bind_eq_some_iff.mp read
        obtain ⟨value, isValue, -⟩ := Option.map_eq_some_iff.mp isNext
        refine List.forall_mem_cons.mpr ⟨?_, inductionHypothesis next readRest⟩
        rw [Text.isHex, isValue]
        rfl
  exact fromAny 0 hex

/-- An escape that holds a mark is of that mark alone. -/
theorem Escape.eq_singleton {text : List Char} {given : List Nat} (escape : Escape text given)
    {quote : QuoteMark} (member : quote.char ∈ text) : text = [quote.char] := by
  have noHex : Text.isHex quote.char = false := by cases quote <;> decide
  have notDigit : ∀ {digits : List Char} {number : Nat}, hexNumber? digits = some number →
      quote.char ∉ digits := by
    intro digits number hex inDigits
    have isHex := mem_hexDigits_of_hexNumber? hex _ inDigits
    rw [noHex] at isHex
    contradiction
  have notFixed : quote.char ∉ ['x', 'u', '\x7b', '\x7d', '\r', '\n'] := by cases quote <;> decide
  cases escape with
  | letter => rw [List.mem_singleton.mp member]
  | byte hex =>
      have absent := notDigit hex
      simp_all
  | unit hex =>
      have absent := notDigit hex
      simp_all
  | point _ hex _ =>
      have absent := notDigit hex
      simp_all
  | other => rw [List.mem_singleton.mp member]
  | lineEnd => rw [List.mem_singleton.mp member]
  | lineEndPair => simp_all

/-- A mark behind a backslash stands there at once, or in the rest behind the escape. -/
theorem Escape.eq_nil_or_of_append {text rest front behind : List Char} {given : List Nat}
    (escape : Escape text given) {quote : QuoteMark}
    (cut : text ++ rest = front ++ quote.char :: behind) :
    front = [] ∨ ∃ inner, front = text ++ inner ∧ rest = inner ++ quote.char :: behind := by
  rcases List.append_eq_append_iff.mp cut with ⟨inner, shape, restCut⟩ | ⟨tail, textCut, markCut⟩
  · exact .inr ⟨inner, shape, restCut⟩
  · cases tail with
    | nil =>
        rw [List.append_nil] at textCut
        exact .inr ⟨[], by simp [textCut], markCut.symm⟩
    | cons c more =>
        obtain ⟨rfl, -⟩ := List.cons.inj markCut
        have inText : quote.char ∈ text := by simp [textCut]
        rw [escape.eq_singleton inText, List.singleton_eq_append_iff] at textCut
        rcases textCut with ⟨isNil, -⟩ | ⟨-, impossible⟩
        · exact .inl isNil
        · contradiction

/-- Inside of a body, its mark stands right behind a backslash. -/
theorem Denotes.getLast?_front {quote : QuoteMark} {body : List Char} {value : List Nat}
    (denotes : Denotes quote.char body value) {front behind : List Char}
    (cut : body = front ++ quote.char :: behind) : front.getLast? = some '\\' := by
  have markFixed : quote.char ≠ '\\' ∧ quote.char ≠ '0' := by cases quote <;> decide
  -- what stands in front of the mark, once the body's first character is taken off
  have behindFirst : ∀ {c : Char} {others : List Char}, others.getLast? = some '\\' →
      (c :: others).getLast? = some '\\' := by
    intro c others last
    rw [List.getLast?_cons, last]
    rfl
  induction denotes generalizing front with
  | nil => simp at cut
  | free free _ inductionHypothesis =>
      cases front with
      | nil => exact absurd (List.cons.inj cut).1 free.1
      | cons c others => exact behindFirst (inductionHypothesis (List.cons.inj cut).2)
  | @escape text rest _ _ escape _ inductionHypothesis =>
      cases front with
      | nil => exact absurd (List.cons.inj cut).1.symm markFixed.1
      | cons c others =>
          obtain ⟨rfl, cutRest⟩ := List.cons.inj cut
          rcases escape.eq_nil_or_of_append cutRest with rfl | ⟨inner, rfl, restCut⟩
          · rfl
          · have last := inductionHypothesis restCut
            rw [← List.cons_append, List.getLast?_append, last]
            rfl
  | zero _ _ inductionHypothesis =>
      cases front with
      | nil => exact absurd (List.cons.inj cut).1.symm markFixed.1
      | cons c others =>
          cases others with
          | nil => exact absurd (List.cons.inj (List.cons.inj cut).2).1.symm markFixed.2
          | cons d more =>
              obtain ⟨-, cutRest⟩ := List.cons.inj (List.cons.inj cut).2
              exact behindFirst (behindFirst (inductionHypothesis cutRest))

/-! ## Lines -/

/-- The characters that a string, a template, a comment or a regular expression opens with, and those that break
a line apart. -/
def breakers : List Char := ['\'', '"', '\x60', '/', '\n', '\r']

/-- A text in which nothing is opened and no line ends. -/
def Quiet (text : List Char) : Prop := ∀ c ∈ text, c ∉ breakers

instance (text : List Char) : Decidable (Quiet text) :=
  List.decidableBAll (fun c => c ∉ breakers) text

theorem quiet_append {text rest : List Char} : Quiet (text ++ rest) ↔ Quiet text ∧ Quiet rest :=
  List.forall_mem_append

/-- A line that holds one string, which denotes a value, and ends with it: the text before the string is quiet, and
the second mark of the string is the last character of the line. -/
def HoldsOnly (quote : QuoteMark) (value line : String) : Prop :=
  ∃ head body, line.toList = head ++ quote.char :: (body ++ [quote.char]) ∧ Quiet head ∧
    Denotes quote.char body (units value.toList)

/-- A line that ends with a value between two marks, written as it is, holds that value alone exactly if the text
before is quiet and each character of the value stands for itself. -/
theorem holdsOnly_iff {quote : QuoteMark} {front : List Char} {value line : String}
    (shape : line.toList = front ++ quote.char :: (value.toList ++ [quote.char]))
    (noBackslash : front.getLast? ≠ some '\\') :
    HoldsOnly quote value line ↔ Quiet front ∧ Plain quote.char value.toList := by
  have opens : quote.char ∈ breakers := by cases quote <;> decide
  constructor
  · rintro ⟨head, body, cut, quiet, denotes⟩
    rw [shape] at cut
    rcases List.append_eq_append_iff.mp cut with ⟨more, rfl, behind⟩ | ⟨more, rfl, behind⟩
    · cases more with
      | nil =>
          have sameBody := List.append_cancel_right (List.cons.inj behind).2
          rw [List.append_nil] at quiet
          rw [← sameBody] at denotes
          exact ⟨quiet, denotes_units_iff.mp denotes⟩
      | cons m rest =>
          obtain ⟨rfl, -⟩ := List.cons.inj behind
          exact absurd opens (quiet _ (by simp))
    · cases more with
      | nil =>
          have sameBody := List.append_cancel_right (List.cons.inj behind).2
          rw [List.append_nil]
          rw [sameBody] at denotes
          exact ⟨quiet, denotes_units_iff.mp denotes⟩
      | cons m rest =>
          -- the string would have opened before, with the mark inside of its body
          obtain ⟨rfl, sameRest⟩ := List.cons.inj behind
          have sameBody : body ++ [quote.char] =
              (rest ++ quote.char :: value.toList) ++ [quote.char] := by simpa using sameRest
          have last := denotes.getLast?_front (List.append_cancel_right sameBody)
          rw [List.getLast?_append, List.getLast?_cons, last] at noBackslash
          exact absurd rfl noBackslash
  · rintro ⟨quiet, plain⟩
    exact ⟨front, value.toList, shape, quiet, denotes_units_iff.mpr plain⟩

theorem toList_marked (front value : String) (mark : Char) :
    (front ++ (String.ofList [mark] ++ value ++ String.ofList [mark])).toList =
      front.toList ++ mark :: (value.toList ++ [mark]) := by
  simp

end DeclaredOptions.Script
