import DeclaredOptions.Proofs.Literal.NumberValue
import DeclaredOptions.Proofs.Literal.Value
import DeclaredOptions.Schema.Resolution
import Mathlib.Data.List.Infix

/-!
Contract: the values of enum members.

Owns:
- literals that are whole numbers, after which a count goes on;
- one member's value, from its initializer or from the number to go on with, and the refusals of it;
- the values of members in a row, the reasons for which there are none, and the member at which they are refused.

Does not own: what an initializer writes.

## The number to go on with

A value is written as a literal, and the next member without an initializer reads its number back. So a value gives a
number to go on with exactly if it is a whole numeral, however it is written. A member without an initializer has
such a value if it has any: only an initializer breaks off the count.

A number in base sixteen may have more digits in base ten than a numeral may have. Such a number is read, but the
number after it is not written.
-/

set_option autoImplicit false

namespace DeclaredOptions

namespace Literal

variable {fragment : List Char} {literal : Literal} {after : Option Int} {failure : Failure}

/-! ## Whole literals -/

/-- A literal that is a whole numeral, and its number. -/
def IsWhole (literal : Literal) (n : Int) : Prop :=
  ∃ source, literal = .number source ∧ Numeral.Writes source.toList n

/-- The number to go on with after a literal: one more than a whole one that can be read back, and none after any
literal that is not whole. -/
inductive Precedes : Literal → Option Int → Prop where
  | whole {source : String} {n : Int} (writes : Numeral.Writes source.toList n)
      (short : ¬Numeral.IsLong source.toList) : Precedes (.number source) (some (n + 1))
  | broken {literal : Literal} (notWhole : ∀ n, ¬literal.IsWhole n) : Precedes literal none

theorem not_isLong_of_broken {source : String} (notWhole : ∀ n, ¬(Literal.number source).IsWhole n) :
    ¬Numeral.IsLong source.toList := by
  rintro ⟨count, digits, -⟩
  obtain ⟨n, writes⟩ := digits.exists_writes
  exact notWhole n ⟨source, rfl, writes⟩

theorem Precedes.next_eq (precedes : literal.Precedes after) (spelled : literal.Spelled) :
    literal.next = .ok after := by
  cases precedes with
  | whole writes short =>
      rw [next, numberValue_eq_ok_iff.mpr (Numeral.value_eq_whole_iff.mpr ⟨writes, short⟩)]
      rfl
  | broken notWhole =>
      cases literal with
      | number source =>
          obtain ⟨number, known⟩ :=
            Numeral.exists_value (spelled source rfl) (not_isLong_of_broken notWhole)
          rw [next, numberValue_eq_ok_iff.mpr known]
          cases number with
          | whole n => exact absurd ⟨source, rfl, (Numeral.value_eq_whole_iff.mp known).1⟩ (notWhole n)
          | real x => rfl
      | _ => rfl

theorem Precedes.exists_toData (precedes : literal.Precedes after) (spelled : literal.Spelled) :
    ∃ data, literal.toData = .ok data := by
  cases precedes with
  | whole writes short => exact ⟨_, toData_eq_whole_iff.mpr ⟨writes, short⟩⟩
  | broken notWhole =>
      cases literal with
      | number source =>
          obtain ⟨number, isData⟩ := exists_toData_of_spelled (spelled source rfl) (not_isLong_of_broken notWhole)
          exact ⟨_, isData⟩
      | _ => exact ⟨_, rfl⟩

/-- After a literal that is spelled there is a number to go on with or none, or the literal is too long. -/
theorem next_cases (spelled : literal.Spelled) :
    (∃ after, literal.next = .ok after ∧ literal.Precedes after) ∨
    ∃ source count, literal = .number source ∧ Numeral.HasDigits source.toList count ∧
      Number.maxDigits < count ∧ literal.next = .error (.wrongValue (.longNumeral count)) := by
  have known (precedes : ∃ after, literal.Precedes after) :
      ∃ after, literal.next = .ok after ∧ literal.Precedes after := by
    obtain ⟨after, precedes⟩ := precedes
    exact ⟨after, precedes.next_eq spelled, precedes⟩
  by_cases isWhole : ∃ n, literal.IsWhole n
  · obtain ⟨n, source, rfl, writes⟩ := isWhole
    by_cases long : Numeral.IsLong source.toList
    · obtain ⟨count, digits, many⟩ := long
      refine .inr ⟨source, count, rfl, digits, many, ?_⟩
      rw [next, numberValue, (Numeral.value_eq_error_iff (spelled source rfl)).mpr ⟨count, digits, many, rfl⟩]
      rfl
    · exact .inl (known ⟨_, .whole writes long⟩)
  · exact .inl (known ⟨none, .broken (not_exists.mp isWhole)⟩)

theorem Writes.spelled (writes : Writes fragment literal) : literal.Spelled := by
  cases writes with
  | text quoted => exact spelled_text _
  | number spelled => exact spelled_number spelled

/-- What a fragment writes is whole exactly if the fragment is a whole numeral. -/
theorem Writes.isWhole_iff (writes : Writes fragment literal) {n : Int} :
    literal.IsWhole n ↔ Numeral.Writes fragment n := by
  cases writes with
  | number spelled => simp [IsWhole]
  | text quoted =>
      constructor
      · rintro ⟨_, impossible, -⟩
        cases impossible
      · intro whole
        obtain ⟨doubled, cut, -⟩ := quotes_iff.mp quoted
        rw [quotedForm?_of_spelled (Numeral.spelled_of_writes whole)] at cut
        contradiction

end Literal

/-! ## One member -/

namespace EnumMember

open Literal (InQuotes Quotes)

variable {member : EnumMember} {members front rest : List EnumMember} {following after final : Option Int}
  {literal : Literal} {literals : List Literal} {failure : Failure}

/-- If the initializer is in quotation marks, it decodes. -/
def Decodes (member : EnumMember) : Prop :=
  ∀ text ∈ member.initializer, InQuotes (Text.trim text.toList) →
    ∃ value, Quotes (Text.trim text.toList) value

/-- The initializer is a whole decimal numeral with too many digits. -/
def IsLong (member : EnumMember) : Prop :=
  ∃ text ∈ member.initializer, Numeral.IsLong (Text.trim text.toList)

/-- The initializer is neither in quotation marks nor a numeral. -/
def IsComputed (member : EnumMember) : Prop :=
  ∃ text ∈ member.initializer, ¬InQuotes (Text.trim text.toList) ∧
    ¬Numeral.Spelled (Text.trim text.toList)

/-- The initializer is there, and is no whole numeral. -/
def BreaksOff (member : EnumMember) : Prop :=
  ∃ text ∈ member.initializer, ∀ n, ¬Numeral.Writes (Text.trim text.toList) n

/-- The initializer is computed, or there is no number to go on with where none is given. -/
def Lacks (member : EnumMember) (following : Option Int) : Prop :=
  member.IsComputed ∨ following = none ∧ member.initializer = none

/-- A literal is the one of a member, where a member without an initializer takes the number to go on with. -/
def Takes (member : EnumMember) (following : Option Int) (literal : Literal) : Prop :=
  match member.initializer with
  | some text => Literal.Writes (Text.trim text.toList) literal
  | none => ∃ n source, following = some n ∧ Number.wholeText? n = some source ∧ literal = .number source

/-- The refusals of a member's value: for an initializer in quotation marks that does not decode, for a whole decimal
initializer with too many digits, and for a number to go on with that has too many. -/
inductive Refuses (member : EnumMember) (following : Option Int) : Failure → Prop where
  | undecodable {text : String} {refusal : TagRefusal} (given : member.initializer = some text)
      (refused : Literal.parseValue text = .error refusal) : Refuses member following (.tag refusal)
  | long {text : String} {count : Nat} (given : member.initializer = some text)
      (digits : Numeral.HasDigits (Text.trim text.toList) count) (many : Number.maxDigits < count) :
      Refuses member following (.wrongValue (.longNumeral count))
  | overrun {n : Int} (absent : member.initializer = none) (number : following = some n)
      (large : 10 ^ Number.maxDigits ≤ n.natAbs) : Refuses member following (.wrongValue .longNumber)

theorem takes_of_initializer {text : String} (given : member.initializer = some text) :
    member.Takes following literal ↔ Literal.Writes (Text.trim text.toList) literal := by
  rw [Takes, given]

theorem takes_of_none (absent : member.initializer = none) :
    member.Takes following literal ↔
      ∃ n source, following = some n ∧ Number.wholeText? n = some source ∧ literal = .number source := by
  rw [Takes, absent]

theorem literal?_of_initializer {text : String} (given : member.initializer = some text)
    (following : Option Int) : member.literal? following = (Literal.parseValue text).mapError .tag := by
  rw [literal?, given]

theorem literal?_of_none (absent : member.initializer = none) : member.literal? none = .ok none := by
  rw [literal?, absent]
  rfl

theorem literal?_of_some (absent : member.initializer = none) (n : Int) :
    member.literal? (some n) =
      (match Number.wholeText? n with
      | some source => .ok (some (.number source))
      | none => .error (.wrongValue .longNumber)) := by
  rw [literal?, absent]
  change some <$> Literal.ofWhole n = _
  unfold Literal.ofWhole
  cases Number.wholeText? n <;> rfl

theorem literal?_eq_some_iff :
    member.literal? following = .ok (some literal) ↔ member.Takes following literal := by
  cases given : member.initializer with
  | some text =>
      rw [literal?_of_initializer given, takes_of_initializer given, ← Literal.parseValue_eq_some_iff]
      cases Literal.parseValue text <;> simp [Except.mapError]
  | none =>
      rw [takes_of_none given]
      cases following with
      | none => simp [literal?_of_none given]
      | some n =>
          rw [literal?_of_some given]
          cases written : Number.wholeText? n <;> simp [written, eq_comm]

theorem literal?_eq_none_iff : member.literal? following = .ok none ↔ member.Lacks following := by
  unfold Lacks IsComputed
  cases given : member.initializer with
  | some text =>
      have none_iff : (Literal.parseValue text).mapError Failure.tag = .ok none ↔
          Literal.parseValue text = .ok none := by
        cases Literal.parseValue text <;> simp [Except.mapError]
      rw [literal?_of_initializer given, none_iff, Literal.parseValue_eq_none_iff_form]
      simp
  | none =>
      cases following with
      | none => simp [literal?_of_none given]
      | some n =>
          rw [literal?_of_some given]
          cases written : Number.wholeText? n <;> simp

theorem Takes.spelled (takes : member.Takes following literal) : literal.Spelled := by
  cases given : member.initializer with
  | some text => exact ((takes_of_initializer given).mp takes).spelled
  | none =>
      obtain ⟨n, source, -, written, rfl⟩ := (takes_of_none given).mp takes
      rintro _ ⟨⟩
      exact Numeral.spelled_of_writes (Numeral.writes_of_wholeText? written).1

theorem value?_of_takes (takes : member.Takes following literal) :
    member.value? following = literal.next.map fun after => some (literal, after) := by
  rw [value?, literal?_eq_some_iff.mpr takes]
  change some <$> (literal.next >>= fun after => pure (literal, after)) = _
  cases literal.next <;> rfl

theorem refuses_of_literal? (refused : member.literal? following = .error failure) :
    member.Refuses following failure := by
  cases given : member.initializer with
  | some text =>
      rw [literal?_of_initializer given] at refused
      cases parsed : Literal.parseValue text with
      | ok found =>
          rw [parsed] at refused
          cases refused
      | error refusal =>
          rw [parsed] at refused
          cases refused
          exact .undecodable given parsed
  | none =>
      cases following with
      | none => cases refused.symm.trans (literal?_of_none given)
      | some n =>
          rw [literal?_of_some given] at refused
          cases written : Number.wholeText? n with
          | some source =>
              rw [written] at refused
              cases refused
          | none =>
              rw [written] at refused
              cases refused
              exact .overrun given rfl (Numeral.wholeText?_eq_none_iff.mp written)

/-- Only an initializer is too long to be read back. -/
theorem Takes.refuses_of_long {source : String} {count : Nat} (takes : member.Takes following (.number source))
    (digits : Numeral.HasDigits source.toList count) (many : Number.maxDigits < count) :
    member.Refuses following (.wrongValue (.longNumeral count)) := by
  cases given : member.initializer with
  | some text =>
      cases (takes_of_initializer given).mp takes with
      | number spelled =>
          rw [String.toList_ofList] at digits
          exact .long given digits many
  | none =>
      obtain ⟨n, _, -, written, ⟨⟩⟩ := (takes_of_none given).mp takes
      exact absurd ⟨count, digits, many⟩ (Numeral.writes_of_wholeText? written).2

theorem Refuses.value?_eq (refuses : member.Refuses following failure) :
    member.value? following = .error failure := by
  have ofLiteral (refused : member.literal? following = .error failure) :
      member.value? following = .error failure := by
    rw [value?, refused]
    rfl
  cases refuses with
  | undecodable given refused =>
      apply ofLiteral
      rw [literal?_of_initializer given, refused]
      rfl
  | @long text count given digits many =>
      obtain ⟨n, writes⟩ := digits.exists_writes
      have takes : member.Takes following _ :=
        (takes_of_initializer given).mpr (.number (Numeral.spelled_of_writes writes))
      rw [value?_of_takes takes]
      rw [← String.toList_ofList (l := Text.trim text.toList)] at digits writes
      rw [Literal.next, Literal.numberValue,
        (Numeral.value_eq_error_iff (Numeral.spelled_of_writes writes)).mpr ⟨count, digits, many, rfl⟩]
      rfl
  | overrun absent number large =>
      subst number
      apply ofLiteral
      rw [literal?_of_some absent, Numeral.wholeText?_eq_none_iff.mpr large]

theorem Takes.value?_eq (takes : member.Takes following literal) (precedes : literal.Precedes after) :
    member.value? following = .ok (some (literal, after)) := by
  rw [value?_of_takes takes, precedes.next_eq takes.spelled]
  rfl

theorem Lacks.value?_eq (lacks : member.Lacks following) : member.value? following = .ok none := by
  rw [value?, literal?_eq_none_iff.mpr lacks]
  rfl

/-- A member has a value with a number to go on with or none, or it lacks a value, or its value is refused. -/
theorem value?_cases (member : EnumMember) (following : Option Int) :
    (∃ literal after, member.Takes following literal ∧ literal.Precedes after) ∨
      member.Lacks following ∨ ∃ failure, member.Refuses following failure := by
  cases read : member.literal? following with
  | ok found =>
      cases found with
      | none => exact .inr (.inl (literal?_eq_none_iff.mp read))
      | some literal =>
          have takes := literal?_eq_some_iff.mp read
          rcases Literal.next_cases takes.spelled with
            ⟨after, -, precedes⟩ | ⟨source, count, rfl, digits, many, -⟩
          · exact .inl ⟨literal, after, takes, precedes⟩
          · exact .inr (.inr ⟨_, takes.refuses_of_long digits many⟩)
  | error failure => exact .inr (.inr ⟨failure, refuses_of_literal? read⟩)

/-! ## Members in a row -/

/-- Literals are the values of members in order, each going on from the one before, and the last leaves a number to go
on with or none. -/
inductive Counts : Option Int → List EnumMember → List Literal → Option Int → Prop
  | nil {following : Option Int} : Counts following [] [] following
  | cons {following after final : Option Int} {member : EnumMember} {members : List EnumMember}
      {literal : Literal} {literals : List Literal} (takes : member.Takes following literal)
      (precedes : literal.Precedes after) (others : Counts after members literals final) :
      Counts following (member :: members) (literal :: literals) final

/-- Reading the values comes to a member with a number to go on with or none: the members before it have values. -/
def Reaches (following : Option Int) (members : List EnumMember) (number : Option Int) (member : EnumMember) :
    Prop :=
  ∃ front rest literals, members = front ++ member :: rest ∧ Counts following front literals number

variable {number : Option Int}

theorem reaches_head : Reaches following (member :: rest) following member := ⟨[], rest, [], rfl, .nil⟩

theorem Reaches.tail {first : EnumMember} (reaches : Reaches after rest number member)
    (takes : first.Takes following literal) (precedes : literal.Precedes after) :
    Reaches following (first :: rest) number member := by
  obtain ⟨front, others, literals, rfl, counts⟩ := reaches
  exact ⟨first :: front, others, literal :: literals, rfl, .cons takes precedes counts⟩

theorem valuesFrom_cons (read : member.value? following = .ok (some (literal, after))) :
    valuesFrom following (member :: rest) = (valuesFrom after rest).map (Option.map (literal :: ·)) := by
  rw [valuesFrom, read]
  change (valuesFrom after rest >>= fun more => pure (more.map (literal :: ·))) = _
  cases valuesFrom after rest <;> rfl

/-- Members whose values are known leave it to the others whether there are values. -/
theorem Counts.valuesFrom_append (counts : Counts following front literals number) (rest : List EnumMember) :
    valuesFrom following (front ++ rest) = (valuesFrom number rest).map (Option.map (literals ++ ·)) := by
  induction counts with
  | @nil number => cases known : valuesFrom number rest <;> simp [Except.map, known]
  | cons takes precedes _ inductionHypothesis =>
      rw [List.cons_append, valuesFrom_cons (takes.value?_eq precedes), inductionHypothesis]
      cases valuesFrom _ rest <;> simp [Except.map, Function.comp_def]

/-- All members have values, or reading them comes to one without a value, or to one whose value is refused. -/
theorem counts_cases (members : List EnumMember) (following : Option Int) :
    (∃ literals final, Counts following members literals final) ∨
      ∃ number member, Reaches following members number member ∧
        (member.Lacks number ∨ ∃ failure, member.Refuses number failure) := by
  induction members generalizing following with
  | nil => exact .inl ⟨[], following, .nil⟩
  | cons member rest inductionHypothesis =>
      rcases value?_cases member following with ⟨literal, after, takes, precedes⟩ | stops
      · rcases inductionHypothesis after with ⟨literals, final, counts⟩ | ⟨number, other, reaches, stops⟩
        · exact .inl ⟨_, final, .cons takes precedes counts⟩
        · exact .inr ⟨number, other, reaches.tail takes precedes, stops⟩
      · exact .inr ⟨following, member, reaches_head, stops⟩

theorem Counts.valuesFrom_eq (counts : Counts following members literals final) :
    valuesFrom following members = .ok (some literals) := by
  have whole := counts.valuesFrom_append []
  rw [List.append_nil] at whole
  simpa [valuesFrom, Except.map] using whole

theorem Reaches.valuesFrom_of_lacks (reaches : Reaches following members number member)
    (lacks : member.Lacks number) : valuesFrom following members = .ok none := by
  obtain ⟨front, rest, literals, rfl, counts⟩ := reaches
  rw [counts.valuesFrom_append, valuesFrom, lacks.value?_eq]
  rfl

theorem Reaches.valuesFrom_of_refuses (reaches : Reaches following members number member)
    (refuses : member.Refuses number failure) : valuesFrom following members = .error failure := by
  obtain ⟨front, rest, literals, rfl, counts⟩ := reaches
  rw [counts.valuesFrom_append, valuesFrom, refuses.value?_eq]
  rfl

/-- Reading the values is refused exactly if it comes to a member whose value is. -/
theorem valuesFrom_eq_error_iff :
    valuesFrom following members = .error failure ↔
      ∃ number member, Reaches following members number member ∧ member.Refuses number failure := by
  constructor
  · intro refused
    rcases counts_cases members following with
      ⟨literals, final, counts⟩ | ⟨number, member, reaches, lacks | ⟨own, refuses⟩⟩
    · cases refused.symm.trans counts.valuesFrom_eq
    · cases refused.symm.trans (reaches.valuesFrom_of_lacks lacks)
    · cases refused.symm.trans (reaches.valuesFrom_of_refuses refuses)
      exact ⟨number, member, reaches, refuses⟩
  · rintro ⟨number, member, reaches, refuses⟩
    exact reaches.valuesFrom_of_refuses refuses

/-- Values that are read have plain values. -/
theorem exists_toData_of_valuesFrom (read : valuesFrom following members = .ok (some literals)) :
    ∀ literal ∈ literals, ∃ data, literal.toData = .ok data := by
  rcases counts_cases members following with
    ⟨own, final, counts⟩ | ⟨number, member, reaches, lacks | ⟨failure, refuses⟩⟩
  · cases read.symm.trans counts.valuesFrom_eq
    clear read
    induction counts with
    | nil => simp
    | cons takes precedes _ inductionHypothesis =>
        exact List.forall_mem_cons.mpr ⟨precedes.exists_toData takes.spelled, inductionHypothesis⟩
  · cases read.symm.trans (reaches.valuesFrom_of_lacks lacks)
  · cases read.symm.trans (reaches.valuesFrom_of_refuses refuses)

/-! ## Members without values -/

/-- Some member is computed, or some member without an initializer comes right after one that breaks the count
off. -/
def Uncounted (members : List EnumMember) : Prop :=
  (∃ member ∈ members, member.IsComputed) ∨
    ∃ first second, [first, second] <:+: members ∧ first.BreaksOff ∧ second.initializer = none

theorem uncounted_cons {rest : List EnumMember} :
    Uncounted (member :: rest) ↔
      member.IsComputed ∨ (member.BreaksOff ∧ ∃ second ∈ rest.head?, second.initializer = none) ∨
        Uncounted rest := by
  have pair (first second : EnumMember) : [first, second] <:+: member :: rest ↔
      (first = member ∧ second ∈ rest.head?) ∨ [first, second] <:+: rest := by
    rw [List.infix_cons_iff, List.cons_prefix_cons]
    cases rest with
    | nil => simp
    | cons next more => simp [eq_comm]
  unfold Uncounted
  constructor
  · rintro (⟨other, isMember, computed⟩ | ⟨first, second, together, breaksOff, absent⟩)
    · rcases List.mem_cons.mp isMember with rfl | inRest
      · exact .inl computed
      · exact .inr (.inr (.inl ⟨other, inRest, computed⟩))
    · rcases (pair first second).mp together with ⟨rfl, isNext⟩ | inRest
      · exact .inr (.inl ⟨breaksOff, second, isNext, absent⟩)
      · exact .inr (.inr (.inr ⟨first, second, inRest, breaksOff, absent⟩))
  · rintro (computed | ⟨breaksOff, second, isNext, absent⟩ | ⟨other, inRest, computed⟩ |
      ⟨first, second, inRest, breaksOff, absent⟩)
    · exact .inl ⟨member, List.mem_cons_self, computed⟩
    · exact .inr ⟨member, second, (pair _ _).mpr (.inl ⟨rfl, isNext⟩), breaksOff, absent⟩
    · exact .inl ⟨other, List.mem_cons_of_mem _ inRest, computed⟩
    · exact .inr ⟨first, second, (pair _ _).mpr (.inr inRest), breaksOff, absent⟩

theorem Takes.not_isComputed (takes : member.Takes following literal) : ¬member.IsComputed := by
  rintro ⟨text, given, unquoted, unspelled⟩
  exact ((takes_of_initializer (Option.mem_def.mp given)).mp takes).form.elim unquoted unspelled

/-- There is no number to go on with after a value exactly if the initializer breaks the count off. -/
theorem Takes.eq_none_iff (takes : member.Takes following literal) (precedes : literal.Precedes after) :
    after = none ↔ member.BreaksOff := by
  have isWhole_iff : after = none ↔ ∀ n, ¬literal.IsWhole n := by
    cases precedes with
    | @whole source n writes => exact iff_of_false nofun fun notWhole => notWhole n ⟨source, rfl, writes⟩
    | broken notWhole => exact iff_of_true rfl notWhole
  rw [isWhole_iff, BreaksOff]
  cases given : member.initializer with
  | some text =>
      have writes := (takes_of_initializer given).mp takes
      simp [writes.isWhole_iff]
  | none =>
      obtain ⟨n, source, -, written, rfl⟩ := (takes_of_none given).mp takes
      have isWhole : (Literal.number source).IsWhole n := ⟨source, rfl, (Numeral.writes_of_wholeText? written).1⟩
      exact iff_of_false (fun notWhole => notWhole n isWhole) (by simp)

theorem Counts.not_uncounted (counts : Counts following members literals final) : ¬Uncounted members := by
  induction counts with
  | nil => simp [Uncounted]
  | cons takes precedes others inductionHypothesis =>
      rw [uncounted_cons]
      rintro (computed | ⟨breaksOff, second, isNext, absent⟩ | uncounted)
      · exact takes.not_isComputed computed
      · -- The next member needs a number, and the one before leaves none.
        cases (takes.eq_none_iff precedes).mpr breaksOff
        cases others with
        | nil => cases isNext
        | cons takesNext =>
            cases isNext
            obtain ⟨_, _, impossible, -⟩ := (takes_of_none absent).mp takesNext
            cases impossible
      · exact inductionHypothesis uncounted

theorem Counts.breaksOff_of_none (counts : Counts following members literals final) (isLast : final = none) :
    following = none ∧ members = [] ∨ ∃ last ∈ members.getLast?, last.BreaksOff := by
  induction counts with
  | nil => exact .inl ⟨isLast, rfl⟩
  | @cons _ after _ member members _ _ takes precedes _ inductionHypothesis =>
      right
      rcases inductionHypothesis isLast with ⟨isNone, rfl⟩ | ⟨last, isMember, breaksOff⟩
      · exact ⟨member, rfl, (takes.eq_none_iff precedes).mp isNone⟩
      · refine ⟨last, ?_, breaksOff⟩
        rw [List.getLast?_cons, Option.mem_def.mp isMember]
        rfl

theorem Reaches.uncounted_of_lacks {n : Int} (reaches : Reaches (some n) members number member)
    (lacks : member.Lacks number) : Uncounted members := by
  obtain ⟨front, rest, literals, rfl, counts⟩ := reaches
  rcases lacks with computed | ⟨rfl, absent⟩
  · exact .inl ⟨member, by simp, computed⟩
  · rcases counts.breaksOff_of_none rfl with ⟨impossible, -⟩ | ⟨last, isLast, breaksOff⟩
    · cases impossible
    · obtain ⟨before, rfl⟩ := List.getLast?_eq_some_iff.mp isLast
      exact .inr ⟨last, member, ⟨before, rest, by simp⟩, breaksOff, absent⟩

/-- Where nothing is refused, there are no values exactly if some member is not counted. -/
theorem valuesFrom_eq_none_iff {n : Int}
    (kept : ∀ failure, valuesFrom (some n) members ≠ .error failure) :
    valuesFrom (some n) members = .ok none ↔ Uncounted members := by
  rcases counts_cases members (some n) with
    ⟨literals, final, counts⟩ | ⟨number, member, reaches, lacks | ⟨failure, refuses⟩⟩
  · rw [counts.valuesFrom_eq]
    exact iff_of_false nofun counts.not_uncounted
  · exact iff_of_true (reaches.valuesFrom_of_lacks lacks) (reaches.uncounted_of_lacks lacks)
  · exact absurd (reaches.valuesFrom_of_refuses refuses) (kept failure)

/-! ## The values -/

/-- Literals are the values of members: one for each, in order. An initializer gives what it writes. A first member
without one is zero, and any other is one more than the whole number of the literal before. -/
structure AreValues (members : List EnumMember) (literals : List Literal) : Prop where
  length : literals.length = members.length
  written : ∀ (index : Nat) (member : EnumMember) (text : String), members[index]? = some member →
    member.initializer = some text → ∃ literal, literals[index]? = some literal ∧
      Literal.Writes (Text.trim text.toList) literal
  first : ∀ member : EnumMember, members[0]? = some member → member.initializer = none →
    literals[0]? = some (.number "0")
  next : ∀ (index : Nat) (member : EnumMember), members[index + 1]? = some member →
    member.initializer = none →
    ∃ previous n source, literals[index]? = some previous ∧ previous.IsWhole n ∧
      Number.wholeText? (n + 1) = some source ∧ literals[index + 1]? = some (.number source)


theorem Counts.length_eq (counts : Counts following members literals final) :
    literals.length = members.length := by
  induction counts with
  | nil => rfl
  | cons _ _ _ inductionHypothesis => rw [List.length_cons, List.length_cons, inductionHypothesis]

theorem Counts.writes (counts : Counts following members literals final) (index : Nat) {text : String}
    (isMember : members[index]? = some member) (given : member.initializer = some text) :
    ∃ literal, literals[index]? = some literal ∧ Literal.Writes (Text.trim text.toList) literal := by
  induction counts generalizing index with
  | nil => contradiction
  | cons takes _ _ inductionHypothesis =>
      cases index with
      | zero =>
          cases isMember
          exact ⟨_, rfl, (takes_of_initializer given).mp takes⟩
      | succ index => exact inductionHypothesis index isMember

theorem Counts.first (counts : Counts following members literals final) (isMember : members[0]? = some member)
    (absent : member.initializer = none) :
    ∃ n source, following = some n ∧ Number.wholeText? n = some source ∧
      literals[0]? = some (.number source) := by
  cases counts with
  | nil => contradiction
  | cons takes =>
      cases isMember
      obtain ⟨n, source, isNumber, written, rfl⟩ := (takes_of_none absent).mp takes
      exact ⟨n, source, isNumber, written, rfl⟩

theorem Counts.next (counts : Counts following members literals final) (index : Nat)
    (isMember : members[index + 1]? = some member) (absent : member.initializer = none) :
    ∃ previous n source, literals[index]? = some previous ∧ previous.IsWhole n ∧
      Number.wholeText? (n + 1) = some source ∧ literals[index + 1]? = some (.number source) := by
  induction counts generalizing index with
  | nil => contradiction
  | cons _ precedes others inductionHypothesis =>
      cases index with
      | zero =>
          obtain ⟨_, source, isNext, written, isNumber⟩ := others.first isMember absent
          cases precedes with
          | @whole own n writes =>
              cases isNext
              exact ⟨_, n, source, rfl, ⟨own, rfl, writes⟩, written, isNumber⟩
          | broken => cases isNext
      | succ index => exact inductionHypothesis index isMember

/-- Literals that count on from zero are values. -/
theorem Counts.areValues (counts : Counts (some 0) members literals final) : AreValues members literals where
  length := counts.length_eq
  written index _ _ isMember given := counts.writes index isMember given
  first _ isMember absent := by
    obtain ⟨_, source, ⟨⟩, written, isNumber⟩ := counts.first isMember absent
    have zero : Number.wholeText? 0 = some "0" := by decide +kernel
    cases written.symm.trans zero
    exact isNumber
  next index _ isMember absent := counts.next index isMember absent

/-- Reading the values comes to a member without an initializer whose number has too many digits to be written. -/
def Overruns (members : List EnumMember) : Prop :=
  ∃ n member, Reaches (some 0) members (some n) member ∧ member.initializer = none ∧
    10 ^ Number.maxDigits ≤ n.natAbs

/-- Where the initializers decode and are not too long, only a number to go on with is refused. -/
theorem Refuses.overrun_of_legible (refuses : member.Refuses following failure) (decodes : member.Decodes)
    (short : ¬member.IsLong) :
    failure = .wrongValue .longNumber ∧
      ∃ n, following = some n ∧ member.initializer = none ∧ 10 ^ Number.maxDigits ≤ n.natAbs := by
  cases refuses with
  | undecodable given refused =>
      obtain ⟨quoted, undecoded⟩ := Literal.parseValue_refused_iff.mp ⟨_, refused⟩
      exact absurd (decodes _ given quoted) undecoded
  | long given digits many => exact absurd ⟨_, given, _, digits, many⟩ short
  | overrun absent number large => exact ⟨rfl, _, number, absent, large⟩

theorem Reaches.mem (reaches : Reaches following members number member) : member ∈ members := by
  obtain ⟨front, rest, literals, rfl, -⟩ := reaches
  simp

theorem Overruns.values_eq (overruns : Overruns members) : values members = .error (.wrongValue .longNumber) := by
  obtain ⟨n, member, reaches, absent, large⟩ := overruns
  exact reaches.valuesFrom_of_refuses (.overrun absent rfl large)

theorem not_overruns_of_isOk (read : (values members).isOk = true) : ¬Overruns members := by
  intro overruns
  rw [overruns.values_eq] at read
  contradiction

theorem overruns_of_values_eq_error (legible : ∀ member ∈ members, member.Decodes ∧ ¬member.IsLong)
    (refused : values members = .error failure) : failure = .wrongValue .longNumber ∧ Overruns members := by
  obtain ⟨number, member, reaches, refuses⟩ := valuesFrom_eq_error_iff.mp refused
  obtain ⟨decodes, short⟩ := legible member reaches.mem
  obtain ⟨same, n, rfl, absent, large⟩ := refuses.overrun_of_legible decodes short
  exact ⟨same, n, member, reaches, absent, large⟩

theorem exists_values (legible : ∀ member ∈ members, member.Decodes ∧ ¬member.IsLong)
    (within : ¬Overruns members) : ∃ result, values members = .ok result := by
  cases read : values members with
  | ok result => exact ⟨result, rfl⟩
  | error failure => exact absurd (overruns_of_values_eq_error legible read).2 within

/-- The values of an enum whose quoted initializers decode, and whose decimal ones are not too long. They are refused
exactly if reading comes to a member without an initializer whose number is too long to be written. Otherwise there are
values, unless a member is computed, or a member without an initializer comes right after one whose initializer is no
whole numeral. -/
theorem values_of_decodes (legible : ∀ member ∈ members, member.Decodes ∧ ¬member.IsLong) :
    (∀ failure, values members = .error failure ↔
      failure = .wrongValue .longNumber ∧ Overruns members) ∧
    (¬Overruns members → (values members = .ok none ↔ Uncounted members) ∧
      (values members ≠ .ok none →
        ∃ literals, values members = .ok (some literals) ∧ AreValues members literals)) := by
  have refused_iff : ∀ failure, values members = .error failure ↔
      failure = .wrongValue .longNumber ∧ Overruns members := by
    refine fun failure => ⟨overruns_of_values_eq_error legible, ?_⟩
    rintro ⟨rfl, overruns⟩
    exact overruns.values_eq
  refine ⟨refused_iff, fun within => ⟨?_, fun someValues => ?_⟩⟩
  · exact valuesFrom_eq_none_iff fun failure refused => within ((refused_iff failure).mp refused).2
  · rcases counts_cases members (some 0) with
      ⟨literals, final, counts⟩ | ⟨number, member, reaches, lacks | ⟨failure, refuses⟩⟩
    · exact ⟨literals, counts.valuesFrom_eq, counts.areValues⟩
    · exact absurd (reaches.valuesFrom_of_lacks lacks) someValues
    · exact absurd ((refused_iff failure).mp (reaches.valuesFrom_of_refuses refuses)).2 within

theorem decodes_iff : member.Decodes ↔ ∀ text ∈ member.initializer,
    ∀ doubled ∈ Literal.quotedForm? (Text.trim text.toList), (Escape.decode doubled).isOk := by
  refine forall₂_congr fun text _ => ?_
  rw [Literal.inQuotes_iff]
  cases cut : Literal.quotedForm? (Text.trim text.toList) with
  | none => simp
  | some doubled =>
      simp only [Literal.quotes_iff, cut, Option.isSome_some, forall_const, Option.mem_def,
        Option.some.injEq, exists_eq_left', forall_eq']
      cases Escape.decode doubled with
      | ok value => simp [Except.isOk, Except.toBool]
      | error fault => simp [Except.isOk, Except.toBool]

instance (member : EnumMember) : Decidable member.Decodes := decidable_of_iff _ decodes_iff.symm

/-- Members of an enum with initializers of all kinds, and some without one. -/
def mixedMembers : List EnumMember :=
  [⟨"A", some "'x'", none, 1⟩, ⟨"B", some "0x1F", none, 2⟩, ⟨"C", none, none, 3⟩,
    ⟨"D", some "-1", none, 4⟩, ⟨"E", none, none, 5⟩, ⟨"F", none, none, 6⟩,
    ⟨"G", some "1.5", none, 7⟩, ⟨"H", some "+0b11", none, 8⟩, ⟨"I", none, none, 9⟩]


theorem not_isLong_of_length (short : ∀ text ∈ member.initializer, text.toList.length ≤ Number.maxDigits) :
    ¬member.IsLong := by
  rintro ⟨text, given, long⟩
  have trimmed : (Text.trim text.toList).length ≤ text.toList.length :=
    (Text.dropEndWhile_prefix _ _).length_le.trans (List.dropWhile_suffix _).length_le
  exact Numeral.not_isLong_of_length (trimmed.trans (short text given)) long

/-- Each count starts from the numeral before, in its own base. -/
theorem values_of_decodes_mixed :
    (∀ member ∈ mixedMembers, member.Decodes ∧ ¬member.IsLong) ∧ ¬Overruns mixedMembers ∧
      values mixedMembers = .ok (some [.text "x", .number "0x1F", .number "32", .number "-1",
        .number "0", .number "1", .number "1.5", .number "+0b11", .number "4"]) ∧
      AreValues mixedMembers [.text "x", .number "0x1F", .number "32", .number "-1",
        .number "0", .number "1", .number "1.5", .number "+0b11", .number "4"] := by
  have decodes : ∀ member ∈ mixedMembers, member.Decodes := by decide +kernel
  have legible : ∀ member ∈ mixedMembers, member.Decodes ∧ ¬member.IsLong := by
    refine fun member isMember => ⟨decodes member isMember, not_isLong_of_length ?_⟩
    revert member
    decide
  have read : values mixedMembers = .ok (some [.text "x", .number "0x1F", .number "32",
      .number "-1", .number "0", .number "1", .number "1.5", .number "+0b11", .number "4"]) := by
    decide +kernel
  obtain ⟨-, reads⟩ := values_of_decodes legible
  have within : ¬Overruns mixedMembers := not_overruns_of_isOk (by rw [read]; rfl)
  obtain ⟨literals, same, areValues⟩ := (reads within).2 (by rw [read]; nofun)
  cases read.symm.trans same
  exact ⟨legible, within, read, areValues⟩

example : values [⟨"A", some "'x'", none, 1⟩, ⟨"B", none, none, 2⟩] = .ok none := by decide +kernel

/-- A numeral in base sixteen: a one, and so many zeros. -/
def powerText (count : Nat) : String := String.ofList ("0x1".toList ++ List.replicate count '0')

theorem writes_powerText (count : Nat) : Numeral.Writes (powerText count).toList (16 ^ count) := by
  have zeros : Numeral.Digits (Numeral.digitBelow? 16) (List.replicate count '0')
      (List.replicate count 0) := by
    induction count with
    | zero => exact .nil
    | succ count inductionHypothesis => exact .cons (by decide) inductionHypothesis
  have digits : Numeral.Digits (Numeral.digitBelow? 16) ('1' :: List.replicate count '0')
      (1 :: List.replicate count 0) := .cons (by decide) zeros
  have writes := Numeral.Writes.radix .absent (by decide : Numeral.base? 'x' = some 16)
    (List.cons_ne_nil _ _) digits
  rw [List.reverse_cons, List.reverse_replicate, Nat.ofDigits_append, Nat.ofDigits_replicate_zero,
    List.length_replicate, Nat.ofDigits_singleton, Nat.zero_add, Nat.mul_one] at writes
  rw [powerText, String.toList_ofList]
  exact_mod_cast writes

theorem trim_powerText (count : Nat) : Text.trim (powerText count).toList = (powerText count).toList := by
  have bare : ∀ c ∈ (powerText count).toList, Text.isBlank c = false := by
    intro c isChar
    rw [powerText, String.toList_ofList, List.mem_append, List.mem_replicate] at isChar
    rcases isChar with inPrefix | ⟨-, rfl⟩
    · have noBlank : "0x1".toList.all (!Text.isBlank ·) = true := by decide
      simpa using List.all_eq_true.mp noBlank c inPrefix
    · decide
  exact Text.trim_of_hasBareEnds ⟨fun c first => bare c (List.mem_of_mem_head? first),
    fun c last => bare c (List.mem_of_getLast? last)⟩

theorem length_powerText (count : Nat) : (powerText count).toList.length = count + 3 := by
  simp [powerText]

/-- Members of which the second is to count on from such a numeral. -/
def powerMembers (count : Nat) : List EnumMember :=
  [⟨"A", some (powerText count), none, 1⟩, ⟨"B", none, none, 2⟩]

section

variable (count : Nat)

theorem writes_trim_powerText : Numeral.Writes (Text.trim (powerText count).toList) (16 ^ count) := by
  rw [trim_powerText]
  exact writes_powerText count

theorem decodes_powerMembers : ∀ member ∈ powerMembers count, member.Decodes := by
  rw [powerMembers, List.forall_mem_cons, List.forall_mem_singleton]
  refine ⟨?_, by simp [Decodes]⟩
  rintro _ ⟨⟩ quoted
  rw [Literal.inQuotes_iff,
    Literal.quotedForm?_of_spelled (Numeral.spelled_of_writes (writes_trim_powerText count))] at quoted
  contradiction

theorem not_uncounted_powerMembers : ¬Uncounted (powerMembers count) := by
  have writes := writes_trim_powerText count
  rw [powerMembers, uncounted_cons, uncounted_cons]
  rintro (computed | ⟨⟨_, ⟨⟩, breaksOff⟩, -⟩ | computed | ⟨-, _, impossible, -⟩ | none)
  · obtain ⟨_, ⟨⟩, -, unspelled⟩ := computed
    exact unspelled (Numeral.spelled_of_writes writes)
  · exact breaksOff _ writes
  · obtain ⟨_, impossible, -⟩ := computed
    cases impossible
  · cases impossible
  · simp [Uncounted] at none

theorem values_powerMembers (short : count + 3 ≤ Number.maxDigits)
    (large : 10 ^ Number.maxDigits ≤ 16 ^ count + 1) :
    values (powerMembers count) = .error (.wrongValue .longNumber) := by
  have writes := writes_trim_powerText count
  have isShort : ¬Numeral.IsLong (String.ofList (Text.trim (powerText count).toList)).toList := by
    rw [String.toList_ofList, trim_powerText]
    refine Numeral.not_isLong_of_length ?_
    rw [length_powerText]
    exact short
  rw [values, valuesFrom_eq_error_iff]
  refine ⟨some (16 ^ count + 1), ⟨"B", none, none, 2⟩, ⟨[⟨"A", some (powerText count), none, 1⟩], [], _, rfl,
    .cons (.number (Numeral.spelled_of_writes writes)) (.whole ?_ isShort) .nil⟩, .overrun rfl rfl ?_⟩
  · rwa [String.toList_ofList]
  · exact_mod_cast large

end

/-- Both members are legible, and the numeral has four thousand digits. None is computed, and the count is not broken
off. Still their values are refused, as the number after the first one is not written. -/
theorem not_values_of_decodes :
    (∀ member ∈ powerMembers 3999, member.Decodes) ∧ (powerText 3999).toList.length = 4002 ∧
      ¬Uncounted (powerMembers 3999) ∧
      values (powerMembers 3999) = .error (.wrongValue .longNumber) := by
  refine ⟨decodes_powerMembers 3999, length_powerText 3999, not_uncounted_powerMembers 3999, ?_⟩
  exact values_powerMembers 3999 (by decide) (by decide +kernel)

end EnumMember

end DeclaredOptions
