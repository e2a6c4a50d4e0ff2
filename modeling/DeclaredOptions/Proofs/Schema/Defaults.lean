import DeclaredOptions.Proofs.Literal.NumberValue
import DeclaredOptions.Proofs.Number.Worth
import DeclaredOptions.Proofs.Schema.MemberValues
import DeclaredOptions.Proofs.Schema.Resolution

/-!
Contract: which defaults fit a resolved descriptor.

Owns:
- the kinds of literals, and literals that agree by kind and value, however their numbers are spelled;
- the defaults that fit a descriptor, and the truth values that a choice lets pass besides;
- the check of a default, which refuses all others as a tag that cannot be read.

Does not own: how descriptors are resolved, and how defaults are read.
-/

set_option autoImplicit false

namespace DeclaredOptions

/-! ## Literals -/

namespace Literal

/-- The kind of a literal, unless it is a path. -/
def kind? : Literal → Option Scalar
  | .text _ => some .text
  | .number _ => some .number
  | .truth _ => some .truth
  | .path _ => none

def IsPlain (literal : Literal) : Prop := literal.kind? = some .text ∨ literal.kind? = some .number

/-- Literals of one kind with the same value: equal texts, or numbers that are worth the same. -/
inductive Agrees : Literal → Literal → Prop where
  | text (value : String) : Agrees (.text value) (.text value)
  | number {first second : String} {x y : NumberValue} {worth : Worth}
      (firstValue : Numeral.value first.toList = .ok x) (firstWorth : x.worth? = some worth)
      (secondValue : Numeral.value second.toList = .ok y) (secondWorth : y.worth? = some worth) :
      Agrees (.number first) (.number second)

theorem accepts_iff {s : Scalar} {literal : Literal} :
    s.accepts literal = true ↔ literal.kind? = some s := by
  cases s <;> cases literal <;> simp [Scalar.accepts, kind?]

theorem agrees_number_iff {first second : String} {x y : NumberValue}
    (firstValue : Numeral.value first.toList = .ok x)
    (secondValue : Numeral.value second.toList = .ok y) :
    Agrees (.number first) (.number second) ↔ x.same y = true := by
  have canonicalX := Numeral.canonical_of_value firstValue
  rw [NumberValue.same_iff canonicalX (Numeral.canonical_of_value secondValue)]
  constructor
  · intro agrees
    cases agrees with
    | number isX worthX isY worthY =>
        cases firstValue.symm.trans isX
        cases secondValue.symm.trans isY
        rw [worthX, worthY]
  · intro same
    obtain ⟨worth, isWorth⟩ := canonicalX.exists_worth
    exact .number firstValue isWorth secondValue (same ▸ isWorth)

/-- Texts and numbers agree with a value exactly if it is of their kind and the same. -/
theorem agrees_iff {literal value : Literal} {own other : Data}
    (plain : literal.IsPlain) (isOwn : literal.toData = .ok own) (isOther : value.toData = .ok other) :
    Agrees literal value ↔ literal.sameKind value = true ∧ own.same other = true := by
  have apart (differ : literal.sameKind value = false) (noPair : ¬Agrees literal value) :
      Agrees literal value ↔ literal.sameKind value = true ∧ own.same other = true := by
    rw [differ]
    exact iff_of_false noPair fun both => Bool.false_ne_true both.1
  cases literal with
  | text first =>
      cases value with
      | text second =>
          cases isOwn
          cases isOther
          have sameTexts : (Data.text first).same (.text second) = true ↔ first = second := by
            simp [Data.same]
          rw [sameTexts]
          constructor
          · rintro ⟨⟩
            exact ⟨rfl, rfl⟩
          · rintro ⟨-, rfl⟩
            exact .text first
      | _ => exact apart rfl nofun
  | number first =>
      obtain ⟨x, firstValue, rfl⟩ := toData_number_iff.mp isOwn
      cases value with
      | number second =>
          obtain ⟨y, secondValue, rfl⟩ := toData_number_iff.mp isOther
          have sameNumbers : (Data.number x).same (.number y) = x.same y := by
            simp [Data.same]
          rw [agrees_number_iff firstValue secondValue, sameNumbers]
          exact (and_iff_right rfl).symm
      | _ => exact apart rfl nofun
  | _ => simp [IsPlain, kind?] at plain

theorem isAmong_spec {literal : Literal} {own : Data} {values : List Literal}
    (plain : literal.IsPlain) (isOwn : literal.toData = .ok own)
    (valuesKnown : ∀ value ∈ values, ∃ data, value.toData = .ok data) :
    ∃ among, literal.isAmong values = .ok among ∧
      (among = true ↔ ∃ value ∈ values, Agrees literal value) := by
  have kept : ∀ value ∈ values.filter literal.sameKind, ∃ data, value.toData = .ok data :=
    fun value member => valuesKnown value (List.mem_filter.mp member).1
  obtain ⟨alike, ran⟩ := exists_mapM_eq_ok kept
  refine ⟨alike.any own.same, ?_, ?_⟩
  · unfold isAmong
    rw [ran, isOwn]
    rfl
  · rw [List.any_eq_true]
    constructor
    · rintro ⟨data, isData, same⟩
      obtain ⟨value, member, gives⟩ := exists_of_mapM_eq_ok ran data isData
      obtain ⟨isValue, sameKind⟩ := List.mem_filter.mp member
      exact ⟨value, isValue, (agrees_iff plain isOwn gives).mpr ⟨sameKind, same⟩⟩
    · rintro ⟨value, isValue, agrees⟩
      obtain ⟨data, gives⟩ := valuesKnown value isValue
      obtain ⟨sameKind, same⟩ := (agrees_iff plain isOwn gives).mp agrees
      obtain ⟨other, isOther, givesOther⟩ :=
        exists_result_of_mapM_eq_ok ran value (List.mem_filter.mpr ⟨isValue, sameKind⟩)
      cases gives.symm.trans givesOther
      exact ⟨data, isOther, same⟩

theorem isAmong_of_error {literal : Literal} {failure : Failure} {values : List Literal}
    (valuesKnown : ∀ value ∈ values, ∃ data, value.toData = .ok data)
    (unread : literal.toData = .error failure) : literal.isAmong values = .error failure := by
  have kept : ∀ value ∈ values.filter literal.sameKind, ∃ data, value.toData = .ok data :=
    fun value member => valuesKnown value (List.mem_filter.mp member).1
  obtain ⟨alike, ran⟩ := exists_mapM_eq_ok kept
  unfold isAmong
  rw [ran, unread]
  rfl

end Literal

/-! ## Descriptors -/

/-- The values that a descriptor lists, as far as they are known. -/
def Descriptor.values : Descriptor → List Literal
  | .choice _ (some values) => values
  | _ => []

namespace Literal

/-- A default fits a scalar or a list of scalars by its kind. It fits a choice as the path of a member or as the
value of one, and as any text or number if the values are unknown. -/
inductive Fits (literal : Literal) : Descriptor → Prop where
  | scalar {s : Scalar} (kind : literal.kind? = some s) : Fits literal (.scalar s)
  | list {s : Scalar} (kind : literal.kind? = some s) : Fits literal (.list s)
  | member {parts : List String} {members : List (List String)} {values : Option (List Literal)}
      (isPath : literal = .path parts) (isMember : parts ∈ members) : Fits literal (.choice members values)
  | value {members : List (List String)} {values : List Literal} {value : Literal}
      (isValue : value ∈ values) (agrees : Agrees literal value) :
      Fits literal (.choice members (some values))
  | unknown {members : List (List String)} (plain : literal.IsPlain) : Fits literal (.choice members none)

/-- A truth value stands for a default of a choice. -/
def IsStray (literal : Literal) (descriptor : Descriptor) : Prop :=
  literal.kind? = some .truth ∧ ∃ members values, descriptor = .choice members values

/-- A whole decimal number with too many digits to be compared with the values of a choice. -/
def Exceeds (literal : Literal) (descriptor : Descriptor) (count : Nat) : Prop :=
  ∃ source members values, literal = .number source ∧ descriptor = .choice members (some values) ∧
    Numeral.HasDigits source.toList count ∧ Number.maxDigits < count

/-- The outcomes of a check: it accepts what passes, and refuses the rest as the text of a tag. -/
def Checks (literal : Literal) (outcome : Except Failure Literal) (text : String) (passes : Prop) : Prop :=
  passes ∧ outcome = .ok literal ∨
    ¬passes ∧ ∃ reason, outcome = .error (.tag ⟨text, reason, some "default"⟩)

theorem checks_ite {literal : Literal} {condition : Bool} {passes : Prop} (text reason : String)
    (decides : condition = true ↔ passes) :
    Checks literal (if condition then .ok literal else refuseDefault text reason) text passes := by
  cases condition with
  | true => exact .inl ⟨decides.mp rfl, rfl⟩
  | false => exact .inr ⟨fun holds => Bool.false_ne_true (decides.mpr holds), reason, rfl⟩

theorem fitting_of_plain {literal : Literal} (plain : literal.IsPlain) (members : List (List String))
    (values : List Literal) (text : String) :
    literal.fitting (.choice members (some values)) text =
      (literal.isAmong values >>= fun among => if among then pure literal
        else refuseDefault text "not one of the declared choice values") := by
  cases literal with
  | path parts => simp [IsPlain, kind?] at plain
  | truth value => simp [IsPlain, kind?] at plain
  | _ => rfl

/-- A text or number passes for a choice whose values are unknown. -/
theorem checks_unknown {literal : Literal} (plain : literal.IsPlain) (members : List (List String))
    (text : String) :
    Checks literal (literal.fitting (.choice members none) text) text
      (literal.Fits (.choice members none) ∨ literal.IsStray (.choice members none)) := by
  refine .inl ⟨.inl (.unknown plain), ?_⟩
  cases literal with
  | path parts => simp [IsPlain, kind?] at plain
  | _ => rfl

/-- A text or number with a plain value passes for a choice where it agrees with a value. -/
theorem checks_known {literal : Literal} {own : Data} {values : List Literal} (plain : literal.IsPlain)
    (isOwn : literal.toData = .ok own) (valuesKnown : ∀ value ∈ values, ∃ data, value.toData = .ok data)
    (members : List (List String)) (text : String) :
    Checks literal (literal.fitting (.choice members (some values)) text) text
      (literal.Fits (.choice members (some values)) ∨ literal.IsStray (.choice members (some values))) := by
  obtain ⟨among, ran, isAmong⟩ := isAmong_spec plain isOwn valuesKnown
  rw [fitting_of_plain plain, ran]
  refine checks_ite text _ (isAmong.trans ⟨?_, ?_⟩)
  · rintro ⟨value, isValue, agrees⟩
    exact .inl (.value isValue agrees)
  · rintro (fits | ⟨isTruth, -⟩)
    · cases fits with
      | member isPath _ =>
          subst isPath
          simp [IsPlain, kind?] at plain
      | value isValue agrees => exact ⟨_, isValue, agrees⟩
    · rw [IsPlain, isTruth] at plain
      simp at plain

/-- A default passes the check if it fits the descriptor, or is a truth value for a choice; otherwise it is refused
as the text of its tag. -/
theorem checks_fitting {literal : Literal} {descriptor : Descriptor} (spelled : literal.Spelled)
    (valuesKnown : ∀ value ∈ descriptor.values, ∃ data, value.toData = .ok data)
    (within : ∀ count, ¬literal.Exceeds descriptor count) (text : String) :
    Checks literal (literal.fitting descriptor text) text
      (literal.Fits descriptor ∨ literal.IsStray descriptor) := by
  cases descriptor with
  | scalar s =>
      refine checks_ite text _ (accepts_iff.trans ⟨fun kind => .inl (.scalar kind), ?_⟩)
      rintro (⟨⟨⟩⟩ | ⟨-, _, _, impossible⟩)
      · assumption
      · cases impossible
  | list s =>
      refine checks_ite text _ (accepts_iff.trans ⟨fun kind => .inl (.list kind), ?_⟩)
      rintro (⟨⟨⟩⟩ | ⟨-, _, _, impossible⟩)
      · assumption
      · cases impossible
  | choice members values =>
      cases literal with
      | path parts =>
          refine checks_ite text _ (List.contains_iff_mem.trans ⟨fun member => .inl (.member rfl member), ?_⟩)
          rintro (fits | ⟨impossible, -⟩)
          · cases fits with
            | member isPath isMember =>
                cases isPath
                exact isMember
            | value isValue agrees => cases agrees
            | unknown plain => simp [IsPlain, kind?] at plain
          · cases impossible
      | truth value => exact .inl ⟨.inr ⟨rfl, members, values, rfl⟩, rfl⟩
      | text value =>
          cases values with
          | none => exact checks_unknown (.inl rfl) members text
          | some values => exact checks_known (.inl rfl) rfl valuesKnown members text
      | number source =>
          cases values with
          | none => exact checks_unknown (.inr rfl) members text
          | some values =>
              have short : ¬Numeral.IsLong source.toList := by
                rintro ⟨count, digits, many⟩
                exact within count ⟨source, members, values, rfl, rfl, digits, many⟩
              obtain ⟨own, isOwn⟩ := exists_toData_of_spelled (spelled source rfl) short
              exact checks_known (.inr rfl) isOwn valuesKnown members text

/-- A number that is too long to be compared is refused for its length. -/
theorem Exceeds.fitting_eq {literal : Literal} {descriptor : Descriptor} {count : Nat}
    (exceeds : literal.Exceeds descriptor count) (spelled : literal.Spelled)
    (valuesKnown : ∀ value ∈ descriptor.values, ∃ data, value.toData = .ok data) (text : String) :
    literal.fitting descriptor text = .error (.wrongValue (.longNumeral count)) := by
  obtain ⟨source, members, values, rfl, rfl, digits, many⟩ := exceeds
  have unread : (Literal.number source).toData = .error (.wrongValue (.longNumeral count)) :=
    (toData_number_error_iff (spelled source rfl)).mpr ⟨count, digits, many, rfl⟩
  have among : (Literal.number source).isAmong values = _ := isAmong_of_error valuesKnown unread
  rw [fitting_of_plain (.inr rfl), among]
  rfl

end Literal

/-! ## What is read and resolved -/

namespace Resolve

variable {scope : Option SourceFile} {context : MemberContext} {member : String}
  {declared : Option TypeExpr} {descriptor : Descriptor} {ref? : Option Reference}
  {start final : Session}

theorem exists_toData_of_typeOf
    (ends : Step.Ends (typeOf scope context member declared) start (.ok (descriptor, ref?)) final) :
    ∀ value ∈ descriptor.values, ∃ data, value.toData = .ok data := by
  rcases typeOf_cases ends with ⟨s, rfl⟩ | ⟨s, rfl⟩ | ⟨d, ref, middle, chosen⟩
  · simp [Descriptor.values]
  · simp [Descriptor.values]
  · obtain ⟨members, values, -, counted, same, -⟩ := ends_enumChoice_ok.mp chosen
    cases same
    cases values with
    | none => simp [Descriptor.values]
    | some values => exact EnumMember.exists_toData_of_valuesFrom counted

end Resolve

/-! ## Defaults of options -/

namespace Literal

variable {scope : Option SourceFile} {context : MemberContext} {member : String}
  {declared : Option TypeExpr} {descriptor : Descriptor} {ref? : Option Reference}
  {start final : Session}

/-- For a resolved type, the check of a default gives it back if it fits the type, or is a truth value for a choice;
any other default is refused as a tag that cannot be read. A whole decimal number that has too many digits to be
compared with the values of a choice is refused for them alone. -/
theorem checks_resolved
    (resolved : Step.Ends (Resolve.typeOf scope context member declared) start
      (.ok (descriptor, ref?)) final)
    {literal : Literal} (spelled : literal.Spelled) (text : String) :
    (∀ count, literal.Exceeds descriptor count →
      literal.fitting descriptor text = .error (.wrongValue (.longNumeral count))) ∧
    ((∀ count, ¬literal.Exceeds descriptor count) →
      Checks literal (literal.fitting descriptor text) text
        (literal.Fits descriptor ∨ literal.IsStray descriptor)) := by
  have valuesKnown := Resolve.exists_toData_of_typeOf resolved
  exact ⟨fun count exceeds => exceeds.fitting_eq spelled valuesKnown text,
    fun within => checks_fitting spelled valuesKnown within text⟩

/-- A project with an enum whose only member has a number with an exponent. -/
@[irreducible] def exponentProject : Project :=
  .ofTexts [("hue.ts", "export enum Hue{Red=1.6e1}")]

/-- The choice that the enum of that project stands for. -/
def hueChoice : Descriptor := .choice [["Hue", "Red"]] (some [.number "1.6e1"])

theorem exists_hueChoice :
    ∃ file ref? final, exponentProject.file? "hue.ts" = some file ∧
      Step.Ends (Resolve.typeOf (some file) .option "hue" (some (.ref "Hue" [])))
        ⟨exponentProject, []⟩ (.ok (hueChoice, ref?)) final := by
  have runs : (exponentProject.file? "hue.ts").any fun file =>
      ((Resolve.typeOf (some file) .option "hue" (some (.ref "Hue" []))).run.run
        ⟨exponentProject, []⟩).1.toOption.any fun found =>
          found.1.paths == [["Hue", "Red"]] && found.1.values == [.number "1.6e1"] := by
    decide +kernel
  obtain ⟨file, isFile, resolves⟩ := (Option.any_eq_true ..).mp runs
  obtain ⟨⟨descriptor, ref?⟩, final, ends, holds⟩ := Step.ends_of_check _ _ _ resolves
  have isChoice : descriptor = hueChoice := by
    simp only [Bool.and_eq_true, beq_iff_eq] at holds
    cases descriptor with
    | choice members values =>
        cases values with
        | none => exact absurd holds.2 nofun
        | some values =>
            obtain ⟨rfl, rfl⟩ : members = [["Hue", "Red"]] ∧ values = [.number "1.6e1"] := holds
            rfl
    | _ => exact absurd holds.2 nofun
  exact ⟨file, ref?, final, isFile, isChoice ▸ ends⟩

/-- A default in another spelling than that of the member's value passes. -/
theorem checks_resolved_spelling :
    ∃ file ref? final, exponentProject.file? "hue.ts" = some file ∧
      Step.Ends (Resolve.typeOf (some file) .option "hue" (some (.ref "Hue" [])))
        ⟨exponentProject, []⟩ (.ok (hueChoice, ref?)) final ∧
      (Literal.number "0x10").fitting hueChoice "0x10" = .ok (.number "0x10") ∧
      ((Literal.number "0x10").Fits hueChoice ∨ (Literal.number "0x10").IsStray hueChoice) := by
  obtain ⟨file, ref?, final, isFile, ends⟩ := exists_hueChoice
  have spelled : (Literal.number "0x10").Spelled :=
    @spelled_of_parse (some "0x10") none _ (by decide)
  have passes : ((Literal.number "0x10").fitting hueChoice "0x10").isOk = true := by decide
  have within : ∀ count, ¬(Literal.number "0x10").Exceeds hueChoice count := by
    rintro count ⟨_, _, _, ⟨⟩, -, digits, many⟩
    exact Numeral.not_isLong_of_length (by decide) ⟨count, digits, many⟩
  refine ⟨file, ref?, final, isFile, ends, ?_⟩
  rcases (checks_resolved ends spelled "0x10").2 within with ⟨fits, accepted⟩ | ⟨-, reason, refused⟩
  · exact ⟨accepted, fits⟩
  · rw [refused] at passes
    contradiction

/-- A truth value passes as a default of a type that resolves to a choice, which it does not fit. -/
theorem not_fits_truth :
    ∃ file ref? final, exponentProject.file? "hue.ts" = some file ∧
      Step.Ends (Resolve.typeOf (some file) .option "hue" (some (.ref "Hue" [])))
        ⟨exponentProject, []⟩ (.ok (hueChoice, ref?)) final ∧
      (Literal.truth true).fitting hueChoice "true" = .ok (.truth true) ∧
      ¬(Literal.truth true).Fits hueChoice := by
  obtain ⟨file, ref?, final, isFile, ends⟩ := exists_hueChoice
  refine ⟨file, ref?, final, isFile, ends, rfl, fun fits => ?_⟩
  cases fits with
  | member impossible _ => cases impossible
  | value _ agrees => cases agrees

end Literal

end DeclaredOptions
