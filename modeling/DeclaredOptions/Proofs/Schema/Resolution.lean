import DeclaredOptions.Proofs.Literal.Grammar
import DeclaredOptions.Proofs.Project.Failing
import DeclaredOptions.Proofs.Project.Reachable
import DeclaredOptions.Proofs.Schema.MemberValues

/-!
Contract: what the declared types of members resolve to.

Owns:
- the steps of resolution, which move the project and keep its files;
- references to enums and choices of their members, with what they leave in a session;
- descriptors with paths, which come from an enum of the project, together with the reference to it;
- the first part of a member path, which is the name of its enum.

Does not own: documentation, and the schemas of members.
-/

set_option autoImplicit false

namespace DeclaredOptions

/-! ## Member paths -/

/-- A path that is read off a text has its pieces as parts. -/
theorem Literal.parts_of_parse {text tag : Option String} {parts : List String}
    (read : Literal.parse text tag = .ok (.path parts)) :
    parts = (Text.pieces '.' (Text.trim (text.getD "").toList)).map String.ofList := by
  have reads := Literal.parse_eq_ok_iff.mp read
  generalize Text.trim (text.getD "").toList = fragment at reads
  cases reads with
  | path nonempty names _ =>
      rw [Text.pieces_join nonempty fun part member => Literal.dot_not_mem_of_isName (names part member)]

/-- The path of a member begins with the name of its enum, if that is a word. -/
theorem EnumMember.head_path {enum : String} (word : Source.IsWord enum.toList)
    {member : EnumMember} {parts : List String} (named : member.path enum = .ok parts) :
    parts.head? = some enum := by
  unfold EnumMember.path Literal.qualifiedName at named
  dsimp only at named
  cases read : Literal.parse (some (Text.joined "." [enum, member.name])) none with
  | error refusal =>
      rw [read] at named
      contradiction
  | ok literal =>
      rw [read] at named
      cases literal with
      | path own =>
          cases named
          have whole : (Text.joined "." [enum, member.name]).toList =
              enum.toList ++ '.' :: member.name.toList := by
            simp [Text.joined, Text.join]
          rw [Literal.parts_of_parse read, Option.getD_some, whole,
            Text.trim_append_cons (by decide) word.head_bare,
            Text.pieces_append_separator word.dot_not_mem, List.map_cons, List.head?_cons,
            String.ofList_toList]
      | _ => contradiction

namespace Descriptor

/-- The member paths that a descriptor lists. -/
def paths : Descriptor → List (List String)
  | .choice members _ => members
  | _ => []

end Descriptor

/-- What the type of a member resolves to in a project: a descriptor without paths, or the members of an
enum of the project with the reference to it. -/
inductive Resolved (project : Project) : Descriptor → Option Reference → Prop where
  | plain {descriptor : Descriptor} (noPaths : descriptor.paths = []) :
      Resolved project descriptor none
  | enumeration {d : Declaration} {members : List (List String)} {values : Option (List Literal)}
      (declared : d ∈ project.declared) (isEnum : d.isEnum)
      (listed : d.enumMembers.mapM (EnumMember.path (d.name.getD "")) = .ok members) :
      Resolved project (.choice members values) (some (.toEnum d))

namespace Resolved

variable {project : Project} {descriptor : Descriptor} {ref? : Option Reference}

/-- The paths of a descriptor begin with the name of the reference it comes with. -/
theorem head_paths (sound : project.Sound) (resolved : Resolved project descriptor ref?) :
    ∀ parts ∈ descriptor.paths, ∃ ref, ref? = some ref ∧ parts.head? = some ref.name := by
  cases resolved with
  | plain noPaths =>
      rw [noPaths]
      simp
  | @enumeration d members values declared isEnum listed =>
      intro parts member
      refine ⟨.toEnum d, rfl, ?_⟩
      obtain ⟨enumMember, -, named⟩ := exists_of_mapM_eq_ok listed parts member
      obtain ⟨name, nameEq, word⟩ := (sound.wellNamed d declared).enum isEnum
      rw [nameEq, Option.getD_some] at named
      rw [EnumMember.head_path word named, Reference.toEnum, Reference.toDeclaration_name, nameEq,
        Option.getD_some]

/-- The reference of a type is to an enum of the project. -/
theorem reference_eq (resolved : Resolved project descriptor ref?) {ref : Reference}
    (isRef : ref? = some ref) : ∃ d ∈ project.declared, d.isEnum ∧ ref = .toEnum d := by
  cases resolved with
  | plain noPaths => contradiction
  | @enumeration d members values declared isEnum listed =>
      exact ⟨d, declared, isEnum, (Option.some.inj isRef).symm⟩

theorem leads {next : Project} (resolved : Resolved project descriptor ref?)
    (leads : Project.Leads project next) : Resolved next descriptor ref? := by
  cases resolved with
  | plain noPaths => exact .plain noPaths
  | enumeration declared isEnum listed =>
      exact .enumeration (Project.declared_leads leads declared) isEnum listed

end Resolved

namespace Resolve

/-- Resolution leads from one session to another if the moves of the project do. -/
def Leads (start final : Session) : Prop := Project.Leads start.project final.project

theorem leads_refl (session : Session) : Leads session session := Project.leads_refl _

theorem leads_trans ⦃a b c : Session⦄ (first : Leads a b) (second : Leads b c) : Leads a c :=
  Project.leads_trans first second

variable {σ α : Type}

theorem ends_ofExcept {result : Except Failure α} {start final : Session} {outcome : Except Failure α} :
    Step.Ends (ofExcept result) start outcome final ↔ outcome = result ∧ final = start := by
  cases result with
  | ok value => exact Step.ends_pure
  | error failure => exact Step.ends_throw

theorem ends_ofExcept_ok {result : Except Failure α} {value : α} {start final : Session} :
    Step.Ends (ofExcept result) start (.ok value) final ↔ result = .ok value ∧ final = start := by
  rw [ends_ofExcept, eq_comm]

theorem ends_ofTag_ok {result : Except TagRefusal α} {value : α} {start final : Session} :
    Step.Ends (ofTag result) start (.ok value) final ↔ result = .ok value ∧ final = start := by
  cases result with
  | ok found =>
      refine Step.ends_pure.trans ?_
      simp [eq_comm]
  | error refusal =>
      refine Step.ends_throw.trans ?_
      simp

theorem keeps_ofTag_bind {β : Type} {before : Session → Prop} {after : β → Session → Prop}
    {result : Except TagRefusal α} {next : α → Resolve β}
    (rest : ∀ value, result = .ok value → Step.Keeps Leads before (next value) after) :
    Step.Keeps Leads before (ofTag result >>= next) after := by
  cases result with
  | ok value => exact rest value rfl
  | error refusal => exact Step.keeps_throw leads_refl

theorem keeps_ofExcept_bind {β : Type} {before : Session → Prop} {after : β → Session → Prop}
    {result : Except Failure α} {next : α → Resolve β}
    (rest : ∀ value, result = .ok value → Step.Keeps Leads before (next value) after) :
    Step.Keeps Leads before (ofExcept result >>= next) after := by
  cases result with
  | ok value => exact rest value rfl
  | error failure => exact Step.keeps_throw leads_refl

/-- A step of the project ends as it does alone, and leaves the warnings as they are. -/
theorem ends_onProject {step : ProjectStep α} {start final : Session} {outcome : Except Failure α}
    (ends : Step.Ends (onProject step) start outcome final) :
    Step.Ends step start.project outcome final.project ∧ final.warnings = start.warnings := by
  unfold onProject at ends
  have rest := Step.ends_get_bind.mp ends
  obtain ⟨result, project, ran⟩ := Step.ends_exists step start.project
  have runs : step.run.run start.project = (result, project) := ran
  rw [runs] at rest
  have last := Step.ends_set_bind.mp rest
  cases result with
  | ok value =>
      obtain ⟨rfl, rfl⟩ := Step.ends_pure.mp last
      exact ⟨ran, rfl⟩
  | error failure =>
      obtain ⟨rfl, rfl⟩ := Step.ends_throw.mp last
      exact ⟨ran, rfl⟩

/-- A step of the project leads a session where it leads the project. -/
theorem keeps_onProject {before : Project → Prop} {after : α → Project → Prop}
    {step : ProjectStep α} (keeps : Step.Keeps Project.Leads before step after) :
    Step.Keeps Leads (fun session => before session.project) (onProject step)
      fun value session => after value session.project := by
  intro start outcome final starts ends
  exact keeps starts (ends_onProject ends).1

/-! ## Types -/

/-- A reference to an enum is made in any case; that to one that is not exported comes with a warning. -/
theorem ends_enumReference {d : Declaration} {start final : Session}
    {outcome : Except Failure Reference} :
    Step.Ends (enumReference d) start outcome final ↔
      outcome = .ok (.toEnum d) ∧
        final = { start with
          warnings := start.warnings ++
            if d.exportKind = .none then [⟨d.name.getD "", d.source.getD ""⟩] else [] } := by
  unfold enumReference
  dsimp only
  by_cases unexported : d.exportKind = .none
  · rw [if_pos (beq_iff_eq.mpr unexported), if_pos unexported]
    exact Step.ends_pure
  · rw [if_neg (mt beq_iff_eq.mp unexported), if_neg unexported, List.append_nil]
    exact Step.ends_pure

/-- A choice lists the paths and the values of an enum's members, and comes with the reference to the enum. -/
theorem ends_enumChoice_ok {d : Declaration} {start final : Session}
    {choice : Descriptor × Reference} :
    Step.Ends (enumChoice d) start (.ok choice) final ↔
      ∃ members values, d.enumMembers.mapM (EnumMember.path (d.name.getD "")) = .ok members ∧
        EnumMember.values d.enumMembers = .ok values ∧
        choice = (.choice members values, .toEnum d) ∧
        Step.Ends (enumReference d) start (.ok (.toEnum d)) final := by
  unfold enumChoice
  simp only [Step.ends_bind_ok, ends_ofTag_ok, ends_ofExcept_ok, Step.ends_pure, ends_enumReference]
  constructor
  · rintro ⟨members, _, ⟨listed, rfl⟩, values, _, ⟨read, rfl⟩, ref, _, ⟨same, rfl⟩, chosen, rfl⟩
    cases same
    exact ⟨members, values, listed, read, Except.ok.inj chosen, trivial, rfl⟩
  · rintro ⟨members, values, listed, read, rfl, -, rfl⟩
    exact ⟨members, start, ⟨listed, rfl⟩, values, start, ⟨read, rfl⟩, .toEnum d, _, ⟨rfl, rfl⟩, rfl, rfl⟩

theorem keeps_enumReference (d : Declaration) (condition : Project → Prop) :
    Step.Keeps Leads (fun session => condition session.project) (enumReference d)
      fun ref session => ref = .toEnum d ∧ condition session.project := by
  intro start outcome final starts ends
  obtain ⟨rfl, rfl⟩ := ends_enumReference.mp ends
  refine ⟨leads_refl start, ?_⟩
  rintro _ ⟨⟩
  exact ⟨rfl, starts⟩

theorem keeps_enumChoice (d : Declaration) :
    Step.Keeps Leads (fun session => d.isEnum ∧ d ∈ session.project.declared) (enumChoice d)
      fun choice session => Resolved session.project choice.1 (some choice.2) := by
  unfold enumChoice
  refine keeps_ofTag_bind fun members listed => keeps_ofExcept_bind fun values _ => ?_
  refine Step.keeps_bind leads_trans
    (keeps_enumReference d fun project => d.isEnum ∧ d ∈ project.declared) fun ref => ?_
  refine Step.keeps_pure leads_refl ?_
  rintro session ⟨rfl, isEnum, declared⟩
  exact .enumeration declared isEnum listed

/-- The enum that a type names is one of the project. -/
theorem keeps_enum? (scope : Option SourceFile) (type : TypeExpr) :
    Step.Keeps Leads (fun session => ∀ file ∈ scope, file ∈ session.project.files)
      (enum? scope type)
      fun found session => ∀ d ∈ found, d.isEnum ∧ d ∈ session.project.declared := by
  unfold enum?
  split
  · rename_i file name
    split
    · exact Step.keeps_pure leads_refl (by simp)
    · refine Step.keeps_bind leads_trans
        (Step.keeps_from (keeps_onProject (Project.keeps_type? file name))
          fun session registered => registered file rfl) fun found => ?_
      refine Step.keeps_pure leads_refl ?_
      intro session declared d kept
      obtain ⟨member, isEnum⟩ := Option.mem_filter_iff.mp kept
      exact ⟨isEnum, declared d member⟩
  · exact Step.keeps_pure leads_refl (by simp)

/-- What a declared type resolves to is plain, or comes from an enum of the project. -/
theorem keeps_typeOf (scope : Option SourceFile) (context : MemberContext) (member : String)
    (declared : Option TypeExpr) :
    Step.Keeps Leads (fun session => ∀ file ∈ scope, file ∈ session.project.files)
      (typeOf scope context member declared)
      fun found session => Resolved session.project found.1 found.2 := by
  unfold typeOf
  split
  · exact Step.keeps_pure leads_refl fun _ _ => .plain rfl
  · rename_i type _
    refine Step.keeps_ite (fun _ => Step.keeps_pure leads_refl fun _ _ => .plain rfl) fun _ => ?_
    split
    · exact Step.keeps_pure leads_refl fun _ _ => .plain rfl
    · split
      · exact Step.keeps_pure leads_refl fun _ _ => .plain rfl
      · exact Step.keeps_throw leads_refl
    · refine Step.keeps_bind leads_trans (keeps_enum? scope type) fun found => ?_
      split
      · rename_i d
        refine Step.keeps_bind leads_trans
          (Step.keeps_from (keeps_enumChoice d) fun _ holds => holds d rfl) fun choice => ?_
        exact Step.keeps_pure leads_refl fun _ resolved => resolved
      · exact Step.keeps_throw leads_refl

/-- A type resolves to a scalar, to a list of scalars, or to the choice of an enum. -/
theorem typeOf_cases {scope : Option SourceFile} {context : MemberContext} {member : String}
    {declared : Option TypeExpr} {descriptor : Descriptor} {ref? : Option Reference}
    {start final : Session}
    (ends : Step.Ends (typeOf scope context member declared) start (.ok (descriptor, ref?)) final) :
    (∃ s, descriptor = .scalar s) ∨ (∃ s, descriptor = .list s) ∨
      ∃ d ref middle, Step.Ends (enumChoice d) middle (.ok (descriptor, ref)) final := by
  unfold typeOf at ends
  split at ends
  · cases (Step.ends_pure.mp ends).1
    exact .inl ⟨_, rfl⟩
  · rcases Step.ends_ite ends with isText | ends
    · cases (Step.ends_pure.mp isText).1
      exact .inl ⟨_, rfl⟩
    · split at ends
      · cases (Step.ends_pure.mp ends).1
        exact .inl ⟨_, rfl⟩
      · split at ends
        · cases (Step.ends_pure.mp ends).1
          exact .inr (.inl ⟨_, rfl⟩)
        · cases (Step.ends_throw.mp ends).1
      · obtain ⟨found, middle, -, rest⟩ := Step.ends_bind_ok.mp ends
        cases found with
        | none => cases (Step.ends_throw.mp rest).1
        | some d =>
            obtain ⟨choice, last, chosen, ending⟩ := Step.ends_bind_ok.mp rest
            obtain ⟨same, rfl⟩ := Step.ends_pure.mp ending
            cases same
            exact .inr (.inr ⟨d, choice.2, middle, chosen⟩)

/-! ## Refusals -/

theorem ends_ofTag_error {result : Except TagRefusal α} {failure : Failure} {start final : Session}
    (failed : Step.Ends (ofTag result) start (.error failure) final) : ∃ refusal, failure = .tag refusal := by
  cases result with
  | ok value => exact nomatch (Step.ends_pure.mp failed).1
  | error refusal =>
      cases (Step.ends_throw.mp failed).1
      exact ⟨refusal, rfl⟩

/-- The choice of an enum fails only with the refusal of a member's name or value. -/
theorem failsOnly_enumChoice (d : Declaration) :
    Step.FailsOnly (fun failure => (∃ refusal, failure = .tag refusal) ∨ ∃ fault, failure = .wrongValue fault)
      (enumChoice d) := by
  refine Step.failsOnly_bind (fun _ _ _ failed => .inl (ends_ofTag_error failed)) fun members => ?_
  refine Step.failsOnly_bind ?_ fun values => ?_
  · intro start failure final failed
    obtain ⟨number, member, -, refuses⟩ :=
      EnumMember.valuesFrom_eq_error_iff.mp (ends_ofExcept.mp failed).1.symm
    cases refuses with
    | undecodable => exact .inl ⟨_, rfl⟩
    | long => exact .inr ⟨_, rfl⟩
    | overrun => exact .inr ⟨_, rfl⟩
  · refine Step.failsOnly_bind ?_ fun ref => Step.failsOnly_pure
    intro start failure final failed
    exact nomatch (ends_enumReference.mp failed).1

theorem failsOnly_enum? (scope : Option SourceFile) (type : TypeExpr) :
    Step.FailsOnly (·.isOfSource = true) (enum? scope type) := by
  unfold enum?
  split
  · split
    · exact Step.failsOnly_pure
    · refine Step.failsOnly_bind ?_ fun found => Step.failsOnly_pure
      intro start failure final failed
      exact Project.failsOnly_type? _ _ (ends_onProject failed).1
  · exact Step.failsOnly_pure

/-- A type fails to resolve for a source that cannot be read, for a member of its enum, or as such: it is an array of
no scalars, or no type of an option at all. -/
theorem typeOf_refused_cases {scope : Option SourceFile} {context : MemberContext} {member : String}
    {declared : Option TypeExpr} {failure : Failure} {start final : Session}
    (failed : Step.Ends (typeOf scope context member declared) start (.error failure) final) :
    failure.isOfSource = true ∨
      ((∃ refusal, failure = .tag refusal) ∨ ∃ fault, failure = .wrongValue fault) ∨
      ∃ type, declared.map TypeExpr.withoutNullish = some type ∧
        ((∃ element, type.element? = some element ∧
          failure = .unsupportedElement context element.shown (some member)) ∨
        failure = .unsupportedType context type.shown (suggestions scope type)) := by
  unfold typeOf at failed
  split at failed
  · exact nomatch (Step.ends_pure.mp failed).1
  · rename_i type stripped
    rcases Step.ends_ite failed with isText | failed
    · exact nomatch (Step.ends_pure.mp isText).1
    · split at failed
      · exact nomatch (Step.ends_pure.mp failed).1
      · rename_i element _ isArray
        split at failed
        · exact nomatch (Step.ends_pure.mp failed).1
        · cases (Step.ends_throw.mp failed).1
          exact .inr (.inr ⟨type, stripped, .inl ⟨element, isArray, rfl⟩⟩)
      · rcases Step.ends_bind.mp failed with ⟨other, unread, same⟩ | ⟨found, middle, -, rest⟩
        · cases same
          exact .inl (failsOnly_enum? _ _ unread)
        · cases found with
          | none =>
              cases (Step.ends_throw.mp rest).1
              exact .inr (.inr ⟨type, stripped, .inr rfl⟩)
          | some d =>
              rcases Step.ends_bind.mp rest with ⟨other, refused, same⟩ | ⟨choice, last, -, ending⟩
              · cases same
                exact .inr (.inl (failsOnly_enumChoice d refused))
              · exact nomatch (Step.ends_pure.mp ending).1

end Resolve

end DeclaredOptions
