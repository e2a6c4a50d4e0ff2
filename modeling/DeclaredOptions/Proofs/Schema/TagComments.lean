import DeclaredOptions.Schema.Members

/-!
Contract: what the schema of a member takes from documentation, which is the comments under a few names.

Owns:
- the comments that a block has under a name, and what is read of them alone;
- blocks that specify an option alike, whatever other tags they hold and however their tags are mixed;
- the equality of the schemas, and of the refusals, of members that are documented alike.

Does not own: what single comments mean.
-/

set_option autoImplicit false

namespace DeclaredOptions

/-! ## Comments under a name -/

/-- The comments of the tags of a name, in order; a missing block has none. -/
def commentsOf (block : Option DocBlock) (name : String) : List String :=
  (tagsOf block (.named name)).map (·.comment)

theorem comment_firstTag? (block : Option DocBlock) (name : String) :
    (firstTag? block name).map (·.comment) = (commentsOf block name).head? := by
  rw [firstTag?, commentsOf, List.head?_map]

theorem isEmpty_tagsOf (block : Option DocBlock) (name : String) :
    (tagsOf block (.named name)).isEmpty = (commentsOf block name).isEmpty := by
  rw [commentsOf, List.isEmpty_map]

/-- The text for a parameter is looked for in the comments under one name. -/
theorem paramDoc?_eq_findSome?_comments (block : Option DocBlock) (name : String) :
    paramDoc? block name = (commentsOf block "param").findSome? fun comment =>
      if (paramTag comment).1 == some name then some (paramTag comment).2 else none := by
  rw [commentsOf, List.findSome?_map]
  rfl

/-- Blocks specify an option alike under some demand tags: they have the same description, and under each name that
is read for an option the same comments in the same order. -/
structure DocBlock.SpecifyAlike (demandTags : List Data) (a b : DocBlock) : Prop where
  description : a.description = b.description
  otherNames : commentsOf (some a) "alias" = commentsOf (some b) "alias"
  defaults : commentsOf (some a) "default" = commentsOf (some b) "default"
  demands : ∀ name, Data.text name ∈ demandTags → commentsOf (some a) name = commentsOf (some b) name

namespace Resolve

/-- The other name is read of the first comment under its tag. -/
theorem otherNameOf_eq (block : Option DocBlock) :
    otherNameOf block =
      match (commentsOf block "alias").head? with
      | none => pure none
      | some comment => some <$> ofTag (Literal.parseAlias comment) := by
  rw [← comment_firstTag?, otherNameOf]
  cases firstTag? block "alias" <;> rfl

/-- The default is read of the first comment under its tag. -/
theorem defaultOf_eq (block : Option DocBlock) (descriptor : Descriptor) :
    defaultOf block descriptor =
      match (commentsOf block "default").head? with
      | none => pure none
      | some comment => ofTag (Literal.parse (some comment) (some "default")) >>= fun literal =>
        some <$> ofExcept (literal.fitting descriptor comment) := by
  rw [← comment_firstTag?, defaultOf]
  cases firstTag? block "default" <;> rfl

/-- A name demands an option where there is a comment under it. -/
theorem isDemanded_text (block : DocBlock) (name : String) (rest : List Data) :
    isDemanded (some block) (.text name :: rest) =
      if (commentsOf (some block) name).isEmpty then isDemanded (some block) rest else .ok true := by
  rw [← isEmpty_tagsOf]
  rfl

/-- A demand tag that is no name is refused, and so is one that cannot be shown. -/
theorem isDemanded_other {tag : Data} (notText : ∀ name, tag ≠ .text name) (block : DocBlock)
    (rest : List Data) :
    isDemanded (some block) (tag :: rest) =
      tag.shown >>= fun shown => .error (.unsupportedSelector shown) := by
  rw [isDemanded, tagsOfChecked]
  · cases tag.shown <;> rfl
  · exact notText

/-- Tags that are no names are refused alike in all blocks, so that only the comments under names count. -/
theorem isDemanded_congr {a b : DocBlock} {demandTags : List Data}
    (same : ∀ name, Data.text name ∈ demandTags → commentsOf (some a) name = commentsOf (some b) name) :
    isDemanded (some a) demandTags = isDemanded (some b) demandTags := by
  induction demandTags with
  | nil => rfl
  | cons tag rest inductionHypothesis =>
      have sameRest := inductionHypothesis fun name member => same name (List.mem_cons_of_mem _ member)
      cases tag with
      | text name =>
          rw [isDemanded_text, isDemanded_text, same name List.mem_cons_self, sameRest]
      | _ => rw [isDemanded_other (by simp), isDemanded_other (by simp)]

/-! ## Members -/

theorem option_eq_of_specifyAlike (file : Option SourceFile) {demandTags : List Data} (property : Property)
    {a b : DocBlock} (alike : DocBlock.SpecifyAlike demandTags a b) :
    option file demandTags { property with doc := some a } =
      option file demandTags { property with doc := some b } := by
  have otherName : otherNameOf (some a) = otherNameOf (some b) := by
    rw [otherNameOf_eq, otherNameOf_eq, alike.otherNames]
  have default (descriptor : Descriptor) :
      defaultOf (some a) descriptor = defaultOf (some b) descriptor := by
    rw [defaultOf_eq, defaultOf_eq, alike.defaults]
  have demanded : isDemanded (some a) demandTags = isDemanded (some b) demandTags :=
    isDemanded_congr alike.demands
  have summary : summaryOf (some a) = summaryOf (some b) := by
    rw [summaryOf, summaryOf, DocBlock.summary, DocBlock.summary, alike.description]
  unfold option
  dsimp only
  simp only [otherName, default, demanded, summary]

theorem positional_eq_of_comments (file : Option SourceFile) (d : Declaration) (parameter : Parameter)
    {a b : Option DocBlock} (same : commentsOf a "param" = commentsOf b "param") :
    positional ⟨file, some { d with doc := a }⟩ parameter =
      positional ⟨file, some { d with doc := b }⟩ parameter := by
  have text : paramDoc? a parameter.name = paramDoc? b parameter.name := by
    rw [paramDoc?_eq_findSome?_comments, paramDoc?_eq_findSome?_comments, same]
  unfold positional
  dsimp only [Option.bind_some]
  rw [text]

/-- From every session, a property has the same schema or the same refusal under blocks that specify it alike, and so
has a parameter of a function under blocks with the same parameter tags. The same warnings are left behind. -/
theorem member_of_alike :
    (∀ (file : Option SourceFile) (demandTags : List Data) (property : Property) (a b : DocBlock),
      DocBlock.SpecifyAlike demandTags a b →
        ∀ session, (option file demandTags { property with doc := some a }).run.run session =
          (option file demandTags { property with doc := some b }).run.run session) ∧
    ∀ (file : Option SourceFile) (d : Declaration) (parameter : Parameter) (a b : Option DocBlock),
      commentsOf a "param" = commentsOf b "param" →
        ∀ session, (positional ⟨file, some { d with doc := a }⟩ parameter).run.run session =
          (positional ⟨file, some { d with doc := b }⟩ parameter).run.run session := by
  constructor
  · intro file demandTags property a b alike session
    rw [option_eq_of_specifyAlike file property alike]
  · intro file d parameter a b same session
    rw [positional_eq_of_comments file d parameter same]

/-- A block with two other names, a default, a demand and a text for a parameter. -/
def loudBlock : DocBlock :=
  ⟨"Loud.", [⟨"alias", "l", 2⟩, ⟨"param", "loud - how", 3⟩, ⟨"default", "'no'", 4⟩,
    ⟨"alias", "loud-er", 5⟩, ⟨"require", "", 6⟩], 1⟩

/-- The same tags in another order and other places, with another one between them. -/
def mixedBlock : DocBlock :=
  ⟨"Loud.", [⟨"require", "", 12⟩, ⟨"alias", "l", 13⟩, ⟨"see", "quiet", 14⟩,
    ⟨"alias", "loud-er", 15⟩, ⟨"default", "'no'", 16⟩, ⟨"param", "loud - how", 17⟩], 11⟩

def loudOption : OptionSchema :=
  { OptionSchema.named "loud" with
    type := some (.text "string"), description := some (.text "Loud."), otherName := some (.text "l"),
    default := some (.text "no"), demand := some (.truth true) }

def loudPositional : OptionSchema :=
  { OptionSchema.named "loud" with
    type := some (.text "string"), description := some (.text "how"), demand := some (.text "true") }

def blankSession : Session := ⟨.empty (.empty []) false, []⟩

/-- What is made of the one block is made of the other. -/
theorem member_of_alike_loud :
    loudBlock ≠ mixedBlock ∧ DocBlock.SpecifyAlike Config.usualDemandTags loudBlock mixedBlock ∧
      commentsOf (some loudBlock) "param" = commentsOf (some mixedBlock) "param" ∧
      (option none Config.usualDemandTags ⟨"loud", none, true, some mixedBlock, 7⟩).run.run blankSession =
        (.ok (loudOption, none), blankSession) ∧
      (positional ⟨none, some ⟨"f", some mixedBlock, .named, none, 1, 7, none, .function []⟩⟩
          ⟨"loud", none, false, none, false, 7⟩).run.run blankSession =
        (.ok (loudPositional, none), blankSession) := by
  have alike : DocBlock.SpecifyAlike Config.usualDemandTags loudBlock mixedBlock := by
    refine ⟨rfl, rfl, rfl, fun name member => ?_⟩
    simp only [Config.usualDemandTags, List.mem_cons, List.not_mem_nil, or_false, Data.text.injEq] at member
    rcases member with rfl | rfl | rfl <;> rfl
  have same : commentsOf (some loudBlock) "param" = commentsOf (some mixedBlock) "param" := rfl
  refine ⟨by decide, alike, same, ?_, ?_⟩
  · refine (member_of_alike.1 none _ ⟨"loud", none, true, none, 7⟩ _ _ alike blankSession).symm.trans ?_
    rfl
  · refine (member_of_alike.2 none ⟨"f", none, .named, none, 1, 7, none, .function []⟩ _ _ _ same
      blankSession).symm.trans ?_
    rfl

end Resolve

end DeclaredOptions
