import DeclaredOptions.Proofs.Path.Joined

/-!
Contract: which import specifiers read as relative ones.

Owns:
- specifiers that open with a step, those that are nothing but steps, and the components by which a path is either;
- the ways from one place to another, by where the two places stand, and those of them that open with no step;
- the source paths that have no specifier.

Does not own: where a specifier leads.

A way is put behind `./` unless it starts with a dot, as a step up does. The place itself and the place above it are
single steps without a slash, and a name may start with a dot as well, so these ways are left without one.
-/

set_option autoImplicit false

namespace DeclaredOptions.Path

/-! ## Steps -/

/-- A specifier that any resolver takes for a relative one. -/
def OpensWithStep (specifier : String) : Prop :=
  specifier.startsWith "./" = true ∨ specifier.startsWith "../" = true

instance (specifier : String) : Decidable (OpensWithStep specifier) :=
  inferInstanceAs (Decidable (_ ∨ _))

/-- A specifier that names a directory only, by the steps that lead to it. -/
def StepsAlone (specifier : String) : Prop := ∀ part ∈ components specifier, part = "." ∨ part = ".."

instance (specifier : String) : Decidable (StepsAlone specifier) :=
  inferInstanceAs (Decidable (∀ part ∈ components specifier, _))

theorem ofComponents_cons_cons (first next : String) (rest : List String) :
    ofComponents (first :: next :: rest) = first ++ "/" ++ ofComponents (next :: rest) := by
  rw [← String.toList_inj, String.toList_append, String.toList_append, toList_ofComponents,
    toList_ofComponents, List.map_cons, Text.join_cons_of_ne_nil _ _ (by simp)]
  rfl

section

variable {parts : List String} (nonempty : parts ≠ []) (bare : ∀ part ∈ parts, '/' ∉ part.toList)

include nonempty bare

/-- A path opens with a component and a slash exactly if this is its first one and others follow. -/
theorem startsWith_slash_iff {first : String} (bareFirst : '/' ∉ first.toList) :
    (ofComponents parts).startsWith (first ++ "/") = true ↔
      ∃ next rest, parts = first :: next :: rest := by
  rw [String.startsWith_string_iff]
  constructor
  · rintro ⟨behind, chars⟩
    have whole : ofComponents parts = first ++ "/" ++ String.ofList behind := by
      rw [← String.toList_inj, ← chars]
      simp
    have isFirst : components first = [first] := by
      unfold components Text.cutAt
      rw [Text.pieces_of_not_mem bareFirst]
      simp
    have split := components_ofComponents nonempty bare
    rw [whole, components_append, isFirst] at split
    have more : components (String.ofList behind) ≠ [] := by
      simpa [components, Text.cutAt] using Text.pieces_ne_nil '/' _
    obtain ⟨next, rest, others⟩ := List.exists_cons_of_ne_nil more
    exact ⟨next, rest, by rw [← split, others]; rfl⟩
  · rintro ⟨next, rest, rfl⟩
    rw [ofComponents_cons_cons]
    exact ⟨(ofComponents (next :: rest)).toList, String.toList_append.symm⟩

theorem opensWithStep_iff :
    OpensWithStep (ofComponents parts) ↔
      ∃ next rest, parts = "." :: next :: rest ∨ parts = ".." :: next :: rest := by
  have here := startsWith_slash_iff nonempty bare (show '/' ∉ ".".toList by decide)
  have upper := startsWith_slash_iff nonempty bare (show '/' ∉ "..".toList by decide)
  rw [OpensWithStep]
  simp only [exists_or]
  exact or_congr here upper

end

/-- A path starts with a dot exactly if its first component does. -/
theorem startsWith_dot_ofComponents {first : String} (there : first ≠ "") (rest : List String) :
    (ofComponents (first :: rest)).startsWith "." = first.startsWith "." := by
  obtain ⟨c, others, chars⟩ := List.exists_cons_of_ne_nil (show first.toList ≠ [] by simpa using there)
  have opens : ∃ behind, (ofComponents (first :: rest)).toList = c :: behind := by
    cases rest with
    | nil =>
        rw [toList_ofComponents, List.map_cons, List.map_nil, Text.join]
        exact ⟨others, chars⟩
    | cons next rest =>
        rw [ofComponents_cons_cons, String.toList_append, String.toList_append, chars]
        exact ⟨_, rfl⟩
  obtain ⟨behind, whole⟩ := opens
  rw [Bool.eq_iff_iff, String.startsWith_string_iff, String.startsWith_string_iff, whole, chars]
  simp [List.cons_prefix_cons]

theorem opensWithStep_dotted_iff (way : String) :
    OpensWithStep (dotted way) ↔ OpensWithStep way ∨ way.startsWith "." = false := by
  unfold dotted
  split
  · rename_i dot
    rw [dot]
    simp
  · rename_i noDot
    refine iff_of_true (.inl ?_) (.inr (Bool.eq_false_iff.mpr noDot))
    rw [String.startsWith_string_iff, String.toList_append]
    exact List.prefix_append _ _

/-! ## Ways -/

/-- Steps up, and names down, as a way is written. -/
def wayText (up : Nat) (down : List String) : String :=
  if (List.replicate up ".." ++ down).isEmpty then "." else ofComponents (List.replicate up ".." ++ down)

theorem opensWithStep_wayText_iff {up : Nat} {down : List String}
    (areNames : ∀ name ∈ down, IsName name) :
    OpensWithStep (dotted (wayText up down)) ↔
      ¬(down = [] ∧ up ≤ 1 ∨ up = 0 ∧ ∃ name ∈ down.head?, name.startsWith "." = true) := by
  have furtherUp (next : String) (rest : List String) (bare : ∀ part ∈ next :: rest, '/' ∉ part.toList) :
      OpensWithStep (dotted (ofComponents (".." :: next :: rest))) := by
    refine (opensWithStep_dotted_iff _).mpr (.inl ?_)
    refine (opensWithStep_iff (by simp) (List.forall_mem_cons.mpr ⟨by decide, bare⟩)).mpr ?_
    exact ⟨next, rest, .inr rfl⟩
  have bareDown : ∀ part ∈ down, '/' ∉ part.toList := fun part member => (areNames part member).bare
  match up, down with
  | 0, [] => exact iff_of_false (by decide +kernel) (by simp)
  | 1, [] => exact iff_of_false (by decide +kernel) (by simp)
  | 0, name :: below =>
    have isName := areNames name List.mem_cons_self
    have text : wayText 0 (name :: below) = ofComponents (name :: below) := rfl
    rw [text, opensWithStep_dotted_iff, opensWithStep_iff (by simp) bareDown,
      startsWith_dot_ofComponents isName.nonempty]
    simp [isName.notHere, isName.notUpper]
  | 1, next :: rest => exact iff_of_true (furtherUp next rest bareDown) (by simp)
  | up + 2, down =>
    have text : wayText (up + 2) down =
        ofComponents (".." :: ".." :: (List.replicate up ".." ++ down)) := rfl
    rw [text]
    exact iff_of_true (furtherUp _ _ (List.forall_mem_cons.mpr ⟨by decide, slash_not_mem_way areNames⟩)) (by omega)

theorem stepsAlone_dotted_iff (way : String) : StepsAlone (dotted way) ↔ StepsAlone way := by
  unfold dotted
  split
  · rfl
  · have parts : components ("./" ++ way) = "." :: components way := components_append "." way
    rw [StepsAlone, parts, List.forall_mem_cons]
    exact and_iff_right (.inl rfl)

theorem stepsAlone_wayText_iff {up : Nat} {down : List String} (areNames : ∀ name ∈ down, IsName name) :
    StepsAlone (dotted (wayText up down)) ↔ down = [] := by
  have noSteps : (∀ part ∈ down, part = "." ∨ part = "..") ↔ down = [] := by
    refine ⟨fun steps => List.eq_nil_iff_forall_not_mem.mpr fun name member => ?_, by rintro rfl; simp⟩
    exact (steps name member).elim (areNames name member).notHere (areNames name member).notUpper
  have steps : ∀ part ∈ List.replicate up "..", part = "." ∨ part = ".." :=
    fun part member => .inr (List.eq_of_mem_replicate member)
  rw [stepsAlone_dotted_iff, wayText, ← noSteps]
  split
  · rename_i nothing
    rw [List.isEmpty_iff, List.append_eq_nil_iff] at nothing
    exact iff_of_true (by decide +kernel) (by simp [nothing.2])
  · rename_i there
    rw [StepsAlone, components_ofComponents (by simpa using there) (slash_not_mem_way areNames),
      List.forall_mem_append]
    exact and_iff_right steps

/-- From one place to another, both given by the names on the way from the root, no step opens the way: it
ends where it starts, or one directory above, or it goes down through a name with a dot before it. -/
inductive LacksStep (here there : List String) : Prop where
  | same (ends : there = here)
  | above {last : String} (ends : here = there ++ [last])
  | hidden {name : String} {below : List String} (ends : there = here ++ name :: below)
      (dot : name.startsWith "." = true)

theorem lacksStep_iff (here there : List String) :
    LacksStep here there ↔
      (afterCommon here there).2 = [] ∧ (afterCommon here there).1.length ≤ 1 ∨
        (afterCommon here there).1.length = 0 ∧
          ∃ name ∈ (afterCommon here there).2.head?, name.startsWith "." = true := by
  constructor
  · intro lacks
    cases lacks with
    | same ends =>
        have left := afterCommon_append here [] []
        rw [List.append_nil] at left
        rw [ends, left]
        exact .inl ⟨rfl, Nat.zero_le 1⟩
    | @above last ends =>
        have left := afterCommon_append there [last] []
        rw [List.append_nil] at left
        rw [ends, left]
        exact .inl ⟨rfl, Nat.le_refl 1⟩
    | @hidden name below ends dot =>
        have left := afterCommon_append here [] (name :: below)
        rw [List.append_nil] at left
        rw [ends, left]
        exact .inr ⟨rfl, name, rfl, dot⟩
  · obtain ⟨common, isHere, isThere⟩ := exists_common here there
    generalize (afterCommon here there).1 = up at *
    generalize (afterCommon here there).2 = down at *
    rintro (⟨rfl, few⟩ | ⟨none, name, isFirst, dot⟩)
    · rw [List.append_nil] at isThere
      subst isThere
      match up with
      | [] => exact .same (by rw [isHere, List.append_nil])
      | [last] => exact .above isHere
      | _ :: _ :: _ => simp at few
    · obtain ⟨below, rfl⟩ := List.head?_eq_some_iff.mp isFirst
      rw [List.length_eq_zero_iff.mp none, List.append_nil] at isHere
      exact .hidden (isHere ▸ isThere) dot

instance (here there : List String) : Decidable (LacksStep here there) :=
  decidable_of_iff _ (lacksStep_iff here there).symm

theorem afterCommon_eq_nil_iff (here there : List String) :
    (afterCommon here there).2 = [] ↔ there <+: here := by
  constructor
  · intro none
    obtain ⟨common, isHere, isThere⟩ := exists_common here there
    rw [none, List.append_nil] at isThere
    rw [isHere, isThere]
    exact List.prefix_append _ _
  · rintro ⟨up, rfl⟩
    have left := afterCommon_append there up []
    rw [List.append_nil] at left
    rw [left]
    cases up <;> rfl

/-! ## Places -/

theorem Reduced.isName {stack : List String} (reduced : Reduced true stack) :
    ∀ part ∈ stack, IsName part := by
  induction reduced with
  | ups count below => simp [below rfl]
  | name isName _ inductionHypothesis => exact List.forall_mem_cons.mpr ⟨isName, inductionHypothesis⟩

/-- A place is given by names. -/
theorem isName_of_mem_absolute {working : List String} (bare : ∀ part ∈ working, '/' ∉ part.toList)
    (path : String) : ∀ name ∈ absolute working path, IsName name := by
  have reduced {parts : List String} (bare : ∀ part ∈ parts, '/' ∉ part.toList) :
      ∀ name ∈ reduce true parts, IsName name := by
    intro name member
    have isReduced : Reduced true (parts.foldl (reduceStep true) []) :=
      reduced_foldl bare (.ups 0 fun _ => rfl)
    exact isReduced.isName name (List.mem_reverse.mp member)
  have bareComponents : ∀ part ∈ components path, '/' ∉ part.toList := fun _ => slash_not_mem
  unfold absolute
  split
  · exact reduced bareComponents
  · exact reduced (List.forall_mem_append.mpr ⟨bare, bareComponents⟩)

/-- The place of the directory that a module stands in. -/
def modulePlace (working : List String) (module : String) : List String :=
  absolute working (if (directory module).isEmpty then "." else directory module)

/-- The place that a source is imported from. -/
def sourcePlace (working : List String) (source : String) : List String :=
  absolute working (withoutSourceSuffix source)

section

variable {working : List String} {module source : String}

/-- Nothing is left of a source without its suffix if it is empty or the suffix alone. -/
theorem withoutSourceSuffix_eq_empty_iff : withoutSourceSuffix source = "" ↔ source ∈ "" :: sourceSuffixes := by
  constructor
  · intro empty
    rcases withoutSourceSuffix_eq_or source with same | ⟨suffix, isSuffix, whole⟩
    · exact List.mem_cons.mpr (.inl (same.symm.trans empty))
    · rw [empty, String.empty_append] at whole
      exact List.mem_cons_of_mem _ (whole ▸ isSuffix)
  · have empty : ∀ source ∈ "" :: sourceSuffixes, withoutSourceSuffix source = "" := by decide +kernel
    exact empty source

theorem specifier_eq_error (nameless : source ∈ "" :: sourceSuffixes) :
    specifier working module source = .error .emptyPath := by
  unfold specifier relative
  rw [withoutSourceSuffix_eq_empty_iff.mpr nameless]
  rfl

theorem specifier_eq_ok (named : source ∉ "" :: sourceSuffixes) :
    specifier working module source = .ok (dotted (wayText
      (afterCommon (modulePlace working module) (sourcePlace working source)).1.length
      (afterCommon (modulePlace working module) (sourcePlace working source)).2)) := by
  have there : withoutSourceSuffix source ≠ "" := mt withoutSourceSuffix_eq_empty_iff.mp named
  unfold specifier relative
  dsimp only
  rw [if_neg (by simpa using there)]
  rfl

end

/-- A source whose path is nothing but a suffix has no specifier. Any other has one, which opens with a step unless
the source is the directory of the module or the one above it, or stands below the directory of the module by way of a
name with a dot before it. It is nothing but steps where the source is this directory or any above it. -/
theorem specifier_opensWithStep {working : List String} (bare : ∀ part ∈ working, '/' ∉ part.toList)
    (module source : String) :
    (specifier working module source = .error .emptyPath ↔ source ∈ "" :: sourceSuffixes) ∧
      (source ∉ "" :: sourceSuffixes → ∃ way, specifier working module source = .ok way ∧
        (OpensWithStep way ↔ ¬LacksStep (modulePlace working module) (sourcePlace working source)) ∧
        (StepsAlone way ↔ sourcePlace working source <+: modulePlace working module)) := by
  constructor
  · constructor
    · intro refused
      by_contra named
      rw [specifier_eq_ok named] at refused
      contradiction
    · exact specifier_eq_error
  · intro named
    have areNames := isName_of_mem_absolute bare (withoutSourceSuffix source)
    obtain ⟨common, -, isThere⟩ := exists_common (modulePlace working module) (sourcePlace working source)
    have downNames : ∀ name ∈ (afterCommon (modulePlace working module) (sourcePlace working source)).2,
        IsName name := by
      intro name member
      refine areNames name ?_
      rw [← sourcePlace, isThere]
      exact List.mem_append_right _ member
    refine ⟨_, specifier_eq_ok named, ?_, ?_⟩
    · rw [opensWithStep_wayText_iff downNames, lacksStep_iff]
    · rw [stepsAlone_wayText_iff downNames, afterCommon_eq_nil_iff]

/-- Names with dots do no harm behind a step, nor does a module outside the working directory. -/
theorem specifier_opensWithStep_outside :
    (∀ part ∈ ["home", "work"], '/' ∉ part.toList) ∧
      ".lib/.b.d.ts" ∉ "" :: sourceSuffixes ∧
      specifier ["home", "work"] "../gen/a.ts" ".lib/.b.d.ts" = .ok "../work/.lib/.b" ∧
      OpensWithStep "../work/.lib/.b" ∧ ¬StepsAlone "../work/.lib/.b" := by
  have bare : ∀ part ∈ ["home", "work"], '/' ∉ part.toList := by decide
  have named : ".lib/.b.d.ts" ∉ "" :: sourceSuffixes := by decide
  have text : specifier ["home", "work"] "../gen/a.ts" ".lib/.b.d.ts" = .ok "../work/.lib/.b" := by
    decide +kernel
  obtain ⟨way, isWay, opens, alone⟩ := (specifier_opensWithStep bare "../gen/a.ts" ".lib/.b.d.ts").2 named
  cases text.symm.trans isWay
  exact ⟨bare, named, text, opens.mpr (by decide +kernel), alone.not.mpr (by decide +kernel)⟩

/-- A source next to the module whose name starts with a dot, and one that is named like the directory of the module:
the specifiers read as those of a package and of a directory. -/
theorem not_opensWithStep_hidden :
    normalize "a.ts" = "a.ts" ∧ normalize ".tone.ts" = ".tone.ts" ∧
      specifier ["work"] "a.ts" ".tone.ts" = .ok ".tone" ∧ ¬OpensWithStep ".tone" ∧
      normalize "tone/a.ts" = "tone/a.ts" ∧ normalize "tone.ts" = "tone.ts" ∧
      specifier ["work"] "tone/a.ts" "tone.ts" = .ok "." ∧ ¬OpensWithStep "." := by
  decide +kernel

end DeclaredOptions.Path
