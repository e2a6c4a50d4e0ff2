import DeclaredOptions.Proofs.Path.NormalForm

/-!
Contract: import specifiers, which lead from a module back to the source they are made for.

Owns:
- paths below the directory they are seen from, and the names that they consist of;
- directories and suffixes of such paths;
- the way from one such path to another, which ends there when it is walked.

Does not own: the files that a project looks for at the end of the way.
-/

set_option autoImplicit false

namespace DeclaredOptions.Path

/-! ## Paths below a directory -/

/-- A path in normal form, without root, that does not lead up first. -/
structure Inside (path : String) : Prop where
  normal : normalize path = path
  relative : path.startsWith "/" = false
  notUp : (components path).head? ≠ some ".."

theorem Inside.eq_here_or_names {path : String} (inside : Inside path) :
    path = "." ∨
      ∃ names, names ≠ [] ∧ (∀ name ∈ names, IsName name) ∧ path = ofComponents names := by
  have relative := head?_ne_of_startsWith inside.relative
  by_cases nothing : reduce false (components path) = []
  · left
    rw [← inside.normal, normalize, leadingSlashes_eq_zero relative,
      show (0 != 0) = false from rfl, nothing]
    rfl
  · right
    have isWhole := normalize_of_ne_nil relative nothing
    rw [inside.normal] at isWhole
    have reduced : Reduced false (reduce false (components path)).reverse := reduced_components path
    have there := fun part member => reduced.part part (List.mem_reverse.mpr member)
    have same : components path = reduce false (components path) := by
      conv_lhs => rw [isWhole]
      exact components_ofComponents nothing fun part member => (there part member).2
    obtain ⟨ups, names, split, areNames⟩ := reduced.split
    rw [List.reverse_reverse] at split
    have noUps : ups = 0 := by
      cases ups with
      | zero => rfl
      | succ ups => exact absurd (by rw [same, split]; rfl) inside.notUp
    rw [noUps, List.replicate_zero, List.nil_append] at split
    rw [split] at isWhole nothing
    exact ⟨names, nothing, areNames, isWhole⟩

theorem names_there {names : List String} (areNames : ∀ name ∈ names, IsName name) :
    ∀ name ∈ names, name ≠ "" ∧ '/' ∉ name.toList :=
  fun name member => ⟨(areNames name member).nonempty, (areNames name member).bare⟩

theorem ofComponents_concat {upper : List String} (nonempty : upper ≠ []) (last : String) :
    (ofComponents (upper ++ [last])).toList =
      (ofComponents upper).toList ++ '/' :: last.toList := by
  have nonemptyTexts : upper.map String.toList ≠ [] := by simpa using nonempty
  rw [toList_ofComponents, toList_ofComponents, List.map_append, List.map_singleton,
    Text.join_concat _ _ nonemptyTexts, List.append_assoc]
  rfl

theorem ofComponents_ne_empty {names : List String} (nonempty : names ≠ [])
    (areNames : ∀ name ∈ names, IsName name) : ofComponents names ≠ "" := by
  intro isEmpty
  have back := components_ofComponents nonempty fun name member => (areNames name member).bare
  rw [isEmpty] at back
  have first : "" ∈ names := by
    rw [← back]
    decide
  exact (areNames "" first).nonempty rfl

theorem getLast?_ofComponents {names : List String} (areNames : ∀ name ∈ names, IsName name) :
    ∀ c ∈ (ofComponents names).toList.getLast?, c ≠ '/' := by
  rintro c isLast rfl
  cases names.eq_nil_or_concat with
  | inl none =>
      subst none
      contradiction
  | inr some =>
      obtain ⟨upper, last, rfl⟩ := some
      rw [List.concat_eq_append] at isLast areNames
      have isName := areNames last (by simp)
      have lastThere : last.toList ≠ [] := by simpa using isName.nonempty
      have ends : '/' ∈ last.toList.getLast? := by
        by_cases top : upper = []
        · subst top
          simpa [toList_ofComponents, Text.join] using isLast
        · rw [ofComponents_concat top, List.getLast?_append_of_ne_nil _ (List.cons_ne_nil _ _),
            List.getLast?_cons] at isLast
          obtain ⟨c, isLastChar⟩ := List.getLast?_isSome.mpr lastThere |> Option.isSome_iff_exists.mp
          rw [isLastChar] at isLast ⊢
          exact isLast
      exact isName.bare (List.mem_of_mem_getLast? ends)

/-- The directory of a path is the path without its last name. -/
theorem directory_ofComponents {upper : List String} {last : String}
    (areNames : ∀ name ∈ upper, IsName name) (isName : IsName last) :
    directory (ofComponents (upper ++ [last])) = ofComponents upper := by
  have lastDropped : ∀ c ∈ last.toList, (c != '/') = true := by
    rintro c member
    refine bne_iff_ne.mpr ?_
    rintro rfl
    exact isName.bare member
  unfold directory
  by_cases top : upper = []
  · subst top
    have chars : (ofComponents ([] ++ [last])).toList = [] ++ last.toList := by
      simp [toList_ofComponents, Text.join]
    rw [chars, Text.dropEndWhile_append_of_all [] lastDropped]
    rfl
  · have head : Text.dropEndWhile (· != '/') (ofComponents (upper ++ [last])).toList =
        (ofComponents upper).toList ++ ['/'] := by
      have noneLeft : Text.dropEndWhile (· != '/') last.toList = [] :=
        Text.dropEndWhile_append_of_all [] lastDropped
      rw [ofComponents_concat top, Text.dropEndWhile_append_cons (by decide), noneLeft]
    have upperChars : (ofComponents upper).toList ≠ [] := by
      simpa using ofComponents_ne_empty top areNames
    have notAll : ((ofComponents upper).toList ++ ['/']).all (· == '/') = false := by
      obtain ⟨c, rest, chars⟩ := List.exists_cons_of_ne_nil upperChars
      have first := head?_ofComponents (names_there areNames)
      rw [chars, List.head?_cons, ne_eq, Option.some.injEq] at first
      simp [chars, first]
    have noneLeft : ∀ c ∈ ['/'], (c == '/') = true := by simp
    have stays : ∀ c ∈ (ofComponents upper).toList.getLast?, (c == '/') = false :=
      fun c isLast => beq_eq_false_iff_ne.mpr (getLast?_ofComponents areNames c isLast)
    dsimp only
    rw [head, notAll, if_neg Bool.false_ne_true, Text.dropEndWhile_append_of_all _ noneLeft,
      Text.dropEndWhile_of_last stays, String.ofList_toList]

theorem mem_of_mem_directory {path : String} {c : Char} (member : c ∈ (directory path).toList) :
    c ∈ path.toList := by
  have ofHead := (Text.dropEndWhile_prefix (· != '/') path.toList).subset
  unfold directory at member
  dsimp only at member
  split at member
  · rw [String.toList_ofList] at member
    exact ofHead member
  · rw [String.toList_ofList] at member
    exact ofHead ((Text.dropEndWhile_prefix _ _).subset member)

theorem Inside.exists_directory {module : String} (inside : Inside module) :
    ∃ upper, (∀ name ∈ upper, IsName name) ∧ directory module = ofComponents upper := by
  rcases inside.eq_here_or_names with rfl | ⟨names, nonempty, areNames, rfl⟩
  · exact ⟨[], by simp, by decide⟩
  · obtain ⟨upper, last, rfl⟩ := (names.eq_nil_or_concat).resolve_left nonempty
    rw [List.concat_eq_append] at areNames ⊢
    rw [List.forall_mem_append, List.forall_mem_singleton] at areNames
    exact ⟨upper, areNames.1, directory_ofComponents areNames.1 areNames.2⟩

/-! ## Suffixes -/

theorem withoutSourceSuffix_eq_or (path : String) :
    withoutSourceSuffix path = path ∨
      ∃ suffix ∈ sourceSuffixes, path = withoutSourceSuffix path ++ suffix := by
  unfold withoutSourceSuffix
  dsimp only
  split
  · rename_i bare found
    obtain ⟨suffix, isSuffix, cut⟩ := List.exists_of_findSome?_eq_some found
    refine .inr ⟨suffix, isSuffix, ?_⟩
    rw [← String.toList_inj, String.toList_append, String.toList_ofList]
    exact Text.before?_eq_some_iff.mp cut
  · exact .inl rfl

theorem mem_of_mem_withoutSourceSuffix {path : String} {c : Char}
    (member : c ∈ (withoutSourceSuffix path).toList) : c ∈ path.toList := by
  rcases withoutSourceSuffix_eq_or path with same | ⟨suffix, -, whole⟩
  · rwa [same] at member
  · rw [whole, String.toList_append]
    exact List.mem_append_left _ member

theorem findSome?_congr {α β : Type} {f g : α → Option β} {values : List α}
    (same : ∀ value ∈ values, f value = g value) : values.findSome? f = values.findSome? g := by
  induction values with
  | nil => rfl
  | cons value rest inductionHypothesis =>
      rw [List.forall_mem_cons] at same
      rw [List.findSome?_cons, List.findSome?_cons, same.1, inductionHypothesis same.2]

/-- A suffix of a path is one of its last component. -/
theorem withoutSourceSuffix_concat {upper : List String} (last : String) :
    withoutSourceSuffix (ofComponents (upper ++ [last])) =
      ofComponents (upper ++ [withoutSourceSuffix last]) := by
  by_cases top : upper = []
  · subst top
    have single (part : String) : ofComponents ([] ++ [part]) = part := by
      simp [ofComponents, Text.joined, Text.join]
    rw [single, single]
  · have bareSuffix : ∀ suffix ∈ sourceSuffixes, '/' ∉ suffix.toList := by decide
    have cut : (sourceSuffixes.findSome? fun suffix =>
        Text.before? suffix.toList (ofComponents (upper ++ [last])).toList) =
        (sourceSuffixes.findSome? fun suffix => Text.before? suffix.toList last.toList).map
          ((ofComponents upper).toList ++ '/' :: ·) := by
      rw [List.map_findSome?]
      refine findSome?_congr fun suffix isSuffix => ?_
      rw [ofComponents_concat top, Text.before?_append (bareSuffix suffix isSuffix)]
      rfl
    rw [← String.toList_inj, ofComponents_concat top, withoutSourceSuffix, withoutSourceSuffix, cut]
    cases sourceSuffixes.findSome? fun suffix => Text.before? suffix.toList last.toList with
    | none => exact ofComponents_concat top last
    | some bare =>
        rw [Option.map_some, String.toList_ofList, String.toList_ofList]

/-- A source whose last component is more than its suffix, or dots, has names without the suffix too. -/
theorem Inside.exists_withoutSourceSuffix {source : String} (inside : Inside source)
    (named : withoutSourceSuffix (lastComponent source) ∉ ["", ".", ".."]) :
    ∃ target, target ≠ [] ∧ (∀ name ∈ target, IsName name) ∧
      withoutSourceSuffix source = ofComponents target := by
  rcases inside.eq_here_or_names with rfl | ⟨names, nonempty, areNames, rfl⟩
  · exact absurd (by decide) named
  · have parts := components_ofComponents nonempty fun name member => (areNames name member).bare
    obtain ⟨upper, last, rfl⟩ := (names.eq_nil_or_concat).resolve_left nonempty
    rw [List.concat_eq_append] at areNames parts ⊢
    have isLast : lastComponent (ofComponents (upper ++ [last])) = last := by
      rw [lastComponent, parts, List.getLastD_concat]
    rw [List.concat_eq_append, isLast] at named
    simp only [List.mem_cons, List.not_mem_nil, or_false, not_or] at named
    rw [List.forall_mem_append, List.forall_mem_singleton] at areNames
    have bare : '/' ∉ (withoutSourceSuffix last).toList :=
      fun member => areNames.2.bare (mem_of_mem_withoutSourceSuffix member)
    refine ⟨upper ++ [withoutSourceSuffix last], by simp, ?_, withoutSourceSuffix_concat last⟩
    rw [List.forall_mem_append, List.forall_mem_singleton]
    exact ⟨areNames.1, ⟨named.1, named.2.1, named.2.2, bare⟩⟩

/-! ## Ways -/

section

variable {rooted : Bool}

theorem foldl_names {names : List String} (areNames : ∀ name ∈ names, IsName name)
    (stack : List String) : names.foldl (reduceStep rooted) stack = names.reverse ++ stack := by
  induction names generalizing stack with
  | nil => rfl
  | cons name rest inductionHypothesis =>
      rw [List.forall_mem_cons] at areNames
      rw [List.foldl_cons, reduceStep_name areNames.1, inductionHypothesis areNames.2,
        List.reverse_cons, List.append_assoc]
      rfl

/-- As many steps up as there are names lead above all of them. -/
theorem foldl_ups {names : List String} (areNames : ∀ name ∈ names, IsName name)
    (stack : List String) :
    (List.replicate names.length "..").foldl (reduceStep rooted) (names ++ stack) = stack := by
  induction names with
  | nil => rfl
  | cons name rest inductionHypothesis =>
      rw [List.forall_mem_cons] at areNames
      rw [List.length_cons, List.replicate_succ, List.foldl_cons, List.cons_append,
        reduceStep_up areNames.1, inductionHypothesis areNames.2]

theorem reduce_append_names (parts : List String) {names : List String}
    (areNames : ∀ name ∈ names, IsName name) :
    reduce rooted (parts ++ names) = reduce rooted parts ++ names := by
  unfold reduce
  rw [List.foldl_append, foldl_names areNames, List.reverse_append, List.reverse_reverse]

theorem slash_not_mem_way {up : Nat} {down : List String} (areNames : ∀ name ∈ down, IsName name) :
    ∀ part ∈ List.replicate up ".." ++ down, '/' ∉ part.toList := by
  refine List.forall_mem_append.mpr ⟨fun part member => ?_, fun part member => (areNames part member).bare⟩
  rw [List.eq_of_mem_replicate member]
  decide

/-- Up from the names that are left of one path, and down those that are left of another, leads from the one
to the other. -/
theorem reduce_way {common up down : List String} (areNames : ∀ name ∈ common ++ up, IsName name)
    (areNamesToo : ∀ name ∈ down, IsName name) :
    reduce rooted ((common ++ up) ++ (List.replicate up.length ".." ++ down)) = common ++ down := by
  have upNames : ∀ name ∈ up.reverse, IsName name :=
    fun name member => areNames name (List.mem_append_right _ (List.mem_reverse.mp member))
  have climbed : (List.replicate up.length "..").foldl (reduceStep rooted)
      (up.reverse ++ common.reverse) = common.reverse := by
    rw [← List.length_reverse]
    exact foldl_ups upNames common.reverse
  unfold reduce
  rw [List.foldl_append, foldl_names areNames, List.append_nil, List.reverse_append,
    List.foldl_append, climbed, foldl_names areNamesToo, List.reverse_append,
    List.reverse_reverse, List.reverse_reverse]

end

theorem afterCommon_append (common first second : List String) :
    afterCommon (common ++ first) (common ++ second) = afterCommon first second := by
  induction common with
  | nil => rfl
  | cons part rest inductionHypothesis =>
      rw [List.cons_append, List.cons_append, afterCommon, if_pos (beq_self_eq_true part),
        inductionHypothesis]

/-- What is left of two lists stands after the same beginning. -/
theorem exists_common (first second : List String) :
    ∃ common, first = common ++ (afterCommon first second).1 ∧
      second = common ++ (afterCommon first second).2 := by
  induction first, second using afterCommon.induct with
  | case1 part first other second same inductionHypothesis =>
      obtain ⟨common, firstEq, secondEq⟩ := inductionHypothesis
      have partEq : part = other := by simpa using same
      subst partEq
      rw [afterCommon, if_pos same]
      refine ⟨part :: common, ?_, ?_⟩
      · rw [List.cons_append, ← firstEq]
      · rw [List.cons_append, ← secondEq]
  | case2 part first other second different =>
      rw [afterCommon, if_neg different]
      exact ⟨[], rfl, rfl⟩
  | case3 first second noPair =>
      rw [afterCommon]
      · exact ⟨[], rfl, rfl⟩
      · exact noPair

theorem absolute_ofComponents (working : List String) {names : List String} (nonempty : names ≠ [])
    (areNames : ∀ name ∈ names, IsName name) :
    absolute working (ofComponents names) = reduce true working ++ names := by
  have relative := startsWith_of_head?_ne (head?_ofComponents (names_there areNames))
  unfold absolute
  rw [relative, if_neg Bool.false_ne_true,
    components_ofComponents nonempty fun name member => (areNames name member).bare,
    reduce_append_names working areNames]

/-- The directory of a module, or the place itself if there is none, stands below the working directory. -/
theorem absolute_start (working : List String) {upper : List String}
    (areNames : ∀ name ∈ upper, IsName name) :
    absolute working (if (ofComponents upper).isEmpty then "." else ofComponents upper) =
      reduce true working ++ upper := by
  by_cases top : upper = []
  · subst top
    have here : absolute working "." = reduce true (working ++ ["."]) :=
      if_neg (by decide +kernel)
    have ignored : (working ++ ["."]).foldl (reduceStep true) [] =
        working.foldl (reduceStep true) [] := by
      rw [List.foldl_append, List.foldl_cons, List.foldl_nil, reduceStep_ignored (.inr rfl)]
    rw [show (ofComponents []).isEmpty = true from rfl, if_pos rfl, here, reduce, ignored,
      List.append_nil]
    rfl
  · have there : (ofComponents upper).isEmpty = false := by
      simpa using ofComponents_ne_empty top areNames
    rw [there, if_neg Bool.false_ne_true, absolute_ofComponents working top areNames]

/-- A way to a source is made of steps up, and of names of the source. -/
theorem relative_ofComponents (working : List String) {upper target : List String}
    (upperNames : ∀ name ∈ upper, IsName name) (nonempty : target ≠ [])
    (areNames : ∀ name ∈ target, IsName name) :
    ∃ common up down, upper = common ++ up ∧ target = common ++ down ∧
      relative working (ofComponents target)
          (if (ofComponents upper).isEmpty then "." else ofComponents upper) =
        .ok (if (List.replicate up.length ".." ++ down).isEmpty then "."
          else ofComponents (List.replicate up.length ".." ++ down)) := by
  obtain ⟨common, upperEq, targetEq⟩ := exists_common upper target
  have there : (ofComponents target).isEmpty = false := by
    simpa using ofComponents_ne_empty nonempty areNames
  refine ⟨common, (afterCommon upper target).1, (afterCommon upper target).2, upperEq, targetEq, ?_⟩
  unfold relative
  rw [there, if_neg Bool.false_ne_true, absolute_start working upperNames,
    absolute_ofComponents working nonempty areNames, afterCommon_append]

/-! ## Specifiers -/

/-- A way with a dot before it, unless it starts with one. -/
def dotted (way : String) : String := if way.startsWith "." then way else "./" ++ way

theorem startsWith_dotted (way : String) : (dotted way).startsWith "." = true := by
  unfold dotted
  split
  · assumption
  · rw [String.startsWith_string_iff, String.toList_append]
    exact ⟨'/' :: way.toList, rfl⟩

theorem head?_dotted (way : String) : (dotted way).toList.head? ≠ some '/' := by
  have begins := startsWith_dotted way
  rw [String.startsWith_string_iff] at begins
  obtain ⟨rest, chars⟩ := begins
  rw [← chars]
  simp

theorem mem_dotted {way : String} {c : Char} (member : c ∈ (dotted way).toList) :
    c = '/' ∨ c = '.' ∨ c ∈ way.toList := by
  unfold dotted at member
  split at member
  · exact .inr (.inr member)
  · rw [String.toList_append] at member
    rcases List.mem_append.mp member with inDots | inWay
    · simp only [String.reduceToList, List.mem_cons, List.not_mem_nil, or_false] at inDots
      exact inDots.symm.imp_right .inl
    · exact .inr (.inr inWay)

/-- The dot before a way leads nowhere else. -/
theorem reduce_dotted {rooted : Bool} (upper : List String) (way : String) :
    reduce rooted (upper ++ components (dotted way)) = reduce rooted (upper ++ components way) := by
  unfold dotted
  split
  · rfl
  · have parts : components ("./" ++ way) = "." :: components way := components_append "." way
    rw [parts, reduce, reduce, List.foldl_append, List.foldl_append, List.foldl_cons,
      reduceStep_ignored (.inr rfl)]

theorem mem_joinTo {directory path : String} {c : Char}
    (member : c ∈ (joinTo directory path).toList) :
    c = '/' ∨ c ∈ directory.toList ∨ c ∈ path.toList := by
  unfold joinTo at member
  split at member
  · exact .inr (.inr member)
  · split at member
    · rw [String.toList_append, List.mem_append] at member
      exact .inr member
    · rw [String.toList_append, String.toList_append, List.mem_append, List.mem_append] at member
      rcases member with (inDirectory | isSlash) | inPath
      · exact .inr (.inl inDirectory)
      · exact .inl (by simpa using isSlash)
      · exact .inr (.inr inPath)

theorem joinTo_ofComponents {upper : List String} (areNames : ∀ name ∈ upper, IsName name)
    {way : String} (relative : way.toList.head? ≠ some '/') :
    joinTo (ofComponents upper) way =
      if upper.isEmpty then way else ofComponents upper ++ "/" ++ way := by
  unfold joinTo
  rw [startsWith_of_head?_ne relative, if_neg Bool.false_ne_true]
  by_cases top : upper = []
  · subst top
    rfl
  · have notEmpty : (ofComponents upper).isEmpty = false := by
      simpa using ofComponents_ne_empty top areNames
    have noSlash : (ofComponents upper).endsWith "/" = false := by
      rw [String.endsWith_eq_endsWith_toSlice, String.Slice.endsWith_string_eq_false_iff,
        String.copy_toSlice]
      rintro ⟨start, chars⟩
      refine getLast?_ofComponents areNames '/' ?_ rfl
      rw [← chars]
      exact List.getLast?_concat
    have isThere : upper.isEmpty = false := by simpa using top
    rw [notEmpty, noSlash, isThere]
    rfl

/-- A way that is walked from a directory leads to what its components reduce to. -/
theorem normalize_joinTo {upper target : List String} (areNames : ∀ name ∈ upper, IsName name)
    {way : String} (relative : way.toList.head? ≠ some '/') (nonempty : target ≠ [])
    (leads : reduce false (upper ++ components way) = target) :
    normalize (joinTo (ofComponents upper) way) = ofComponents target := by
  rw [joinTo_ofComponents areNames relative]
  by_cases top : upper = []
  · subst top
    rw [List.nil_append] at leads
    rw [List.isEmpty_nil, if_pos rfl, normalize_of_ne_nil relative (leads ▸ nonempty), leads]
  · have isThere : upper.isEmpty = false := by simpa using top
    have upperChars : (ofComponents upper).toList ≠ [] := by
      simpa using ofComponents_ne_empty top areNames
    have head : (ofComponents upper ++ "/" ++ way).toList.head? ≠ some '/' := by
      rw [String.toList_append, String.toList_append, List.append_assoc,
        List.head?_append_of_ne_nil _ upperChars]
      exact head?_ofComponents (names_there areNames)
    have parts : components (ofComponents upper ++ "/" ++ way) = upper ++ components way := by
      rw [components_append,
        components_ofComponents top fun name member => (areNames name member).bare]
    rw [← parts] at leads
    rw [isThere, if_neg Bool.false_ne_true, normalize_of_ne_nil head (leads ▸ nonempty), leads]

/-- The specifier from a module to a source reads as a path, and leads from the directory of the module to the
source without its suffix. -/
theorem exists_specifier_of_inside (working : List String) {module source : String}
    (inside : Inside module) (insideSource : Inside source)
    (named : withoutSourceSuffix (lastComponent source) ∉ ["", ".", ".."]) :
    ∃ way, specifier working module source = .ok way ∧ way.startsWith "." = true ∧
      (∀ c ∈ way.toList, c = '/' ∨ c = '.' ∨ c ∈ source.toList) ∧
      normalize (joinTo (directory module) way) = withoutSourceSuffix source := by
  obtain ⟨upper, upperNames, isDirectory⟩ := inside.exists_directory
  obtain ⟨target, nonempty, areNames, isTarget⟩ := insideSource.exists_withoutSourceSuffix named
  obtain ⟨common, up, down, rfl, rfl, ways⟩ :=
    relative_ofComponents working upperNames nonempty areNames
  let parts := List.replicate up.length ".." ++ down
  let way := if parts.isEmpty then "." else ofComponents parts
  have downNames : ∀ name ∈ down, IsName name :=
    fun name member => areNames name (List.mem_append_right _ member)
  have bareParts : ∀ part ∈ parts, '/' ∉ part.toList := slash_not_mem_way downNames
  have leads : reduce false ((common ++ up) ++ components (dotted way)) = common ++ down := by
    rw [reduce_dotted, ← reduce_way upperNames downNames]
    by_cases nothing : parts = []
    · have here : components way = ["."] := by
        simp only [way, nothing]
        decide
      have noParts : List.replicate up.length ".." ++ down = [] := nothing
      rw [here, noParts, List.append_nil, reduce, reduce, List.foldl_append, List.foldl_cons,
        List.foldl_nil, reduceStep_ignored (.inr rfl)]
    · have isThere : parts.isEmpty = false := by simpa using nothing
      have same : components way = parts := by
        simp only [way, isThere]
        exact components_ofComponents nothing bareParts
      rw [same]
  have chars : ∀ c ∈ (dotted way).toList, c = '/' ∨ c = '.' ∨ c ∈ source.toList := by
    intro c member
    rcases mem_dotted member with isSlash | isDot | inWay
    · exact .inl isSlash
    · exact .inr (.inl isDot)
    · simp only [way] at inWay
      split at inWay
      · exact .inr (.inl (by simpa using inWay))
      · rcases mem_ofComponents inWay with isSlash | ⟨part, isPart, inPart⟩
        · exact .inl isSlash
        · rcases List.mem_append.mp isPart with isUp | isDown
          · rw [List.eq_of_mem_replicate isUp] at inPart
            exact .inr (.inl (by simpa using inPart))
          · refine .inr (.inr (mem_of_mem_withoutSourceSuffix ?_))
            have isComponent : part ∈ components (ofComponents (common ++ down)) := by
              rw [components_ofComponents nonempty fun name member => (areNames name member).bare]
              exact List.mem_append_right _ isDown
            rw [isTarget]
            exact mem_of_mem_components isComponent inPart
  refine ⟨dotted way, ?_, startsWith_dotted way, chars, ?_⟩
  · unfold specifier
    dsimp only
    rw [isDirectory, isTarget, ways]
    rfl
  · rw [isDirectory, isTarget]
    exact normalize_joinTo upperNames (head?_dotted way) nonempty leads

end DeclaredOptions.Path
