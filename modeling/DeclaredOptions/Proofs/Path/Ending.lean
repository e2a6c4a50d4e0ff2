import DeclaredOptions.Proofs.Path.Specifier

/-!
Contract: endings put behind paths in normal form.

Owns:
- what a path in normal form is made up of;
- the endings of sources and of index files, which keep a path in normal form;
- the two paths behind which an index file is written another way.

Does not own: the files that stand at such paths.
-/

set_option autoImplicit false

namespace DeclaredOptions.Path

variable {rooted : Bool}

/-! ## Paths in normal form -/

/-- A path that is put together from slashes and reduced components, as the normal form is. -/
def written (slashes : Nat) (parts : List String) : String :=
  String.ofList (List.replicate slashes '/') ++ ofComponents parts

theorem normalize_written {slashes : Nat} {parts : List String} (few : slashes ≤ 2)
    (reduced : Reduced (slashes != 0) parts.reverse) (there : slashes ≠ 0 ∨ parts ≠ []) :
    normalize (written slashes parts) = written slashes parts := by
  have partsThere := fun part member => reduced.part part (List.mem_reverse.mpr member)
  have counted : leadingSlashes (written slashes parts) = slashes :=
    leadingSlashes_append few (head?_ofComponents partsThere)
  have same : reduce (slashes != 0) (components (written slashes parts)) = parts :=
    reduced.reduce_components slashes
  have notEmpty : ¬(written slashes parts).isEmpty := by
    intro isEmpty
    rw [String.isEmpty_iff] at isEmpty
    rw [isEmpty] at counted same
    have noSlashes : 0 = slashes := counted
    subst noSlashes
    have noParts : [] = parts := same
    exact there.elim (absurd rfl) (absurd noParts.symm)
  unfold normalize
  dsimp only
  rw [counted, same]
  exact if_neg notEmpty

/-- A path in normal form is the place itself, or it is put together from reduced components. -/
theorem exists_written {path : String} (normal : normalize path = path) :
    path = "." ∨ ∃ slashes parts, slashes ≤ 2 ∧ Reduced (slashes != 0) parts.reverse ∧
      path = written slashes parts := by
  by_cases here : (written (leadingSlashes path)
      (reduce (leadingSlashes path != 0) (components path))).isEmpty
  · have isHere : normalize path = "." := if_pos here
    exact .inl (normal.symm.trans isHere)
  · have isWritten : normalize path = written (leadingSlashes path)
        (reduce (leadingSlashes path != 0) (components path)) := if_neg here
    exact .inr ⟨_, _, leadingSlashes_le path, reduced_components path, normal.symm.trans isWritten⟩

theorem Reduced.tail {part : String} {rest : List String} (reduced : Reduced rooted (part :: rest)) :
    Reduced rooted rest := by
  generalize whole : part :: rest = stack at reduced
  cases reduced with
  | ups count below =>
      cases count with
      | zero => contradiction
      | succ count =>
          rw [List.replicate_succ] at whole
          rw [(List.cons.inj whole).2]
          exact .ups count fun isRooted => nomatch below isRooted
  | name isName reducedRest =>
      rw [(List.cons.inj whole).2]
      exact reducedRest

/-! ## Endings -/

def sourceEndings : List String := [".ts", ".tsx", ".d.ts"]

def indexEndings : List String := ["/index.ts", "/index.tsx"]

theorem isName_append {last ending : String} (bare : '/' ∉ last.toList)
    (isEnding : ending ∈ sourceEndings) : IsName (last ++ ending) := by
  have long : 3 ≤ (last ++ ending).length := by
    rw [String.length_append]
    have endingLong : ∀ ending ∈ sourceEndings, 3 ≤ ending.length := by decide
    have := endingLong ending isEnding
    omega
  refine ⟨?_, ?_, ?_, ?_⟩
  · intro same
    rw [same] at long
    contradiction
  · intro same
    rw [same] at long
    contradiction
  · intro same
    rw [same] at long
    contradiction
  · have endingBare : ∀ ending ∈ sourceEndings, '/' ∉ ending.toList := by decide
    rw [String.toList_append, List.mem_append, not_or]
    exact ⟨bare, endingBare ending isEnding⟩

theorem written_append (slashes : Nat) (upper : List String) (last ending : String) :
    written slashes (upper ++ [last]) ++ ending = written slashes (upper ++ [last ++ ending]) := by
  have behind : ofComponents (upper ++ [last]) ++ ending = ofComponents (upper ++ [last ++ ending]) := by
    apply String.toList_inj.mp
    by_cases top : upper = []
    · subst top
      simp [toList_ofComponents, Text.join]
    · rw [String.toList_append, ofComponents_concat top, ofComponents_concat top]
      simp
  rw [written, String.append_assoc, behind]
  rfl

theorem written_slash {slashes : Nat} {parts : List String} (there : parts ≠ []) (name : String) :
    written slashes parts ++ ("/" ++ name) = written slashes (parts ++ [name]) := by
  have behind : ofComponents parts ++ ("/" ++ name) = ofComponents (parts ++ [name]) := by
    apply String.toList_inj.mp
    rw [ofComponents_concat there]
    simp
  rw [written, String.append_assoc, behind]
  rfl

theorem normalize_append_source {base ending : String} (normal : normalize base = base)
    (isEnding : ending ∈ sourceEndings) : normalize (base ++ ending) = base ++ ending := by
  rcases exists_written normal with rfl | ⟨slashes, parts, few, reduced, rfl⟩
  · revert ending
    decide
  · -- the ending goes to the last component, or makes one behind the slashes
    have split : ∃ upper last, written slashes parts = written slashes (upper ++ [last]) ∧
        Reduced (slashes != 0) upper.reverse ∧ '/' ∉ last.toList := by
      rcases parts.eq_nil_or_concat with rfl | ⟨upper, last, rfl⟩
      · exact ⟨[], "", rfl, reduced, by decide⟩
      · rw [List.concat_eq_append] at reduced ⊢
        rw [List.reverse_concat] at reduced
        exact ⟨upper, last, rfl, reduced.tail, (reduced.part last List.mem_cons_self).2⟩
    obtain ⟨upper, last, same, reducedUpper, bare⟩ := split
    rw [same, written_append]
    refine normalize_written few ?_ (.inr (by simp))
    rw [List.reverse_concat]
    exact .name (isName_append bare isEnding) reducedUpper

/-- The ending of an index file keeps a path in normal form, except for the place itself and a root of two
slashes. -/
theorem normalize_append_index {base ending : String} (normal : normalize base = base)
    (there : base ∉ [".", "//"]) (isEnding : ending ∈ indexEndings) :
    normalize (base ++ ending) = base ++ ending := by
  simp only [List.mem_cons, List.not_mem_nil, or_false, not_or] at there
  obtain ⟨slashes, parts, few, reduced, rfl⟩ := (exists_written normal).resolve_left there.1
  by_cases noParts : parts = []
  · subst noParts
    have cases : slashes = 0 ∨ slashes = 1 ∨ slashes = 2 := by omega
    rcases cases with rfl | rfl | rfl
    · exact absurd normal (by decide)
    · revert ending
      decide
    · exact absurd rfl there.2
  · have isIndex : ∃ name, ending = "/" ++ name ∧ IsName name := by
      rcases List.mem_pair.mp isEnding with rfl | rfl
      · exact ⟨"index.ts", rfl, by decide, by decide, by decide, by decide⟩
      · exact ⟨"index.tsx", rfl, by decide, by decide, by decide, by decide⟩
    obtain ⟨name, rfl, isName⟩ := isIndex
    rw [written_slash noParts]
    refine normalize_written few ?_ (.inr (by simp))
    rw [List.reverse_concat]
    exact .name isName reduced

theorem normalize_append_index_ne {base ending : String} (alone : base ∈ [".", "//"])
    (isEnding : ending ∈ indexEndings) : normalize (base ++ ending) ≠ base ++ ending := by
  rcases List.mem_pair.mp alone with rfl | rfl
  · rcases List.mem_pair.mp isEnding with rfl | rfl <;> decide
  · rcases List.mem_pair.mp isEnding with rfl | rfl <;> decide

end DeclaredOptions.Path
