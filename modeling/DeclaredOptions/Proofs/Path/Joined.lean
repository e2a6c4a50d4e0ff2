import DeclaredOptions.Proofs.Path.Specifier

/-!
Contract: names joined to a directory.

Owns: the fact that a name joined to a directory is the last component of the path, in normal form as well.

Does not own: what stands at such a path.
-/

set_option autoImplicit false

namespace DeclaredOptions.Path

variable {name : String}

theorem components_of_isName (isName : IsName name) : components name = [name] := by
  unfold components Text.cutAt
  rw [Text.pieces_of_not_mem isName.bare]
  simp

/-- A name behind a slash, or at the start, is a component of its own. -/
theorem exists_components_joinTo (directory : String) (isName : IsName name) :
    ∃ upper, components (joinTo directory name) = upper ++ [name] := by
  have relative : name.startsWith "/" = false := by
    apply startsWith_of_head?_ne
    exact fun isSlash => isName.bare (List.mem_of_mem_head? isSlash)
  have behind (upper : String) : components (upper ++ "/" ++ name) = components upper ++ [name] := by
    rw [components_append, components_of_isName isName]
  unfold joinTo
  rw [relative, if_neg Bool.false_ne_true]
  split
  · rename_i stays
    rcases Bool.or_eq_true .. ▸ stays with isEmpty | ends
    · rw [String.isEmpty_iff.mp isEmpty, String.empty_append]
      exact ⟨[], components_of_isName isName⟩
    · rw [String.endsWith_eq_endsWith_toSlice, String.Slice.endsWith_string_iff, String.copy_toSlice] at ends
      obtain ⟨upper, chars⟩ := ends
      have whole : directory = String.ofList upper ++ "/" := by
        apply String.toList_inj.mp
        rw [String.toList_append, ← chars]
        exact congrArg (· ++ _) String.toList_ofList.symm
      rw [whole]
      exact ⟨_, behind _⟩
  · exact ⟨_, behind directory⟩

/-- A name at the end of a path stays there in the normal form. -/
theorem exists_components_normalize {path : String} {upper : List String}
    (parts : components path = upper ++ [name]) (isName : IsName name) :
    ∃ above, components (normalize path) = above ++ [name] := by
  have reducedParts : reduce (leadingSlashes path != 0) (components path) =
      reduce (leadingSlashes path != 0) upper ++ [name] := by
    rw [parts]
    exact reduce_append_names upper (List.forall_mem_singleton.mpr isName)
  have reduced : Reduced (leadingSlashes path != 0)
      (reduce (leadingSlashes path != 0) (components path)).reverse := reduced_components path
  rw [reducedParts] at reduced
  have bare := fun part member => (reduced.part part (List.mem_reverse.mpr member)).2
  have whole : components (String.ofList (List.replicate (leadingSlashes path) '/') ++
      ofComponents (reduce (leadingSlashes path != 0) upper ++ [name])) =
      (List.replicate (leadingSlashes path) "" ++ reduce (leadingSlashes path != 0) upper) ++ [name] := by
    rw [components_replicate, components_ofComponents (by simp) bare, List.append_assoc]
  refine ⟨_, Eq.trans ?_ whole⟩
  rw [normalize, reducedParts, if_neg]
  intro isEmpty
  have last := congrArg List.getLast? whole
  rw [String.isEmpty_iff.mp isEmpty, List.getLast?_concat] at last
  exact isName.nonempty (Option.some.inj last).symm

end DeclaredOptions.Path
