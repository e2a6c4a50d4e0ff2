import Mathlib.Data.List.Nodup
import Mathlib.Data.List.Induction

/-!
Contract: lists in which only the first occurrence of each value is left.

Owns:
- one more value at the end, which stays if it is new, and values under a map;
- first occurrences of what a filter leaves, and of what comes in blocks of equal values.

Does not own: what the values stand for.

All of it goes by induction from the end of a list, because what is left of a list depends on what stands before,
never on what comes after.
-/

set_option autoImplicit false

namespace DeclaredOptions.FirstOccurrence

variable {α β : Type}

private theorem loop_concat (same : α → α → Bool) (values kept : List α) (last : α) :
    List.eraseDupsBy.loop same (values ++ [last]) kept =
      if (List.eraseDupsBy.loop same values kept).any (same last) then
        List.eraseDupsBy.loop same values kept
      else List.eraseDupsBy.loop same values kept ++ [last] := by
  induction values generalizing kept with
  | nil =>
      simp only [List.nil_append, List.eraseDupsBy.loop, List.any_reverse]
      cases kept.any (same last) with
      | true => rfl
      | false => exact List.reverse_cons
  | cons value rest inductionHypothesis =>
      rw [List.cons_append]
      unfold List.eraseDupsBy.loop
      cases kept.any (same value) with
      | true => exact inductionHypothesis kept
      | false => exact inductionHypothesis (value :: kept)

/-- A value at the end stays if it is the same as none that is left of those before. -/
theorem eraseDupsBy_concat (same : α → α → Bool) (values : List α) (last : α) :
    (values ++ [last]).eraseDupsBy same =
      if (values.eraseDupsBy same).any (same last) then values.eraseDupsBy same
      else values.eraseDupsBy same ++ [last] :=
  loop_concat same values [] last

theorem eraseDupsBy_sublist (same : α → α → Bool) (values : List α) :
    (values.eraseDupsBy same).Sublist values := by
  induction values using List.reverseRecOn with
  | nil => exact List.Sublist.slnil
  | append_singleton values last inductionHypothesis =>
      rw [eraseDupsBy_concat]
      split
      · exact inductionHypothesis.trans (List.sublist_append_left values [last])
      · exact inductionHypothesis.append (List.Sublist.refl [last])

/-- Of two values that are left, the later is not the same as the earlier. -/
theorem pairwise_eraseDupsBy (same : α → α → Bool) (values : List α) :
    (values.eraseDupsBy same).Pairwise fun earlier later => ¬same later earlier := by
  induction values using List.reverseRecOn with
  | nil => exact List.Pairwise.nil
  | append_singleton values last inductionHypothesis =>
      rw [eraseDupsBy_concat]
      split
      · exact inductionHypothesis
      · rename_i isNew
        rw [Bool.not_eq_true, List.any_eq_false] at isNew
        rw [List.pairwise_append]
        refine ⟨inductionHypothesis, List.pairwise_singleton _ _, fun earlier kept later isLast => ?_⟩
        rw [List.mem_singleton.mp isLast]
        exact isNew earlier kept

/-- First occurrences may be taken before or after a map under which the same values stay the same. -/
theorem eraseDupsBy_map {f : α → β} {same : α → α → Bool} {same' : β → β → Bool}
    (keeps : ∀ a b, same' (f a) (f b) = same a b) (values : List α) :
    (values.map f).eraseDupsBy same' = (values.eraseDupsBy same).map f := by
  induction values using List.reverseRecOn with
  | nil => rfl
  | append_singleton values last inductionHypothesis =>
      have sameAny : ((values.eraseDupsBy same).map f).any (same' (f last)) =
          (values.eraseDupsBy same).any (same last) := by
        rw [List.any_map]
        exact congrArg _ (funext fun value => keeps last value)
      rw [List.map_append, List.map_singleton, eraseDupsBy_concat, inductionHypothesis, sameAny,
        eraseDupsBy_concat]
      split
      · rfl
      · rw [List.map_append, List.map_singleton]

variable [DecidableEq α]

theorem eraseDups_concat (values : List α) (last : α) :
    (values ++ [last]).eraseDups =
      if last ∈ values then values.eraseDups else values.eraseDups ++ [last] := by
  have isThere : (values.eraseDups.any (last == ·)) = decide (last ∈ values) := by
    rw [Bool.eq_iff_iff, List.any_beq, decide_eq_true_iff, List.contains_iff_mem,
      List.mem_eraseDups]
  have whole := eraseDupsBy_concat (· == ·) values last
  change (values ++ [last]).eraseDups = if values.eraseDups.any (last == ·) then values.eraseDups
    else values.eraseDups ++ [last] at whole
  rw [whole, isThere]
  by_cases earlier : last ∈ values
  · rw [decide_eq_true earlier, if_pos rfl, if_pos earlier]
  · rw [decide_eq_false earlier, if_neg Bool.false_ne_true, if_neg earlier]

theorem nodup_eraseDups (values : List α) : values.eraseDups.Nodup := by
  induction values using List.reverseRecOn with
  | nil => exact List.nodup_nil
  | append_singleton values last inductionHypothesis =>
      rw [eraseDups_concat]
      split
      · exact inductionHypothesis
      · rename_i isNew
        have notKept : last ∉ values.eraseDups := fun kept => isNew (List.mem_eraseDups.mp kept)
        rw [← List.concat_eq_append, List.nodup_concat]
        exact ⟨notKept, inductionHypothesis⟩

/-- First occurrences may be filtered before or after they are taken. -/
theorem eraseDups_filter (keep : α → Bool) (values : List α) :
    (values.filter keep).eraseDups = values.eraseDups.filter keep := by
  induction values using List.reverseRecOn with
  | nil => rfl
  | append_singleton values last inductionHypothesis =>
      rw [List.filter_append, eraseDups_concat]
      by_cases kept : keep last
      · rw [List.filter_singleton, kept]
        have sameMember : last ∈ values.filter keep ↔ last ∈ values := by
          rw [List.mem_filter]
          exact and_iff_left kept
        change (values.filter keep ++ [last]).eraseDups = _
        rw [eraseDups_concat, inductionHypothesis]
        by_cases earlier : last ∈ values
        · rw [if_pos (sameMember.mpr earlier), if_pos earlier]
        · rw [if_neg (mt sameMember.mp earlier), if_neg earlier, List.filter_append,
            List.filter_singleton, kept]
          rfl
      · have dropped : [last].filter keep = [] := by simp [kept]
        rw [dropped, List.append_nil, inductionHypothesis]
        split
        · rfl
        · rw [List.filter_append, dropped, List.append_nil]

private theorem eraseDups_of_equal {value : α} {values : List α} (nonempty : values ≠ [])
    (equal : ∀ other ∈ values, other = value) : values.eraseDups = [value] := by
  cases values with
  | nil => contradiction
  | cons first rest =>
      obtain ⟨rfl, equalRest⟩ := List.forall_mem_cons.mp equal
      have noneLeft : (rest.filter fun other => !other == first) = [] := by
        rw [List.filter_eq_nil_iff]
        intro other member
        simp [equalRest other member]
      rw [List.eraseDups_cons, noneLeft]
      rfl

/-- Of blocks of equal values, one for each of several values, these values are left. -/
theorem eraseDups_flatMap {values : List α} {block : α → List α} (nodup : values.Nodup)
    (nonempty : ∀ value ∈ values, block value ≠ [])
    (equal : ∀ value ∈ values, ∀ other ∈ block value, other = value) :
    (values.flatMap block).eraseDups = values := by
  induction values using List.reverseRecOn with
  | nil => rfl
  | append_singleton values last inductionHypothesis =>
      rw [← List.concat_eq_append, List.nodup_concat] at nodup
      rw [List.forall_mem_append, List.forall_mem_singleton] at nonempty equal
      have apart : (block last).removeAll (values.flatMap block) = block last := by
        refine List.filter_eq_self.mpr fun other inLast => ?_
        have isLast := equal.2 other inLast
        subst isLast
        have notBefore : other ∉ values.flatMap block := by
          rintro inBefore
          obtain ⟨value, member, inBlock⟩ := List.mem_flatMap.mp inBefore
          exact nodup.1 (equal.1 value member other inBlock ▸ member)
        simpa using notBefore
      rw [List.flatMap_append, List.flatMap_singleton, List.eraseDups_append, apart,
        inductionHypothesis nodup.2 nonempty.1 equal.1, eraseDups_of_equal nonempty.2 equal.2]

end DeclaredOptions.FirstOccurrence
