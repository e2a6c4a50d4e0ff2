import DeclaredOptions.Proofs.Text.Cutting
import Mathlib.Data.List.DropRight

/-!
Contract: blank texts, and the lines of running text.

Owns:
- what trimming takes off a text, and the texts that it leaves nothing of;
- line boundaries, which are blanks;
- the first line of a text, which is all before the first boundary.

Does not own: lines that are cut at line feeds alone; these are pieces.
-/

set_option autoImplicit false

namespace DeclaredOptions.Text

/-! ## Blank texts -/

theorem mem_of_mem_trim {text : List Char} {c : Char} (member : c ∈ trim text) : c ∈ text := by
  have endOff : trim text <+: trimStart text := dropEndWhile_prefix isBlank _
  exact (List.dropWhile_suffix isBlank).subset (endOff.subset member)

theorem trim_eq_nil_iff {text : List Char} : trim text = [] ↔ ∀ c ∈ text, isBlank c = true := by
  have endOnly : trim text = [] ↔ ∀ c ∈ trimStart text, isBlank c = true := List.rdropWhile_eq_nil_iff
  rw [endOnly]
  constructor
  · intro startBlank
    have noStart : trimStart text = [] := by
      by_contra isThere
      have stays := List.head_dropWhile_not isBlank isThere
      have blank : isBlank ((text.dropWhile isBlank).head isThere) = true :=
        startBlank _ (List.head_mem isThere)
      rw [blank] at stays
      contradiction
    exact List.dropWhile_eq_nil_iff.mp noStart
  · intro allBlank c member
    exact allBlank c ((List.dropWhile_suffix isBlank).subset member)

/-! ## Lines -/

theorem isBlank_of_isLineBoundary {c : Char} (boundary : isLineBoundary c = true) :
    isBlank c = true := by
  simp only [isLineBoundary, isBlank, Bool.or_eq_true, Bool.and_eq_true, beq_iff_eq,
    decide_eq_true_eq] at boundary ⊢
  omega

/-- The line under way goes on to the next boundary. -/
theorem exists_linesFrom (current : List Char) {text : List Char} (there : current ++ text ≠ []) :
    ∃ more, linesFrom current text =
      (current.reverse ++ text.takeWhile fun c => !isLineBoundary c) :: more := by
  fun_induction linesFrom current text with
  | case1 current isEmpty =>
      rw [List.append_nil] at there
      exact absurd (List.isEmpty_iff.mp isEmpty) there
  | case2 current notEmpty => exact ⟨[], by simp⟩
  | case3 current rest => exact ⟨linesFrom [] rest, by simp [isLineBoundary]⟩
  | case4 current c rest _ boundary => exact ⟨linesFrom [] rest, by simp [boundary]⟩
  | case5 current c rest _ inside inductionHypothesis =>
      obtain ⟨more, cut⟩ := inductionHypothesis (by simp)
      exact ⟨more, by simp [cut, inside]⟩

theorem head?_lines {text : List Char} (there : text ≠ []) :
    (lines text).head? = some (text.takeWhile fun c => !isLineBoundary c) := by
  obtain ⟨more, cut⟩ := exists_linesFrom [] there
  rw [lines, cut]
  rfl

theorem trim_firstLine_ne_nil {text : List Char} (there : text ≠ [])
    (bare : ∀ c ∈ text.head?, isBlank c = false) :
    trim (text.takeWhile fun c => !isLineBoundary c) ≠ [] := by
  obtain ⟨first, rest, rfl⟩ := List.exists_cons_of_ne_nil there
  have firstBare : isBlank first = false := bare first rfl
  have firstInside : isLineBoundary first = false := by
    by_contra boundary
    rw [isBlank_of_isLineBoundary (by simpa using boundary)] at firstBare
    contradiction
  rw [ne_eq, trim_eq_nil_iff, List.takeWhile_cons_of_pos (by simp [firstInside]),
    List.forall_mem_cons]
  simp [firstBare]

end DeclaredOptions.Text
