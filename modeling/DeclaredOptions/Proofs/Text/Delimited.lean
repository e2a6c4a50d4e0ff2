import DeclaredOptions.Text.Cut
import Mathlib.Data.List.Basic

/-!
Contract: texts that show where they end.

Owns:
- texts without marks, which end at the first mark;
- lists of texts with separators between them and a closing text behind them, which tell all their texts
  apart.

Does not own: which characters are marks.
-/

set_option autoImplicit false

namespace DeclaredOptions.Text

variable {α : Type} {stops : Char → Bool}

/-- A rest that begins with a mark, or is none. -/
def Stopped (stops : Char → Bool) (rest : List Char) : Prop := ∀ c ∈ rest.head?, stops c = true

theorem stopped_cons {c : Char} (mark : stops c = true) (rest : List Char) :
    Stopped stops (c :: rest) := by
  intro d first
  rw [← Option.some.inj first]
  exact mark

/-- Texts without marks are told apart from what stands after them. -/
theorem append_inj_of_stopped {first second firstRest secondRest : List Char}
    (bareFirst : ∀ c ∈ first, stops c = false) (bareSecond : ∀ c ∈ second, stops c = false)
    (firstStopped : Stopped stops firstRest) (secondStopped : Stopped stops secondRest)
    (same : first ++ firstRest = second ++ secondRest) :
    first = second ∧ firstRest = secondRest := by
  induction first generalizing second with
  | nil =>
      cases second with
      | nil => exact ⟨rfl, same⟩
      | cons c more =>
          have isMark := firstStopped c (by rw [← List.nil_append firstRest, same]; rfl)
          rw [bareSecond c List.mem_cons_self] at isMark
          contradiction
  | cons c rest inductionHypothesis =>
      rw [List.forall_mem_cons] at bareFirst
      cases second with
      | nil =>
          have isMark := secondStopped c (by rw [← List.nil_append secondRest, ← same]; rfl)
          rw [bareFirst.1] at isMark
          contradiction
      | cons d more =>
          rw [List.forall_mem_cons] at bareSecond
          obtain ⟨sameHead, sameTail⟩ := List.cons.inj same
          obtain ⟨sameMore, sameRest⟩ := inductionHypothesis bareFirst.2 bareSecond.2 sameTail
          exact ⟨by rw [sameHead, sameMore], sameRest⟩

/-- The texts of valid values tell the values apart, if marks follow the texts or nothing does. -/
def SelfDelimiting (stops : Char → Bool) (valid : α → Prop) (source : α → List Char) : Prop :=
  ∀ ⦃a b : α⦄ ⦃rest other : List Char⦄, valid a → valid b → Stopped stops rest →
    Stopped stops other → source a ++ rest = source b ++ other → a = b ∧ rest = other

/-! ## Texts in a row -/

/-- What stands behind the first of several texts: each other one after a separator, and then a rest. -/
def rowTail (separator : List Char) (source : α → List Char) (rest : List Char) :
    List α → List Char
  | [] => rest
  | a :: values => separator ++ (source a ++ rowTail separator source rest values)

theorem join_append (separator : List Char) (source : α → List Char) (rest : List Char) (a : α)
    (values : List α) :
    join separator ((a :: values).map source) ++ rest =
      source a ++ rowTail separator source rest values := by
  induction values generalizing a with
  | nil => rfl
  | cons b more inductionHypothesis =>
      have later := inductionHypothesis b
      simp only [List.map_cons] at later ⊢
      rw [join, List.append_assoc, later, rowTail, List.append_assoc]
      simp

section Joined

variable {valid : α → Prop} {source : α → List Char} {separator closing : List Char}
  {mark closingMark : Char}

theorem stopped_rowTail (opens : separator.head? = some mark) (separates : stops mark = true)
    {rest : List Char} (stopped : Stopped stops rest) (values : List α) :
    Stopped stops (rowTail separator source rest values) := by
  cases values with
  | nil => exact stopped
  | cons a more =>
      obtain ⟨others, rfl⟩ := List.head?_eq_some_iff.mp opens
      exact stopped_cons separates _

/-- The texts behind the first one tell their values apart. -/
theorem rowTail_inj (delimits : SelfDelimiting stops valid source)
    (opens : separator.head? = some mark) (separates : stops mark = true)
    (closes : closing.head? = some closingMark) (closingStops : stops closingMark = true)
    (apart : mark ≠ closingMark) {values others : List α} {rest other : List Char}
    (valuesValid : ∀ a ∈ values, valid a) (othersValid : ∀ a ∈ others, valid a)
    (same : rowTail separator source (closing ++ rest) values =
      rowTail separator source (closing ++ other) others) :
    values = others ∧ rest = other := by
  obtain ⟨separatorRest, isSeparator⟩ := List.head?_eq_some_iff.mp opens
  obtain ⟨closingRest, isClosing⟩ := List.head?_eq_some_iff.mp closes
  have stopped : ∀ last, Stopped stops (closing ++ last) := by
    intro last
    rw [isClosing]
    exact stopped_cons closingStops _
  induction values generalizing others with
  | nil =>
      cases others with
      | nil => exact ⟨rfl, List.append_cancel_left same⟩
      | cons b more =>
          rw [rowTail, rowTail, isSeparator, isClosing] at same
          exact absurd (List.cons.inj same).1.symm apart
  | cons a values inductionHypothesis =>
      rw [List.forall_mem_cons] at valuesValid
      cases others with
      | nil =>
          rw [rowTail, rowTail, isSeparator, isClosing] at same
          exact absurd (List.cons.inj same).1 apart
      | cons b more =>
          rw [List.forall_mem_cons] at othersValid
          have sameSources := List.append_cancel_left same
          -- a separator or the closing text stands behind either source, so both end at the same place
          obtain ⟨rfl, sameTails⟩ := delimits valuesValid.1 othersValid.1
            (stopped_rowTail opens separates (stopped rest) values)
            (stopped_rowTail opens separates (stopped other) more) sameSources
          obtain ⟨rfl, sameRest⟩ := inductionHypothesis valuesValid.2 othersValid.2 sameTails
          exact ⟨rfl, sameRest⟩

/-- Texts with separators between them and a closing text behind them tell their values apart, if none of
them begins as the closing text does. -/
theorem join_inj (delimits : SelfDelimiting stops valid source)
    (opens : separator.head? = some mark) (separates : stops mark = true)
    (closes : closing.head? = some closingMark) (closingStops : stops closingMark = true)
    (apart : mark ≠ closingMark)
    (begins : ∀ a, valid a → ∀ rest, (source a ++ rest).head? ≠ some closingMark)
    {values others : List α} {rest other : List Char} (valuesValid : ∀ a ∈ values, valid a)
    (othersValid : ∀ a ∈ others, valid a)
    (same : join separator (values.map source) ++ (closing ++ rest) =
      join separator (others.map source) ++ (closing ++ other)) :
    values = others ∧ rest = other := by
  have closingHead : ∀ last, (closing ++ last).head? = some closingMark := by
    intro last
    rw [List.head?_append, closes]
    rfl
  have stopped : ∀ last, Stopped stops (closing ++ last) := by
    intro last c first
    rw [closingHead] at first
    rw [← Option.some.inj first]
    exact closingStops
  cases values with
  | nil =>
      cases others with
      | nil => exact ⟨rfl, List.append_cancel_left same⟩
      | cons b more =>
          rw [join_append] at same
          have closesEarly := (congrArg List.head? same).symm.trans (closingHead rest)
          exact absurd closesEarly (begins b (othersValid b List.mem_cons_self) _)
  | cons a values =>
      rw [join_append] at same
      cases others with
      | nil =>
          have closesEarly := (congrArg List.head? same).trans (closingHead other)
          exact absurd closesEarly (begins a (valuesValid a List.mem_cons_self) _)
      | cons b more =>
          rw [join_append] at same
          rw [List.forall_mem_cons] at valuesValid othersValid
          obtain ⟨rfl, sameTails⟩ := delimits valuesValid.1 othersValid.1
            (stopped_rowTail opens separates (stopped rest) values)
            (stopped_rowTail opens separates (stopped other) more) same
          obtain ⟨rfl, sameRest⟩ := rowTail_inj delimits opens separates closes closingStops apart
            valuesValid.2 othersValid.2 sameTails
          exact ⟨rfl, sameRest⟩

end Joined

end DeclaredOptions.Text
