import DeclaredOptions.Source.Grammar
import Mathlib.Data.List.Basic

/-!
Contract: what holds of every result of a parser.

Owns: results under a property, through sequences, choices and repetitions of parsers.

Does not own: which parsers succeed, and where they stop.
-/

set_option autoImplicit false

namespace DeclaredOptions.Source.Parser

/-- Every result that a parser gives under some rules has a property. -/
def Gives {α : Type} (rules : Rules) (p : Parser α) (P : α → Prop) : Prop :=
  ∀ (cursor : Cursor) (value : α) (next : Cursor),
    (p rules).run cursor = some (value, next) → P value

section Outcome

variable {α β : Type} {rules : Rules} {P : α → Prop} {Q : β → Prop}

theorem gives_pure {value : α} (holds : P value) : Gives rules (pure value) P := by
  intro cursor result next ran
  have equal : some (value, cursor) = some (result, next) := ran
  rw [Option.some.injEq, Prod.mk.injEq] at equal
  rw [← equal.1]
  exact holds

theorem gives_failure : Gives rules (failure : Parser α) P := by
  intro cursor result next ran
  have impossible : none = some (result, next) := ran
  contradiction

theorem gives_bind {p : Parser α} {f : α → Parser β} (first : Gives rules p P)
    (second : ∀ a, P a → Gives rules (f a) Q) : Gives rules (p >>= f) Q := by
  intro cursor result next ran
  have steps : ((p rules).run cursor).bind (fun pair => (f pair.1 rules).run pair.2) =
      some (result, next) := ran
  rw [Option.bind_eq_some_iff] at steps
  obtain ⟨⟨middle, between⟩, ranFirst, ranSecond⟩ := steps
  exact second middle (first cursor middle between ranFirst) between result next ranSecond

/-- Nothing need be known of the first of two parsers. -/
theorem gives_bind_any {p : Parser α} {f : α → Parser β} (second : ∀ a, Gives rules (f a) Q) :
    Gives rules (p >>= f) Q :=
  gives_bind (P := fun _ => True) (fun _ _ _ _ => trivial) fun a _ => second a

theorem gives_ite {c : Prop} [Decidable c] {p q : Parser α} (yes : Gives rules p P)
    (no : Gives rules q P) : Gives rules (if c then p else q) P := by
  by_cases holds : c
  · rw [if_pos holds]
    exact yes
  · rw [if_neg holds]
    exact no

theorem gives_map {p : Parser α} {f : α → β} (one : Gives rules p fun a => Q (f a)) :
    Gives rules (f <$> p) Q := by
  rw [map_eq_pure_bind]
  exact gives_bind one fun _ holds => gives_pure holds

theorem gives_mono {p : Parser α} {P' : α → Prop} (one : Gives rules p P)
    (weaker : ∀ a, P a → P' a) : Gives rules p P' :=
  fun cursor value next ran => weaker value (one cursor value next ran)

theorem gives_orElse {p q : Parser α} (left : Gives rules p P) (right : Gives rules q P) :
    Gives rules (p <|> q) P := by
  intro cursor result next ran
  have choice : ((p rules).run cursor).or ((q rules).run cursor) = some (result, next) := by
    rw [← ran]
    change _ = ((p rules).run cursor <|> (q rules).run cursor)
    cases (p rules).run cursor <;> rfl
  rw [Option.or_eq_some_iff] at choice
  rcases choice with ranLeft | ⟨-, ranRight⟩
  · exact left cursor result next ranLeft
  · exact right cursor result next ranRight

theorem gives_attempt? {p : Parser α} (one : Gives rules p P) :
    Gives rules (attempt? p) fun found => ∀ value ∈ found, P value := by
  refine gives_orElse (gives_map (gives_mono one ?_)) (gives_pure (by simp))
  intro value holds found member
  rw [← Option.mem_some_iff.mp member]
  exact holds

theorem gives_manyUntil {atEnd : Parser Bool} {p : Parser α} (one : Gives rules p P) :
    Gives rules (manyUntil atEnd p) fun values => ∀ value ∈ values, P value := by
  have bounded (fuel : Nat) :
      Gives rules (manyUntilFuel atEnd p fuel) fun values => ∀ value ∈ values, P value := by
    induction fuel with
    | zero => exact gives_failure
    | succ fuel inductionHypothesis =>
        refine gives_bind_any fun finished => ?_
        split
        · exact gives_pure (by simp)
        · refine gives_bind_any fun before => gives_bind one fun first holds => ?_
          refine gives_bind_any fun after => gives_bind_any fun _ => ?_
          refine gives_bind inductionHypothesis fun more allHold => gives_pure ?_
          exact List.forall_mem_cons.mpr ⟨holds, allHold⟩
  exact gives_bind_any fun cursor => bounded _

theorem gives_listTo {close : String} {item : Parser α} (one : Gives rules item P) :
    Gives rules (listTo close item) fun values => ∀ value ∈ values, P value := by
  have separated : Gives rules (do
      let first ← item
      unless ← sees close do symbol ","
      pure first) P := by
    refine gives_bind one fun first holds => gives_bind_any fun isLast => ?_
    exact gives_ite (gives_pure holds) (gives_bind_any fun _ => gives_pure holds)
  refine gives_bind (gives_manyUntil separated) fun values allHold => ?_
  exact gives_bind_any fun _ => gives_pure allHold

theorem gives_lexeme (length? : List Char → Option Nat) :
    Gives rules (lexeme length?) fun text =>
      ∃ rest length, length? rest = some length ∧ text = String.ofList (rest.take length) := by
  refine gives_bind_any fun cursor => ?_
  split
  · rename_i length cut
    exact gives_bind_any fun _ => gives_pure ⟨cursor.rest, length, cut, rfl⟩
  · exact gives_failure

end Outcome

end DeclaredOptions.Source.Parser
