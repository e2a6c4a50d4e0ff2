import DeclaredOptions.Failure
import Mathlib.Data.List.Forall2

/-!
Contract: how steps that may fail end, and what they do to the states they run on.

Owns:
- the ending of a step from a state, taken apart where one step follows another;
- steps that keep a relation between states, whether they fail or not, with a condition on their results;
- results in a row, which are all there or end with the first failure.

Does not own: the states, which are those of projects and of resolution.
-/

set_option autoImplicit false

namespace DeclaredOptions

/-! ## Runs -/

/-- Two steps in a row, which may fail for reasons of any kind, run as the first does if it fails, and else as the
second does on its value. -/
theorem run_bind_eq_iff {ε σ α β : Type} {step : ExceptT ε (StateM σ) α}
    {next : α → ExceptT ε (StateM σ) β} {start final : σ} {outcome : Except ε β} :
    (step >>= next).run.run start = (outcome, final) ↔
      (∃ failure, step.run.run start = (.error failure, final) ∧ outcome = .error failure) ∨
      ∃ value middle, step.run.run start = (.ok value, middle) ∧
        (next value).run.run middle = (outcome, final) := by
  have whole : (step >>= next).run.run start =
      (ExceptT.bindCont next (step.run.run start).1).run (step.run.run start).2 := rfl
  generalize step.run.run start = first at whole ⊢
  obtain ⟨first, middle⟩ := first
  cases first with
  | ok value =>
      change (step >>= next).run.run start = (next value).run.run middle at whole
      rw [whole]
      constructor
      · exact fun ends => .inr ⟨value, middle, rfl, ends⟩
      · rintro (⟨failure, failed, -⟩ | ⟨other, last, same, rest⟩)
        · cases failed
        · cases same
          exact rest
  | error failure =>
      change (step >>= next).run.run start = (.error failure, middle) at whole
      rw [whole]
      constructor
      · intro ends
        cases ends
        exact .inl ⟨failure, rfl, rfl⟩
      · rintro (⟨other, failed, rfl⟩ | ⟨value, last, impossible, -⟩)
        · cases failed
          rfl
        · cases impossible

/-- A step over states of one type: it may fail, and leaves a state all the same. -/
abbrev Step (σ α : Type) := ExceptT Failure (StateM σ) α

namespace Step

variable {σ α β : Type}

/-! ## Endings -/

/-- A step from a state ends with an outcome in a state. -/
def Ends (step : Step σ α) (start : σ) (outcome : Except Failure α) (final : σ) : Prop :=
  step.run.run start = (outcome, final)

variable {start final : σ} {outcome : Except Failure α}

theorem ends_exists (step : Step σ α) (start : σ) :
    ∃ outcome final, step.Ends start outcome final :=
  ⟨(step.run.run start).1, (step.run.run start).2, rfl⟩

/-- A step from a state ends in one way. -/
theorem ends_unique {step : Step σ α} {other : Except Failure α} {last : σ}
    (ends : step.Ends start outcome final) (again : step.Ends start other last) :
    outcome = other ∧ final = last :=
  Prod.mk.inj (ends.symm.trans again)

theorem ends_pure {value : α} :
    (pure value : Step σ α).Ends start outcome final ↔ outcome = .ok value ∧ final = start := by
  change (Except.ok value, start) = (outcome, final) ↔ _
  rw [Prod.mk.injEq, eq_comm, @eq_comm _ start]

theorem ends_throw {failure : Failure} :
    (throw failure : Step σ α).Ends start outcome final ↔
      outcome = .error failure ∧ final = start := by
  change (Except.error failure, start) = (outcome, final) ↔ _
  rw [Prod.mk.injEq, eq_comm, @eq_comm _ start]

/-- A step whose value passes a check ends with such a value. -/
theorem ends_of_check (step : Step σ α) (start : σ) (check : α → Bool)
    (passes : (step.run.run start).1.toOption.any check) :
    ∃ value final, step.Ends start (.ok value) final ∧ check value := by
  obtain ⟨outcome, final, ends⟩ := ends_exists step start
  have ran : step.run.run start = (outcome, final) := ends
  rw [ran] at passes
  cases outcome with
  | ok value => exact ⟨value, final, ends, passes⟩
  | error failure => contradiction

variable {step : Step σ α} {next : α → Step σ β}

/-- Two steps in a row end as the first does if it fails, and else as the second does on its value. -/
theorem ends_bind {outcome : Except Failure β} :
    (step >>= next).Ends start outcome final ↔
      (∃ failure, step.Ends start (.error failure) final ∧ outcome = .error failure) ∨
      ∃ value middle, step.Ends start (.ok value) middle ∧ (next value).Ends middle outcome final :=
  run_bind_eq_iff

theorem ends_bind_ok {result : β} :
    (step >>= next).Ends start (.ok result) final ↔
      ∃ value middle, step.Ends start (.ok value) middle ∧
        (next value).Ends middle (.ok result) final := by
  simp [ends_bind]

/-- What follows a look at the state is given the state. -/
theorem ends_get_bind {next : σ → Step σ β} {outcome : Except Failure β} :
    (get >>= next).Ends start outcome final ↔ (next start).Ends start outcome final := Iff.rfl

/-- What follows a change of the state starts from the new one. -/
theorem ends_set_bind {state : σ} {next : PUnit → Step σ β} {outcome : Except Failure β} :
    (set state >>= next).Ends start outcome final ↔ (next ()).Ends state outcome final := Iff.rfl

theorem ends_ite {condition : Prop} [Decidable condition] {first second : Step σ α}
    (ends : (if condition then first else second).Ends start outcome final) :
    first.Ends start outcome final ∨ second.Ends start outcome final := by
  split at ends
  · exact .inl ends
  · exact .inr ends

theorem ends_map {f : α → β} {outcome : Except Failure β} :
    (f <$> step).Ends start outcome final ↔
      ∃ inner, step.Ends start inner final ∧ outcome = inner.map f := by
  rw [map_eq_pure_bind, ends_bind]
  constructor
  · rintro (⟨failure, failed, rfl⟩ | ⟨value, middle, succeeded, second⟩)
    · exact ⟨.error failure, failed, rfl⟩
    · obtain ⟨rfl, rfl⟩ := ends_pure.mp second
      exact ⟨.ok value, succeeded, rfl⟩
  · rintro ⟨inner, ends, rfl⟩
    cases inner with
    | error failure => exact .inl ⟨failure, ends, rfl⟩
    | ok value => exact .inr ⟨value, final, ends, ends_pure.mpr ⟨rfl, rfl⟩⟩

theorem ends_map_ok {f : α → β} {result : β} :
    (f <$> step).Ends start (.ok result) final ↔
      ∃ value, step.Ends start (.ok value) final ∧ f value = result := by
  rw [map_eq_pure_bind, ends_bind_ok]
  constructor
  · rintro ⟨value, middle, first, second⟩
    obtain ⟨same, rfl⟩ := ends_pure.mp second
    exact ⟨value, first, (Except.ok.inj same).symm⟩
  · rintro ⟨value, first, rfl⟩
    exact ⟨value, final, first, ends_pure.mpr ⟨rfl, rfl⟩⟩

/-- Why an outcome is no value, if it is none. -/
def failure? : Except Failure α → Option Failure
  | .ok _ => none
  | .error failure => some failure

@[simp] theorem failure?_map (f : α → β) (outcome : Except Failure α) :
    failure? (outcome.map f) = failure? outcome := by
  cases outcome with
  | ok value => rfl
  | error failure => rfl

/-! ## Relations kept -/

/-- From the states of a condition a step leads to states that are related to them, and where it succeeds,
its value and its last state meet a condition too. -/
def Keeps (relation : σ → σ → Prop) (before : σ → Prop) (step : Step σ α)
    (after : α → σ → Prop) : Prop :=
  ∀ ⦃start outcome final⦄, before start → step.Ends start outcome final →
    relation start final ∧ ∀ value, outcome = .ok value → after value final

variable {relation : σ → σ → Prop} {before : σ → Prop} {after : α → σ → Prop}

theorem keeps_pure (refl : ∀ s, relation s s) {value : α} (holds : ∀ s, before s → after value s) :
    Keeps relation before (pure value) after := by
  intro start outcome final starts ends
  obtain ⟨rfl, rfl⟩ := ends_pure.mp ends
  refine ⟨refl final, ?_⟩
  rintro _ ⟨⟩
  exact holds final starts

theorem keeps_throw (refl : ∀ s, relation s s) {failure : Failure} :
    Keeps relation before (throw failure) after := by
  intro start outcome final _ ends
  obtain ⟨rfl, rfl⟩ := ends_throw.mp ends
  exact ⟨refl final, fun _ impossible => nomatch impossible⟩

/-- Steps in a row keep a transitive relation if each does. -/
theorem keeps_bind (trans : ∀ ⦃a b c⦄, relation a b → relation b c → relation a c)
    {last : β → σ → Prop} (first : Keeps relation before step after)
    (second : ∀ value, Keeps relation (after value) (next value) last) :
    Keeps relation before (step >>= next) last := by
  intro start outcome final starts ends
  rcases ends_bind.mp ends with ⟨failure, failed, rfl⟩ | ⟨value, middle, firstEnds, secondEnds⟩
  · exact ⟨(first starts failed).1, fun _ impossible => nomatch impossible⟩
  · obtain ⟨led, holds⟩ := first starts firstEnds
    obtain ⟨ledOn, finishes⟩ := second value (holds value rfl) secondEnds
    exact ⟨trans led ledOn, finishes⟩

theorem keeps_ite {condition : Prop} [Decidable condition] {other : Step σ α}
    (holding : condition → Keeps relation before step after)
    (failing : ¬condition → Keeps relation before other after) :
    Keeps relation before (if condition then step else other) after := by
  split
  · exact holding ‹_›
  · exact failing ‹_›

/-- What a step reads of the state is what the rest of it starts from. -/
theorem keeps_get_bind {next : σ → Step σ β} {last : β → σ → Prop}
    (rest : ∀ state, before state → Keeps relation (· = state) (next state) last) :
    Keeps relation before (get >>= next) last := by
  intro start outcome final starts ends
  exact rest start starts rfl (ends_get_bind.mp ends)

theorem keeps_from {earlier : σ → Prop} (keeps : Keeps relation before step after)
    (starts : ∀ s, earlier s → before s) : Keeps relation earlier step after :=
  fun _ _ _ begins ends => keeps (starts _ begins) ends

/-- A condition that the relation passes on still holds after a step. -/
theorem keeps_frame (frame : σ → Prop) (keeps : Keeps relation before step after)
    (stable : ∀ ⦃s t⦄, relation s t → frame s → frame t) :
    Keeps relation (fun s => before s ∧ frame s) step fun value t => after value t ∧ frame t := by
  intro start outcome final starts ends
  obtain ⟨led, holds⟩ := keeps starts.1 ends
  exact ⟨led, fun value succeeded => ⟨holds value succeeded, stable led starts.2⟩⟩

/-- A step for each of several values keeps a relation if each does, where the relation passes on what holds
before and after. -/
theorem keeps_mapM {γ : Type} {one : γ → Step σ α} {values : List γ} {holds : γ → σ → Prop}
    (refl : ∀ s, relation s s) (trans : ∀ ⦃a b c⦄, relation a b → relation b c → relation a c)
    (each : ∀ value ∈ values, Keeps relation (holds value) (one value) after)
    (stableBefore : ∀ value ⦃s t⦄, relation s t → holds value s → holds value t)
    (stableAfter : ∀ result ⦃s t⦄, relation s t → after result s → after result t) :
    Keeps relation (fun s => ∀ value ∈ values, holds value s) (values.mapM one)
      fun results t => ∀ result ∈ results, after result t := by
  induction values with
  | nil => exact keeps_pure refl (by simp)
  | cons value rest inductionHypothesis =>
      rw [List.forall_mem_cons] at each
      rw [List.mapM_cons]
      have first := keeps_frame (fun s => ∀ value ∈ rest, holds value s) each.1
        fun s t led all other member => stableBefore other led (all other member)
      refine keeps_bind trans (keeps_from first fun s all => List.forall_mem_cons.mp all) ?_
      intro result
      have others := keeps_frame (after result) (inductionHypothesis each.2) (stableAfter result)
      refine keeps_bind trans (keeps_from others fun s both => ⟨both.2, both.1⟩) ?_
      intro results
      exact keeps_pure refl fun s both => List.forall_mem_cons.mpr ⟨both.2, both.1⟩

/-! ## Failures -/

/-- Whatever a step fails with is of an allowed kind. -/
def FailsOnly (allowed : Failure → Prop) (step : Step σ α) : Prop :=
  ∀ ⦃start failure final⦄, step.Ends start (.error failure) final → allowed failure

section

variable {allowed : Failure → Prop}

theorem failsOnly_pure {value : α} : FailsOnly allowed (pure value : Step σ α) := by
  intro start failure final ends
  exact nomatch (ends_pure.mp ends).1

theorem failsOnly_throw {failure : Failure} (isAllowed : allowed failure) :
    FailsOnly allowed (throw failure : Step σ α) := by
  intro start other final ends
  cases (ends_throw.mp ends).1
  exact isAllowed

theorem failsOnly_bind (first : FailsOnly allowed step)
    (second : ∀ value, FailsOnly allowed (next value)) : FailsOnly allowed (step >>= next) := by
  intro start failure final ends
  rcases ends_bind.mp ends with ⟨other, failed, same⟩ | ⟨value, middle, -, rest⟩
  · cases same
    exact first failed
  · exact second value rest

theorem failsOnly_ite {condition : Prop} [Decidable condition] {other : Step σ α}
    (holding : FailsOnly allowed step) (failing : FailsOnly allowed other) :
    FailsOnly allowed (if condition then step else other) := by
  split
  · exact holding
  · exact failing

theorem failsOnly_get_bind {next : σ → Step σ β} (rest : ∀ state, FailsOnly allowed (next state)) :
    FailsOnly allowed (get >>= next) := by
  intro start failure final ends
  exact rest start (ends_get_bind.mp ends)

theorem failsOnly_set_bind {state : σ} {next : PUnit → Step σ β}
    (rest : FailsOnly allowed (next ())) : FailsOnly allowed (set state >>= next) := by
  intro start failure final ends
  exact rest (ends_set_bind.mp ends)

theorem failsOnly_map {f : α → β} (inner : FailsOnly allowed step) :
    FailsOnly allowed (f <$> step) := by
  rw [map_eq_pure_bind]
  exact failsOnly_bind inner fun _ => failsOnly_pure

end

/-- A step for each of several values gives a result for each, by a run of its own. -/
theorem forall₂_of_ends_mapM {γ : Type} {one : γ → Step σ α} {values : List γ} {results : List α}
    (ends : Step.Ends (values.mapM one) start (.ok results) final) :
    List.Forall₂ (fun value result => ∃ before after,
      Step.Ends (one value) before (.ok result) after) values results := by
  induction values generalizing start final results with
  | nil =>
      cases (ends_pure.mp ends).1
      exact .nil
  | cons value rest inductionHypothesis =>
      rw [List.mapM_cons] at ends
      obtain ⟨result, middle, first, others⟩ := ends_bind_ok.mp ends
      obtain ⟨more, last, later, ending⟩ := ends_bind_ok.mp others
      cases (ends_pure.mp ending).1
      exact .cons ⟨start, middle, first⟩ (inductionHypothesis later)

end Step

/-! ## Results in a row -/

section

variable {α β ε : Type} {f : α → Except ε β} {values : List α}

theorem mapM_eq_ok_iff {results : List β} :
    values.mapM f = .ok results ↔
      List.Forall₂ (fun value result => f value = .ok result) values results := by
  induction values generalizing results with
  | nil =>
      rw [List.mapM_nil, List.forall₂_nil_left_iff]
      exact ⟨fun same => (Except.ok.inj same).symm, fun same => congrArg Except.ok same.symm⟩
  | cons value rest inductionHypothesis =>
      rw [List.mapM_cons, List.forall₂_cons_left_iff]
      cases first : f value with
      | error failure => exact iff_of_false nofun fun ⟨_, _, impossible, _⟩ => nomatch impossible
      | ok result =>
          change ((rest.mapM f) >>= fun more => pure (result :: more)) = .ok results ↔ _
          cases others : rest.mapM f with
          | error failure =>
              refine iff_of_false nofun ?_
              rintro ⟨_, more, -, all, -⟩
              rw [inductionHypothesis.mpr all] at others
              contradiction
          | ok more =>
              constructor
              · rintro ⟨⟩
                exact ⟨result, more, rfl, inductionHypothesis.mp others, rfl⟩
              · rintro ⟨_, _, ⟨⟩, all, rfl⟩
                rw [inductionHypothesis.mpr all] at others
                cases others
                rfl

/-- What goes with each of several values, in order, is a row of its own. -/
theorem map_eq_map_of_forall₂ {γ : Type} {key : α → γ} {given : β → γ} {results : List β}
    (all : List.Forall₂ (fun value result => given result = key value) values results) :
    results.map given = values.map key := by
  induction all with
  | nil => rfl
  | cons first _ inductionHypothesis => rw [List.map_cons, List.map_cons, first, inductionHypothesis]

theorem exists_mapM_eq_ok (each : ∀ value ∈ values, ∃ result, f value = .ok result) :
    ∃ results, values.mapM f = .ok results := by
  induction values with
  | nil => exact ⟨[], rfl⟩
  | cons value rest inductionHypothesis =>
      rw [List.forall_mem_cons] at each
      obtain ⟨result, first⟩ := each.1
      obtain ⟨more, others⟩ := inductionHypothesis each.2
      exact ⟨result :: more, by rw [List.mapM_cons, first, others]; rfl⟩

theorem exists_of_mapM_eq_ok {results : List β} (ran : values.mapM f = .ok results) :
    ∀ result ∈ results, ∃ value ∈ values, f value = .ok result := by
  have all := mapM_eq_ok_iff.mp ran
  clear ran
  induction all with
  | nil => simp
  | @cons value result rest more succeeded _ inductionHypothesis =>
      rw [List.forall_mem_cons]
      refine ⟨⟨value, List.mem_cons_self, succeeded⟩, fun later member => ?_⟩
      obtain ⟨source, inRest, gives⟩ := inductionHypothesis later member
      exact ⟨source, List.mem_cons_of_mem _ inRest, gives⟩

theorem exists_result_of_mapM_eq_ok {results : List β} (ran : values.mapM f = .ok results) :
    ∀ value ∈ values, ∃ result ∈ results, f value = .ok result := by
  have all := mapM_eq_ok_iff.mp ran
  clear ran
  induction all with
  | nil => simp
  | @cons value result rest more succeeded _ inductionHypothesis =>
      rw [List.forall_mem_cons]
      refine ⟨⟨result, List.mem_cons_self, succeeded⟩, fun later member => ?_⟩
      obtain ⟨given, inMore, gives⟩ := inductionHypothesis later member
      exact ⟨given, List.mem_cons_of_mem _ inMore, gives⟩

/-- Results in a row fail as one of them does. -/
theorem exists_of_mapM_eq_error {failure : ε} (failed : values.mapM f = .error failure) :
    ∃ value ∈ values, f value = .error failure := by
  induction values with
  | nil => exact nomatch failed
  | cons value rest inductionHypothesis =>
      rw [List.mapM_cons] at failed
      cases first : f value with
      | error other =>
          rw [first] at failed
          cases failed
          exact ⟨value, List.mem_cons_self, first⟩
      | ok result =>
          rw [first] at failed
          cases others : rest.mapM f with
          | error other =>
              rw [others] at failed
              cases failed
              obtain ⟨later, inRest, fails⟩ := inductionHypothesis others
              exact ⟨later, List.mem_cons_of_mem _ inRest, fails⟩
          | ok more =>
              rw [others] at failed
              exact nomatch failed

/-- Where all failures are one and the same, results in a row fail with it if any does. -/
theorem mapM_eq_error {failure : ε}
    (each : ∀ value ∈ values, f value = .error failure ∨ ∃ result, f value = .ok result)
    (fails : ∃ value ∈ values, f value = .error failure) : values.mapM f = .error failure := by
  induction values with
  | nil => simp at fails
  | cons value rest inductionHypothesis =>
      rw [List.forall_mem_cons] at each
      rw [List.mapM_cons]
      rcases each.1 with failed | ⟨result, succeeded⟩
      · rw [failed]
        rfl
      · have failsLater : ∃ later ∈ rest, f later = .error failure := by
          obtain ⟨later, member, failed⟩ := fails
          rcases List.mem_cons.mp member with rfl | inRest
          · rw [succeeded] at failed
            contradiction
          · exact ⟨later, inRest, failed⟩
        rw [succeeded, inductionHypothesis each.2 failsLater]
        rfl

end

end DeclaredOptions
