import DeclaredOptions.Proofs.Console.Escaping
import DeclaredOptions.Proofs.Step
import DeclaredOptions.Work

/-!
Contract: how the steps of a run end, and which of them leave the tree alone.

Owns:
- the ending of a step, taken apart where one step follows another, and that of a loop, round by round;
- steps that leave the tree as it is, however they end: all but the writing of files and the making of directories;
- warnings, after which a run goes on unless one of them cannot be shown.

Does not own: what is written.
-/

set_option autoImplicit false

namespace DeclaredOptions.Tool.Work

variable {α β : Type}

/-! ## Endings -/

/-- A step from a workplace ends with an outcome in a workplace. -/
def Ends (step : Work α) (start : Workplace) (outcome : Except Mishap α) (final : Workplace) : Prop :=
  step.run.run start = (outcome, final)

variable {start final : Workplace}

theorem ends_exists (step : Work α) (start : Workplace) :
    ∃ outcome final, Ends step start outcome final :=
  ⟨(step.run.run start).1, (step.run.run start).2, rfl⟩

theorem ends_pure {value : α} {outcome : Except Mishap α} :
    Ends (pure value) start outcome final ↔ outcome = .ok value ∧ final = start := by
  change (Except.ok value, start) = (outcome, final) ↔ _
  rw [Prod.mk.injEq, eq_comm, @eq_comm _ start]

theorem ends_throw {mishap : Mishap} {outcome : Except Mishap α} :
    Ends (throw mishap) start outcome final ↔ outcome = .error mishap ∧ final = start := by
  change (Except.error mishap, start) = (outcome, final) ↔ _
  rw [Prod.mk.injEq, eq_comm, @eq_comm _ start]

theorem ends_bind {step : Work α} {next : α → Work β} {outcome : Except Mishap β} :
    Ends (step >>= next) start outcome final ↔
      (∃ mishap, Ends step start (.error mishap) final ∧ outcome = .error mishap) ∨
      ∃ value middle, Ends step start (.ok value) middle ∧ Ends (next value) middle outcome final :=
  run_bind_eq_iff

theorem ends_bind_ok {step : Work α} {next : α → Work β} {result : β} :
    Ends (step >>= next) start (.ok result) final ↔
      ∃ value middle, Ends step start (.ok value) middle ∧
        Ends (next value) middle (.ok result) final := by
  simp [ends_bind]

theorem ends_bind_error {step : Work α} {next : α → Work β} {mishap : Mishap}
    (failed : Ends step start (.error mishap) final) :
    Ends (step >>= next) start (.error mishap) final :=
  ends_bind.mpr (.inl ⟨mishap, failed, rfl⟩)

theorem ends_get_bind {next : Workplace → Work β} {outcome : Except Mishap β} :
    Ends (get >>= next) start outcome final ↔ Ends (next start) start outcome final := Iff.rfl

theorem ends_ofExcept_ok {result : Except Failure α} {value : α} :
    Ends (ofExcept result) start (.ok value) final ↔ result = .ok value ∧ final = start := by
  cases result with
  | ok found =>
      refine ends_pure.trans ?_
      simp [eq_comm]
  | error failure =>
      refine ends_throw.trans ?_
      simp

theorem ends_ofExcept_error {failure : Failure} :
    Ends (ofExcept (.error failure) : Work α) start (.error (.failure failure)) start := rfl

theorem ends_onConsole_ok {step : Console → Except Console.MarkupFault Console} {next : Console}
    (shown : step start.console = .ok next) :
    Ends (onConsole step) start (.ok ()) { start with console := next } := by
  apply ends_get_bind.mpr
  rw [shown]
  rfl

/-- A loop whose rounds all end well, from a workplace to another. -/
inductive Rounds {γ : Type} (round : γ → Work Unit) : Workplace → List γ → Workplace → Prop where
  | nil (place : Workplace) : Rounds round place [] place
  | cons {item : γ} {rest : List γ} {start middle final : Workplace} (first : Ends (round item) start (.ok ()) middle)
      (others : Rounds round middle rest final) : Rounds round start (item :: rest) final

theorem rounds_of_ends_forIn {γ : Type} {round : γ → Work Unit} {items : List γ}
    (ends : Ends (forIn items PUnit.unit fun item _ => do
      round item
      pure (ForInStep.yield PUnit.unit)) start (.ok PUnit.unit) final) : Rounds round start items final := by
  induction items generalizing start with
  | nil =>
      rw [(ends_pure.mp ends).2]
      exact .nil start
  | cons item rest inductionHypothesis =>
      rw [List.forIn_cons] at ends
      obtain ⟨signal, middle, first, others⟩ := ends_bind_ok.mp ends
      obtain ⟨_, last, ran, stops⟩ := ends_bind_ok.mp first
      obtain ⟨isSignal, rfl⟩ := ends_pure.mp stops
      cases isSignal
      exact .cons ran (inductionHypothesis others)

/-! ## Steps that leave the tree alone -/

/-- A step leaves the tree as it is, whether it fails or not. -/
def KeepsTree (step : Work α) : Prop :=
  ∀ ⦃start outcome final⦄, Ends step start outcome final → final.tree = start.tree

theorem keepsTree_pure (value : α) : KeepsTree (pure value) := by
  intro start outcome final ends
  rw [(ends_pure.mp ends).2]

theorem keepsTree_throw (mishap : Mishap) : KeepsTree (throw mishap : Work α) := by
  intro start outcome final ends
  rw [(ends_throw.mp ends).2]

theorem keepsTree_bind {step : Work α} {next : α → Work β} (first : KeepsTree step)
    (second : ∀ value, KeepsTree (next value)) : KeepsTree (step >>= next) := by
  intro start outcome final ends
  rcases ends_bind.mp ends with ⟨mishap, failed, -⟩ | ⟨value, middle, firstEnds, rest⟩
  · exact first failed
  · exact (second value rest).trans (first firstEnds)

theorem keepsTree_get_bind {next : Workplace → Work β} (rest : ∀ place, KeepsTree (next place)) :
    KeepsTree (get >>= next) := by
  intro start outcome final ends
  exact rest start (ends_get_bind.mp ends)

theorem keepsTree_ofExcept (result : Except Failure α) : KeepsTree (ofExcept result) := by
  cases result with
  | ok value => exact keepsTree_pure value
  | error failure => exact keepsTree_throw _

theorem keepsTree_onConsole (step : Console → Except Console.MarkupFault Console) :
    KeepsTree (onConsole step) := by
  intro start outcome final ends
  have looked := ends_get_bind.mp ends
  cases shown : step start.console with
  | ok console =>
      rw [shown] at looked
      cases looked
      rfl
  | error fault =>
      rw [shown] at looked
      cases looked
      rfl

theorem keepsTree_foldlM {γ : Type} {step : β → γ → Work β} (each : ∀ value item, KeepsTree (step value item))
    (items : List γ) (value : β) : KeepsTree (items.foldlM step value) := by
  induction items generalizing value with
  | nil => exact keepsTree_pure value
  | cons item rest inductionHypothesis =>
      rw [List.foldlM_cons]
      exact keepsTree_bind (each value item) inductionHypothesis

theorem keepsTree_forIn {γ : Type} {round : γ → Work Unit} (each : ∀ item, KeepsTree (round item))
    (items : List γ) : KeepsTree (forIn items PUnit.unit fun item _ => do
      round item
      pure (ForInStep.yield PUnit.unit)) := by
  induction items with
  | nil => exact keepsTree_pure _
  | cons item rest inductionHypothesis =>
      rw [List.forIn_cons]
      apply keepsTree_bind
      · exact keepsTree_bind (each item) fun _ => keepsTree_pure _
      · intro signal
        cases signal with
        | done value => exact keepsTree_pure value
        | yield value => exact inductionHypothesis

theorem keepsTree_load (project : Project) (path : String) : KeepsTree (load project path) := by
  unfold load
  exact keepsTree_bind (keepsTree_ofExcept _) fun _ => keepsTree_pure _

theorem keepsTree_schemas (config : Config) (project : Project) (file : SourceFile) :
    KeepsTree (schemas config project file) := by
  unfold schemas
  apply keepsTree_bind
  · exact keepsTree_forIn (fun warning => keepsTree_onConsole _) _
  · intro _
    exact keepsTree_bind (keepsTree_ofExcept _) fun _ => keepsTree_pure _

theorem keepsTree_inspect (config : Config) (files : List String) (format : Format) :
    KeepsTree (inspect config files format) := by
  have added (found : List (Data × Data) × Project) (path : String) :
      KeepsTree (addSchemas config found path) := by
    unfold addSchemas
    refine keepsTree_bind (keepsTree_load _ _) fun loaded => ?_
    refine keepsTree_bind (keepsTree_schemas _ _ _) fun built => ?_
    exact keepsTree_bind (keepsTree_ofExcept _) fun _ => keepsTree_pure _
  unfold inspect
  refine keepsTree_bind (keepsTree_get_bind fun _ => keepsTree_pure _) fun project => ?_
  refine keepsTree_bind (keepsTree_foldlM added files _) fun _ => ?_
  exact keepsTree_bind (keepsTree_ofExcept _) fun _ => keepsTree_onConsole _

end DeclaredOptions.Tool.Work
