import DeclaredOptions.Proofs.Project.Loads
import DeclaredOptions.Proofs.Tool.Steps

/-!
Contract: runs that are refused before anything is written, and runs that write nothing at all.

Owns:
- the ways in which the commands of a file cannot be made: its configuration, the file itself, one of its functions,
  whatever becomes of the others, or a warning on the way that cannot be shown;
- runs in general, which always have an answer of their own;
- the run of such a request, which leaves the tree alone and reports the failure;
- the runs that show schemas, which leave the tree alone in any case.

Does not own: failures of writing.

All commands of a file are made before the first of them is written. So a failure on the way finds the tree as it
was. A file that is imported is read when a member needs it: where it cannot be read, the command of that member is
refused. The report is shown with style tags, but the message in it is escaped. A warning is not: one that holds what
looks like a closing tag cannot be shown, and is then what the run fails for.
-/

set_option autoImplicit false

namespace DeclaredOptions

namespace Resolve

/-- The command of a function of a file, with the options interface that goes with it. -/
def ownCommand (file : SourceFile) (config : Config) (d : Declaration) : Resolve CommandSchema :=
  commandSchema (some file) config d
    ((pairedOptions? (some file) d config).map fun interface => ⟨some file, interface⟩)

theorem commandSchemas_eq (file : SourceFile) (config : Config) :
    commandSchemas file config = (exportedFunctions file).mapM (ownCommand file config) := rfl

theorem ends_mapM_error {α β : Type} {one : α → Resolve β} {earlier later : List α} {value : α}
    {start middle final : Session} {results : List β} {failure : Failure}
    (built : Step.Ends (earlier.mapM one) start (.ok results) middle)
    (refused : Step.Ends (one value) middle (.error failure) final) :
    Step.Ends ((earlier ++ value :: later).mapM one) start (.error failure) final := by
  rw [List.mapM_append]
  apply Step.ends_bind.mpr
  refine .inr ⟨results, middle, built, ?_⟩
  rw [List.mapM_cons]
  apply Step.ends_bind.mpr
  refine .inl ⟨failure, ?_, rfl⟩
  exact Step.ends_bind.mpr (.inl ⟨failure, refused, rfl⟩)

end Resolve

namespace Tool

/-! ## Commands that cannot be made -/

/-- The commands of the file at a path cannot be made, for a mishap: the configuration is refused, the file is, or one
of its exported functions is, after those before it have been made, or a warning has tags that do not match. Warnings
count in their order, and before a refusal that comes after them. -/
inductive Unmade (tree : FileTree) (config? : Option String) (path : String) : Mishap → Prop where
  | config {failure : Failure} (refused : Config.load tree config? = .error failure) :
      Unmade tree config? path (.failure failure)
  | source {config : Config} {failure : Failure} {project : Project}
      (configured : Config.load tree config? = .ok config)
      (refused : Step.Ends (Project.load path) (.empty tree true) (.error failure) project) :
      Unmade tree config? path (.failure failure)
  | command {config : Config} {file : SourceFile} {project : Project} {d : Declaration}
      {earlier later : List Declaration} {schemas : List CommandSchema} {middle session : Session}
      {failure : Failure} (configured : Config.load tree config? = .ok config)
      (loaded : Step.Ends (Project.load path) (.empty tree true) (.ok file) project)
      (exported : Resolve.exportedFunctions file = earlier ++ d :: later)
      (made : Step.Ends (earlier.mapM (Resolve.ownCommand file config)) ⟨project, []⟩ (.ok schemas) middle)
      (refused : Step.Ends (Resolve.ownCommand file config d) middle (.error failure) session)
      (warned : ∀ warning ∈ session.warnings, ∃ shown, Console.blank.warn warning.message = .ok shown) :
      Unmade tree config? path (.failure failure)
  | warning {config : Config} {file : SourceFile} {project : Project} {session : Session}
      {outcome : Except Failure (List CommandSchema)} {earlier later : List UnexportedEnum}
      {warning : UnexportedEnum} {fault : Console.MarkupFault}
      (configured : Config.load tree config? = .ok config)
      (loaded : Step.Ends (Project.load path) (.empty tree true) (.ok file) project)
      (resolved : Step.Ends (Resolve.commandSchemas file config) ⟨project, []⟩ outcome session)
      (warnings : session.warnings = earlier ++ warning :: later)
      (warned : ∀ other ∈ earlier, ∃ shown, Console.blank.warn other.message = .ok shown)
      (unshown : Console.blank.warn warning.message = .error fault) :
      Unmade tree config? path (.markup fault)

/-! ## Their steps -/

namespace Work

variable {start : Workplace} {project after : Project} {path : String} {failure : Failure}

theorem ends_load_ok {file : SourceFile}
    (loaded : Step.Ends (Project.load path) project (.ok file) after) :
    Ends (load project path) start (.ok (file, after)) start := by
  have ran : (Project.load path).run.run project = (.ok file, after) := loaded
  unfold load
  rw [ran]
  rfl

theorem ends_load_error (refused : Step.Ends (Project.load path) project (.error failure) after) :
    Ends (load project path) start (.error (.failure failure)) start := by
  have ran : (Project.load path).run.run project = (.error failure, after) := refused
  unfold load
  rw [ran]
  rfl

theorem ends_warn_ok {message : String} {shown : Console} (isShown : Console.blank.warn message = .ok shown)
    (flush : start.console.depth = 0) :
    ∃ next, Ends (warn message) start (.ok ()) next ∧ next.console.depth = 0 := by
  have isShownHere : start.console.warn message =
      .ok { start.console with err := start.console.err ++ shown.err } := by
    rw [Console.warn_eq_map flush, isShown]
    rfl
  exact ⟨_, ends_onConsole_ok isShownHere, flush⟩

theorem ends_warn_error {message : String} {fault : Console.MarkupFault}
    (unshown : Console.blank.warn message = .error fault) (flush : start.console.depth = 0) :
    Ends (warn message) start (.error (.markup fault)) start := by
  have unshownHere : start.console.warn message = .error fault := by
    rw [Console.warn_eq_map flush, unshown]
    rfl
  apply ends_get_bind.mpr
  dsimp only
  rw [unshownHere]
  rfl

/-- The warnings of a step, one by one. -/
def warnAll (warnings : List UnexportedEnum) : Work PUnit :=
  forIn warnings PUnit.unit fun warning _ => do
    warn warning.message
    pure (ForInStep.yield PUnit.unit)

theorem ends_warnAll_cons {warning : UnexportedEnum} {rest : List UnexportedEnum} {middle final : Workplace}
    {outcome : Except Mishap PUnit} (first : Ends (warn warning.message) start (.ok ()) middle)
    (others : Ends (warnAll rest) middle outcome final) :
    Ends (warnAll (warning :: rest)) start outcome final := by
  unfold warnAll
  rw [List.forIn_cons]
  apply ends_bind.mpr
  exact .inr ⟨.yield PUnit.unit, middle, ends_bind_ok.mpr ⟨(), middle, first, rfl⟩, others⟩

/-- Warnings that can all be shown, before others. -/
theorem ends_warnAll_append {earlier later : List UnexportedEnum}
    (warned : ∀ warning ∈ earlier, ∃ shown, Console.blank.warn warning.message = .ok shown)
    (flush : start.console.depth = 0) :
    ∃ middle, middle.console.depth = 0 ∧ ∀ outcome final,
      Ends (warnAll later) middle outcome final → Ends (warnAll (earlier ++ later)) start outcome final := by
  induction earlier generalizing start with
  | nil => exact ⟨start, flush, fun _ _ => id⟩
  | cons warning rest inductionHypothesis =>
      rw [List.forall_mem_cons] at warned
      obtain ⟨⟨shown, isShown⟩, restWarned⟩ := warned
      obtain ⟨next, first, stillFlush⟩ := ends_warn_ok isShown flush
      obtain ⟨middle, lastFlush, goesOn⟩ := inductionHypothesis restWarned stillFlush
      exact ⟨middle, lastFlush, fun outcome final ends => ends_warnAll_cons first (goesOn outcome final ends)⟩

/-- The commands of a file and their warnings, which are shown before a refusal counts. -/
theorem schemas_eq_bind {config : Config} {file : SourceFile} {session : Session}
    {outcome : Except Failure (List CommandSchema)}
    (resolved : Step.Ends (Resolve.commandSchemas file config) ⟨project, []⟩ outcome session) :
    schemas config project file = warnAll session.warnings >>= fun _ =>
      ofExcept outcome >>= fun schemas => pure (schemas, session.project) := by
  have ran : (Resolve.commandSchemas file config).run.run ⟨project, []⟩ = (outcome, session) := resolved
  unfold schemas
  rw [ran]
  rfl

theorem ends_schemas_refused {config : Config} {file : SourceFile} {session : Session}
    (resolved : Step.Ends (Resolve.commandSchemas file config) ⟨project, []⟩ (.error failure) session)
    (warned : ∀ warning ∈ session.warnings, ∃ shown, Console.blank.warn warning.message = .ok shown)
    (flush : start.console.depth = 0) :
    ∃ final, Ends (schemas config project file) start (.error (.failure failure)) final := by
  obtain ⟨middle, -, goesOn⟩ := @ends_warnAll_append start session.warnings [] warned flush
  rw [List.append_nil] at goesOn
  have through : Ends (warnAll session.warnings) start (.ok PUnit.unit) middle := goesOn _ _ rfl
  refine ⟨middle, ?_⟩
  rw [schemas_eq_bind resolved]
  exact ends_bind.mpr (.inr ⟨PUnit.unit, middle, through, ends_bind_error ends_ofExcept_error⟩)

theorem ends_schemas_unshown {config : Config} {file : SourceFile} {session : Session}
    {outcome : Except Failure (List CommandSchema)} {earlier later : List UnexportedEnum}
    {warning : UnexportedEnum} {fault : Console.MarkupFault}
    (resolved : Step.Ends (Resolve.commandSchemas file config) ⟨project, []⟩ outcome session)
    (warnings : session.warnings = earlier ++ warning :: later)
    (warned : ∀ other ∈ earlier, ∃ shown, Console.blank.warn other.message = .ok shown)
    (unshown : Console.blank.warn warning.message = .error fault) (flush : start.console.depth = 0) :
    ∃ final, Ends (schemas config project file) start (.error (.markup fault)) final := by
  obtain ⟨middle, stillFlush, goesOn⟩ := ends_warnAll_append warned flush
  refine ⟨middle, ?_⟩
  rw [schemas_eq_bind resolved, warnings]
  apply ends_bind_error
  apply goesOn
  unfold warnAll
  rw [List.forIn_cons]
  exact ends_bind_error (ends_bind_error (ends_warn_error unshown stillFlush))

/-- A request to write commands that cannot be made fails with the mishap, and with the tree as it was. -/
theorem ends_answer_of_unmade {tree : FileTree} {config? : Option String} {mishap : Mishap}
    (unmade : Unmade tree config? path mishap) (directory : Option String) :
    ∃ final, Ends (answer ⟨.emit path directory, config?⟩) ⟨.blank, tree⟩ (.error mishap) final ∧
      final.tree = tree := by
  have projects : Ends Work.project ⟨.blank, tree⟩ (.ok (.empty tree true)) ⟨.blank, tree⟩ := rfl
  have configured {config : Config} (found : Config.load tree config? = .ok config)
      {outcome : Except Mishap Unit} {final : Workplace}
      (emitted : Ends (emit config path directory) ⟨.blank, tree⟩ outcome final) :
      Ends (answer ⟨.emit path directory, config?⟩) ⟨.blank, tree⟩ outcome final := by
    apply ends_get_bind.mpr
    apply ends_bind.mpr
    exact .inr ⟨config, ⟨.blank, tree⟩, ends_ofExcept_ok.mpr ⟨found, rfl⟩, emitted⟩
  have unresolved {config : Config} {file : SourceFile} {project : Project} {final : Workplace}
      (found : Config.load tree config? = .ok config)
      (loaded : Step.Ends (Project.load path) (.empty tree true) (.ok file) project)
      (ends : Ends (schemas config project file) ⟨.blank, tree⟩ (.error mishap) final) :
      Ends (answer ⟨.emit path directory, config?⟩) ⟨.blank, tree⟩ (.error mishap) final ∧
        final.tree = tree := by
    refine ⟨configured found ?_, keepsTree_schemas _ _ _ ends⟩
    apply ends_bind.mpr
    refine .inr ⟨_, _, projects, ?_⟩
    apply ends_bind.mpr
    exact .inr ⟨_, _, ends_load_ok loaded, ends_bind_error ends⟩
  cases unmade with
  | config refused =>
      refine ⟨⟨.blank, tree⟩, ?_, rfl⟩
      apply ends_get_bind.mpr
      apply ends_bind_error
      rw [refused]
      exact ends_ofExcept_error
  | source found refused =>
      refine ⟨⟨.blank, tree⟩, ?_, rfl⟩
      apply configured found
      apply ends_bind.mpr
      exact .inr ⟨_, _, projects, ends_bind_error (ends_load_error refused)⟩
  | @command config file project d earlier later made middle session failure found loaded exported before refused
      warned =>
      have all : Step.Ends (Resolve.commandSchemas file config) ⟨project, []⟩ (.error failure) session := by
        rw [Resolve.commandSchemas_eq, exported]
        exact Resolve.ends_mapM_error before refused
      obtain ⟨final, ends⟩ := @ends_schemas_refused ⟨.blank, tree⟩ _ _ _ _ _ all warned rfl
      exact ⟨final, unresolved found loaded ends⟩
  | @warning config file project session _ _ _ _ _ found loaded resolved warnings warned unshown =>
      obtain ⟨final, ends⟩ :=
        @ends_schemas_unshown ⟨.blank, tree⟩ _ _ _ _ _ _ _ _ _ resolved warnings warned unshown rfl
      exact ⟨final, unresolved found loaded ends⟩

end Work

/-! ## Their runs -/

/-- What is shown of a mishap is a heading with its message escaped. -/
theorem exists_heading (mishap : Mishap) :
    ∃ heading message : String, (heading = Console.errorHeading ∨ heading = Console.surpriseHeading) ∧
      mishap.shown = heading ++ String.ofList (Console.escape message.toList) := by
  cases mishap with
  | failure failure =>
      cases expected : isExpected failure with
      | true =>
          refine ⟨Console.errorHeading, failure.message, .inl rfl, ?_⟩
          unfold Mishap.shown
          dsimp only
          rw [if_pos expected]
          rfl
      | false =>
          refine ⟨Console.surpriseHeading, failure.message, .inr rfl, ?_⟩
          unfold Mishap.shown
          dsimp only
          rw [if_neg (by simp [expected])]
          rfl
  | markup fault => exact ⟨Console.surpriseHeading, fault.message, .inr rfl, rfl⟩

/-- What was shown last of all is the report of a mishap. -/
def Ending.Reports (ending : Ending) (mishap : Mishap) : Prop :=
  ∃ before after : Console, before.error mishap.shown = .ok after ∧ ending.out = after.out ∧
    ending.err = after.err

/-- A run that ends with a mishap leaves the tree where the mishap found it, and says so by its code and with a
report. -/
theorem run_of_ends_error {invocation : Invocation} {tree : FileTree} {mishap : Mishap} {final : Workplace}
    (ends : Work.Ends (Work.answer invocation) ⟨.blank, tree⟩ (.error mishap) final) :
    (invocation.run tree).2 = final.tree ∧ (invocation.run tree).1.code = 1 ∧
      (invocation.run tree).1.brokenOff = none ∧ (invocation.run tree).1.Reports mishap := by
  have ran : (Work.answer invocation).run.run ⟨.blank, tree⟩ = (.error mishap, final) := ends
  obtain ⟨heading, message, isHeading, shown⟩ := exists_heading mishap
  obtain ⟨next, isShown⟩ := Console.exists_error isHeading message final.console.reset
  rw [← shown] at isShown
  unfold Invocation.run
  rw [ran]
  dsimp only
  rw [isShown]
  exact ⟨rfl, rfl, rfl, final.console.reset, next, isShown, rfl, rfl⟩

/-- The invocation that a command line comes to, if it does. -/
def asked? (words : List String) : Option Invocation :=
  match read words with
  | .ok (.values values) => some (.ofValues values)
  | _ => none

theorem run_of_asked? {words : List String} {invocation : Invocation}
    (asks : asked? words = some invocation) (tree : FileTree) : run tree words = invocation.run tree := by
  unfold asked? at asks
  unfold run
  split at asks
  · rename_i values understood
    rw [understood, ← Option.some.inj asks]
  · contradiction

/-- No run is broken off by its report. -/
theorem brokenOff_run (tree : FileTree) (words : List String) : (run tree words).1.brokenOff = none := by
  have ofInvocation (invocation : Invocation) : (invocation.run tree).1.brokenOff = none := by
    obtain ⟨outcome, final, ends⟩ := Work.ends_exists (Work.answer invocation) ⟨.blank, tree⟩
    cases outcome with
    | error mishap => exact (run_of_ends_error ends).2.2.1
    | ok _ =>
        have answered : (Work.answer invocation).run.run ⟨.blank, tree⟩ = (.ok (), final) := ends
        unfold Invocation.run
        rw [answered]
  unfold run
  split
  · exact ofInvocation _
  · rfl
  · rfl

/-- A command line that asks for commands that cannot be made leaves the tree as it was, and ends with the code of a
failure and with a report of the mishap. One that asks for schemas leaves the tree as it was in any case. -/
theorem run_of_unmade (tree : FileTree) (words : List String) (config? : Option String) :
    (∀ path directory mishap, asked? words = some ⟨.emit path directory, config?⟩ →
      Unmade tree config? path mishap →
        (run tree words).2 = tree ∧ (run tree words).1.code = 1 ∧ (run tree words).1.brokenOff = none ∧
        (run tree words).1.Reports mishap) ∧
    ∀ files format, asked? words = some ⟨.inspect files format, config?⟩ → (run tree words).2 = tree := by
  constructor
  · intro path directory mishap asks unmade
    rw [run_of_asked? asks]
    obtain ⟨final, ends, kept⟩ := Work.ends_answer_of_unmade unmade directory
    obtain ⟨sameTree, answered⟩ := run_of_ends_error ends
    exact ⟨sameTree.trans kept, answered⟩
  · intro files format asks
    rw [run_of_asked? asks]
    have keeps : Work.KeepsTree (Work.answer ⟨.inspect files format, config?⟩) := by
      apply Work.keepsTree_get_bind
      intro place
      exact Work.keepsTree_bind (Work.keepsTree_ofExcept _) fun _ => Work.keepsTree_inspect _ _ _
    obtain ⟨outcome, final, ends⟩ :=
      Work.ends_exists (Work.answer ⟨.inspect files format, config?⟩) ⟨.blank, tree⟩
    have kept := keeps ends
    cases outcome with
    | error mishap => exact (run_of_ends_error ends).1.trans kept
    | ok _ =>
        have answered : (Work.answer ⟨.inspect files format, config?⟩).run.run ⟨.blank, tree⟩ =
          (.ok (), final) := ends
        unfold Invocation.run
        rw [answered]
        exact kept

/-- A file of two functions, of which the second has a parameter of a type that is declared in a broken file. -/
def tonesTree : FileTree :=
  let bytes (text : String) := text.toList.map fun c => c.toNat.toUInt8
  ⟨[(["tones.ts"], .file (bytes "import {Key} from './key'
export function tone(pitch:number){}
export function note(key:Key){}")),
    (["key.ts"], .file (bytes "export enum Key"))], []⟩

/-- Whether the command of the first of two functions is made, and that of the second fails without warnings. -/
private def refusesSecond (tree : FileTree) (path : String) (failure : Failure) : Bool :=
  match (Project.load path).run.run (.empty tree true) with
  | (.ok file, project) =>
    match Resolve.exportedFunctions file with
    | [first, second] =>
      match (List.mapM (Resolve.ownCommand file .usual) [first]).run.run ⟨project, []⟩ with
      | (.ok _, middle) =>
        match (Resolve.ownCommand file .usual second).run.run middle with
        | (.error found, session) => found == failure && session.warnings == []
        | _ => false
      | _ => false
    | _ => false
  | _ => false

private theorem unmade_of_refusesSecond {tree : FileTree} {path : String} {failure : Failure}
    (usual : Config.load tree none = .ok .usual) (refuses : refusesSecond tree path failure) :
    Unmade tree none path (.failure failure) := by
  unfold refusesSecond at refuses
  split at refuses
  · rename_i file project loaded
    split at refuses
    · rename_i first second exported
      split at refuses
      · rename_i made middle before
        split at refuses
        · rename_i found session refused
          rw [Bool.and_eq_true, beq_iff_eq, beq_iff_eq] at refuses
          obtain ⟨rfl, noWarnings⟩ := refuses
          exact @Unmade.command _ _ _ _ _ _ _ [first] [] _ _ _ _ usual loaded exported before refused
            (by simp [noWarnings])
        · cases refuses
      · cases refuses
    · cases refuses
  · cases refuses

/-- Nothing is written of the function that could have been, and the report names the broken file. -/
theorem run_of_unmade_tones :
    Unmade tonesTree none "tones.ts" (.failure (.unreadableSource "key.ts")) ∧
      (run tonesTree ["emit", "-o", "out", "tones.ts"]).2 = tonesTree ∧
      (run tonesTree ["emit", "-o", "out", "tones.ts"]).1.code = 1 ∧
      (run tonesTree ["emit", "-o", "out", "tones.ts"]).1.brokenOff = none ∧
      (run tonesTree ["emit", "-o", "out", "tones.ts"]).1.Reports (.failure (.unreadableSource "key.ts")) ∧
      (run tonesTree ["inspect", "tones.ts"]).2 = tonesTree := by
  have usual : Config.load tonesTree none = .ok .usual := if_neg (by decide +kernel)
  have unmade : Unmade tonesTree none "tones.ts" (.failure (.unreadableSource "key.ts")) :=
    unmade_of_refusesSecond usual (by decide +kernel)
  obtain ⟨kept, code, answered, reports⟩ := (run_of_unmade tonesTree ["emit", "-o", "out", "tones.ts"] none).1
    "tones.ts" (some "out") _ (by decide +kernel) unmade
  refine ⟨unmade, kept, code, answered, reports, ?_⟩
  exact (run_of_unmade tonesTree ["inspect", "tones.ts"] none).2 ["tones.ts"] .yaml (by decide +kernel)

end Tool

end DeclaredOptions
