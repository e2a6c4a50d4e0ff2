import DeclaredOptions.Proofs.Declaration.Appearance
import DeclaredOptions.Proofs.Project.Modules

/-!
Contract: what calls of a project do, one after another, while the tree changes under them.

Owns:
- the calls, the turns they make, and the project they end in;
- what one turn may do: nothing, give a number, register a file, or refuse a text;
- the numbers that turns hand out, which never come again.

Does not own: what a text declares.

A look-up may try several paths and imports, but it reads at most one text: where a reading succeeds the look-up
ends with its file, and where it fails the look-up fails. That is why one turn never registers a file and fails.
-/

set_option autoImplicit false

namespace DeclaredOptions

namespace Project

/-! ## Calls and turns -/

/-- A call with what it is given. -/
inductive Call where
  | add (path text : String)
  | load (path : String)
  | module (path specifier : String)
  | type (file : SourceFile) (name : String)
  | number

/-- What a call gives where it succeeds. -/
inductive Answer where
  | file (file : SourceFile)
  | module (found : Option SourceFile)
  | type (found : Option Declaration)
  | number (id : Nat)

def Call.step : Call → ProjectStep Answer
  | .add path text => .file <$> Project.add path text
  | .load path => .file <$> Project.load path
  | .module path specifier => .module <$> module? path specifier
  | .type file name => .type <$> type? file name
  | .number => .number <$> takeId

/-- A call that was made, the project it was made in, how it ended, and the project it left. -/
structure Turn where
  call : Call
  before : Project
  outcome : Except Failure Answer
  after : Project

def withTree (project : Project) (tree : FileTree) : Project := { project with tree := tree }

/-- The turn of a call; the tree is the one that it meets. -/
def turn (project : Project) (tree : FileTree) (call : Call) : Turn :=
  let (outcome, after) := call.step.run.run (project.withTree tree)
  ⟨call, project.withTree tree, outcome, after⟩

/-- The turns of calls in a row, each with the tree that it meets. -/
def turns (project : Project) : List (FileTree × Call) → List Turn
  | [] => []
  | (tree, call) :: rest =>
    project.turn tree call :: (project.turn tree call).after.turns rest

theorem turn_of_ends {project after : Project} {tree : FileTree} {call : Call}
    {outcome : Except Failure Answer}
    (ends : Step.Ends call.step (project.withTree tree) outcome after) :
    project.turn tree call = ⟨call, project.withTree tree, outcome, after⟩ := by
  unfold turn
  rw [ends]

/-- The project that calls in a row leave. -/
def afterAll (project : Project) : List (FileTree × Call) → Project
  | [] => project
  | (tree, call) :: rest => (project.turn tree call).after.afterAll rest

/-! ## Readings -/

/-- A step reads no text and leaves the project as it is, or it reads one text for a new path and ends as the
reading does. -/
inductive Attempt (project : Project) : Option Failure → Project → Prop where
  | idle (failure? : Option Failure) : Attempt project failure? project
  | reading {path text : String} {result : Except Failure SourceFile} {next : Project}
      (isNew : project.registered? (key path) = none)
      (ends : Step.Ends (add path text) project result next) :
      Attempt project (Step.failure? result) next

section

variable {project next : Project}

theorem attempt_add {path text : String} {outcome : Except Failure SourceFile}
    (ends : Step.Ends (add path text) project outcome next) :
    Attempt project (Step.failure? outcome) next := by
  rcases add_cases ends with ⟨_, -, isNew, -⟩ | ⟨_, _, -, isNew, -⟩ | ⟨-, -, rfl⟩
  · exact .reading isNew ends
  · exact .reading isNew ends
  · exact .idle _

theorem attempt_load {path : String} {outcome : Except Failure SourceFile}
    (ends : Step.Ends (load path) project outcome next) :
    Attempt project (Step.failure? outcome) next := by
  have looked := Step.ends_get_bind.mp ends
  split at looked
  · obtain ⟨rfl, rfl⟩ := Step.ends_pure.mp looked
    exact .idle _
  · split at looked
    · exact attempt_add looked
    · obtain ⟨rfl, rfl⟩ := Step.ends_throw.mp looked
      exact .idle _

/-- A module that is not found leaves the project as it is, so that the look-up may go on from there. -/
theorem attempt_module? {path specifier : String} {outcome : Except Failure (Option SourceFile)}
    (ends : Step.Ends (module? path specifier) project outcome next) :
    Attempt project (Step.failure? outcome) next ∧ (outcome = .ok none → next = project) := by
  have nothing {found : Option SourceFile}
      (same : Step.Ends (pure found) project outcome next) :
      Attempt project (Step.failure? outcome) next ∧ (outcome = .ok none → next = project) := by
    obtain ⟨rfl, rfl⟩ := Step.ends_pure.mp same
    exact ⟨.idle _, fun _ => rfl⟩
  unfold module? at ends
  split at ends
  · exact nothing ends
  · have looked := Step.ends_get_bind.mp ends
    dsimp only at looked
    split at looked
    · exact nothing looked
    · split at looked
      · split at looked
        · obtain ⟨inner, loaded, rfl⟩ := Step.ends_map.mp looked
          refine ⟨by simpa using attempt_load loaded, ?_⟩
          cases inner with
          | ok file => exact fun impossible => nomatch impossible
          | error failure => exact fun impossible => nomatch impossible
        · exact nothing looked
      · exact nothing looked

/-- A name that an import does not bind leaves the project as it is. -/
theorem attempt_throughImport {path name : String} {clause : Import}
    {outcome : Except Failure (Option (Option Declaration))}
    (ends : Step.Ends (throughImport path name clause) project outcome next) :
    Attempt project (Step.failure? outcome) next ∧ (outcome = .ok none → next = project) := by
  unfold throughImport at ends
  extract_lets continued at ends
  -- The named part comes into play only where the default part has left the project as it is.
  have named (endsNamed : Step.Ends (continued none) project outcome next) :
      Attempt project (Step.failure? outcome) next ∧ (outcome = .ok none → next = project) := by
    simp only [continued] at endsNamed
    split at endsNamed
    · obtain ⟨rfl, rfl⟩ := Step.ends_pure.mp endsNamed
      exact ⟨.idle _, fun _ => rfl⟩
    · rcases Step.ends_bind.mp endsNamed with ⟨failure, failed, rfl⟩ | ⟨found, middle, looked, last⟩
      · exact ⟨(attempt_module? failed).1, fun impossible => nomatch impossible⟩
      · split at last
        · obtain ⟨rfl, rfl⟩ := Step.ends_pure.mp last
          exact ⟨(attempt_module? looked).1, fun impossible => nomatch impossible⟩
        · obtain ⟨rfl, rfl⟩ := Step.ends_pure.mp last
          exact ⟨(attempt_module? looked).1, fun impossible => nomatch impossible⟩
  split at ends
  · rcases Step.ends_bind.mp ends with ⟨failure, failed, rfl⟩ | ⟨found, middle, looked, last⟩
    · exact ⟨(attempt_module? failed).1, fun impossible => nomatch impossible⟩
    · cases found with
      | none =>
          obtain rfl := (attempt_module? looked).2 rfl
          exact named last
      | some target =>
          obtain ⟨rfl, rfl⟩ := Step.ends_pure.mp last
          exact ⟨(attempt_module? looked).1, fun impossible => nomatch impossible⟩
  · exact named ends

theorem attempt_throughImports {path name : String} {clauses : List Import}
    {outcome : Except Failure (Option Declaration)}
    (ends : Step.Ends (throughImports path name clauses) project outcome next) :
    Attempt project (Step.failure? outcome) next := by
  induction clauses with
  | nil =>
      obtain ⟨rfl, rfl⟩ := Step.ends_pure.mp ends
      exact .idle _
  | cons clause rest inductionHypothesis =>
      rcases Step.ends_bind.mp ends with ⟨failure, failed, rfl⟩ | ⟨found, middle, looked, last⟩
      · exact (attempt_throughImport failed).1
      · cases found with
        | none =>
            obtain rfl := (attempt_throughImport looked).2 rfl
            exact inductionHypothesis last
        | some declaration =>
            obtain ⟨rfl, rfl⟩ := Step.ends_pure.mp last
            exact (attempt_throughImport looked).1

theorem attempt_type? {file : SourceFile} {name : String} {outcome : Except Failure (Option Declaration)}
    (ends : Step.Ends (type? file name) project outcome next) :
    Attempt project (Step.failure? outcome) next := by
  unfold type? at ends
  split at ends
  · obtain ⟨rfl, rfl⟩ := Step.ends_pure.mp ends
    exact .idle _
  · exact attempt_throughImports ends

theorem leads_of_attempt {failure? : Option Failure} (attempt : Attempt project failure? next) :
    Leads project next := by
  cases attempt with
  | idle => exact leads_refl project
  | reading isNew ends => exact Relation.ReflTransGen.single (.adding ends)

/-- A call is an attempt to read a text, unless it asks for a number. -/
theorem attempt_or_number {call : Call} {outcome : Except Failure Answer}
    (ends : Step.Ends call.step project outcome next) :
    Attempt project (Step.failure? outcome) next ∨
      (outcome = .ok (.number project.nextId) ∧
        next = { project with nextId := project.nextId + 1 }) := by
  cases call with
  | add path text =>
      obtain ⟨inner, added, rfl⟩ := Step.ends_map.mp ends
      exact .inl (by simpa using attempt_add added)
  | load path =>
      obtain ⟨inner, loaded, rfl⟩ := Step.ends_map.mp ends
      exact .inl (by simpa using attempt_load loaded)
  | module path specifier =>
      obtain ⟨inner, looked, rfl⟩ := Step.ends_map.mp ends
      exact .inl (by simpa using (attempt_module? looked).1)
  | type file name =>
      obtain ⟨inner, looked, rfl⟩ := Step.ends_map.mp ends
      exact .inl (by simpa using attempt_type? looked)
  | number =>
      obtain ⟨inner, taken, rfl⟩ := Step.ends_map.mp ends
      obtain ⟨rfl, rfl⟩ := takeId_ends taken
      exact .inr ⟨rfl, rfl⟩

end

/-! ## One turn -/

/-- What a turn does, and the numbers that it hands out. A refused text takes the numbers of the declarations
before its fault, which no file will hold. -/
inductive Turn.HandsOut (turn : Turn) : List Nat → Prop where
  | nothing (same : turn.after = turn.before) : turn.HandsOut []
  | number (given : turn.outcome = .ok (.number turn.before.nextId))
      (counted : turn.after = { turn.before with nextId := turn.before.nextId + 1 }) :
      turn.HandsOut [turn.before.nextId]
  | registering {path text : String} {file : SourceFile} (succeeds : turn.outcome.isOk)
      (isNew : turn.before.registered? (key path) = none)
      (formed : SourceFile.ofText (key path) text turn.before.nextId = .ok file)
      (registered : turn.after = { turn.before with
        files := turn.before.files ++ [file]
        nextId := turn.before.nextId + file.declarations.length }) :
      turn.HandsOut (file.declarations.map (·.id))
  | refusing {path text : String} {failure : Failure} {used : Nat}
      (fails : turn.outcome = .error failure)
      (isNew : turn.before.registered? (key path) = none)
      (refused : SourceFile.ofText (key path) text turn.before.nextId = .error (failure, used))
      (counted : turn.after = { turn.before with nextId := turn.before.nextId + used }) :
      turn.HandsOut (SourceFile.numbersOf (key path) text turn.before.nextId)

namespace Turn

variable {turn : Turn} {numbers : List Nat}

theorem handsOut_of_attempt
    (attempt : Attempt turn.before (Step.failure? turn.outcome) turn.after) :
    ∃ numbers, turn.HandsOut numbers := by
  obtain ⟨call, before, outcome, after⟩ := turn
  dsimp only at attempt
  generalize same : Step.failure? outcome = failure? at attempt
  cases attempt with
  | idle => exact ⟨_, .nothing rfl⟩
  | reading isNew ends =>
      rcases add_cases ends with ⟨file, rfl, -, formed, rfl⟩ | ⟨failure, used, rfl, -, refused, rfl⟩ |
        ⟨-, isRegistered, -⟩
      · cases outcome with
        | ok answer => exact ⟨_, .registering rfl isNew formed rfl⟩
        | error failure => contradiction
      · cases outcome with
        | ok answer => contradiction
        | error other =>
            cases same
            exact ⟨_, .refusing rfl isNew refused rfl⟩
      · rw [isNew] at isRegistered
        contradiction

/-- The numbers of a turn follow one another from the next number of the project on. -/
theorem HandsOut.numbers_eq (handsOut : turn.HandsOut numbers) :
    numbers = List.range' turn.before.nextId numbers.length ∧
      turn.after.nextId = turn.before.nextId + numbers.length := by
  cases handsOut with
  | nothing same => exact ⟨rfl, by rw [same]; rfl⟩
  | number given counted => exact ⟨rfl, by rw [counted]; rfl⟩
  | registering succeeds isNew formed registered =>
      refine ⟨?_, by rw [registered, List.length_map]⟩
      rw [SourceFile.numbersOf_ofText formed]
      exact SourceFile.numbersOf_eq _ _ _
  | refusing fails isNew refused counted =>
      refine ⟨SourceFile.numbersOf_eq _ _ _, ?_⟩
      rw [counted, SourceFile.length_numbersOf_of_error refused]

/-- A turn that fails registers no file and takes none away. -/
theorem HandsOut.files_of_error (handsOut : turn.HandsOut numbers)
    (fails : turn.outcome.isOk = false) : turn.after.files = turn.before.files := by
  cases handsOut with
  | nothing same => rw [same]
  | number given counted => rw [counted]
  | registering succeeds isNew formed registered =>
      rw [fails] at succeeds
      contradiction
  | refusing _ isNew refused counted => rw [counted]

end Turn

/-- The turn of a call hands out numbers in one of these ways, whatever tree it meets. -/
theorem exists_handsOut (project : Project) (tree : FileTree) (call : Call) :
    ∃ numbers, (project.turn tree call).HandsOut numbers := by
  have ends : Step.Ends call.step (project.turn tree call).before (project.turn tree call).outcome
      (project.turn tree call).after := rfl
  rcases attempt_or_number ends with attempt | ⟨given, counted⟩
  · exact Turn.handsOut_of_attempt attempt
  · exact ⟨_, .number given counted⟩

theorem leads_turn (project : Project) (tree : FileTree) (call : Call) :
    Leads project (project.turn tree call).after := by
  have planted : Leads project (project.turn tree call).before :=
    Relation.ReflTransGen.single (.replanting project tree)
  have ends : Step.Ends call.step (project.turn tree call).before (project.turn tree call).outcome
      (project.turn tree call).after := rfl
  rcases attempt_or_number ends with attempt | ⟨-, counted⟩
  · exact planted.trans (leads_of_attempt attempt)
  · have taken : Step.Ends takeId (project.turn tree call).before
        (.ok (project.turn tree call).before.nextId) (project.turn tree call).after := by
      rw [counted]
      rfl
    exact planted.trans (Relation.ReflTransGen.single (.numbering taken))

/-! ## Turns in a row -/

theorem leads_afterAll (project : Project) (calls : List (FileTree × Call)) :
    Leads project (project.afterAll calls) := by
  induction calls generalizing project with
  | nil => exact leads_refl project
  | cons first rest inductionHypothesis =>
      exact (leads_turn project first.1 first.2).trans (inductionHypothesis _)

/-- Turns in a row hand out the numbers from the next one of the project on, each of them once, up to the next one
of the project they leave. -/
theorem handsOut_turns (project : Project) (calls : List (FileTree × Call)) :
    ∃ handed : List (List Nat), List.Forall₂ Turn.HandsOut (project.turns calls) handed ∧
      handed.flatten = List.range' project.nextId handed.flatten.length ∧
      (project.afterAll calls).nextId = project.nextId + handed.flatten.length := by
  induction calls generalizing project with
  | nil => exact ⟨[], .nil, rfl, rfl⟩
  | cons first rest inductionHypothesis =>
      obtain ⟨tree, call⟩ := first
      obtain ⟨numbers, handsOut⟩ := project.exists_handsOut tree call
      obtain ⟨numbersEq, counted⟩ := handsOut.numbers_eq
      obtain ⟨handed, all, handedEq, countedLater⟩ :=
        inductionHypothesis (project.turn tree call).after
      have sameStart : (project.turn tree call).before.nextId = project.nextId := rfl
      rw [sameStart] at numbersEq counted
      rw [counted] at handedEq countedLater
      refine ⟨numbers :: handed, .cons handsOut all, ?_, ?_⟩
      · rw [List.flatten_cons, List.length_append, ← List.range'_append_1]
        exact congrArg₂ (· ++ ·) numbersEq handedEq
      · rw [List.flatten_cons, List.length_append, ← Nat.add_assoc]
        exact countedLater

theorem files_of_failed_turn {project : Project} {calls : List (FileTree × Call)} {turn : Turn}
    (member : turn ∈ project.turns calls) (fails : turn.outcome.isOk = false) :
    turn.after.files = turn.before.files := by
  induction calls generalizing project with
  | nil => contradiction
  | cons first rest inductionHypothesis =>
      rcases List.mem_cons.mp member with rfl | later
      · obtain ⟨numbers, handsOut⟩ := project.exists_handsOut first.1 first.2
        exact handsOut.files_of_error fails
      · exact inductionHypothesis later

/-! ## Paths that are taken, and paths that are free -/

section

variable {project : Project} {path : String} {file : SourceFile}

private theorem turn_add {tree : FileTree} {text : String} {outcome : Except Failure SourceFile}
    {after : Project} (ends : Step.Ends (add path text) (project.withTree tree) outcome after) :
    project.turn tree (.add path text) =
      ⟨.add path text, project.withTree tree, outcome.map .file, after⟩ :=
  turn_of_ends (Step.ends_map.mpr ⟨outcome, ends, rfl⟩)

/-- A text for a path that is taken is refused before it is read. -/
theorem turn_add_of_file? (found : project.file? path = some file) (tree : FileTree) (text : String) :
    project.turn tree (.add path text) =
      ⟨.add path text, project.withTree tree, .error (.duplicateSource (key path)),
        project.withTree tree⟩ := by
  have isTaken : ((project.withTree tree).registered? (key path)).isSome :=
    Option.isSome_of_eq_some found
  obtain ⟨outcome, after, ends⟩ := Step.ends_exists (add path text) (project.withTree tree)
  rcases add_cases ends with ⟨_, -, isNew, -⟩ | ⟨_, _, -, isNew, -⟩ | ⟨rfl, -, rfl⟩
  · rw [isNew] at isTaken
    contradiction
  · rw [isNew] at isTaken
    contradiction
  · exact turn_add ends

/-- The turn of a text under a free path: it is registered if it forms a file, and uses up its numbers if it is
refused. -/
def addingTurn (project : Project) (tree : FileTree) (path text : String) : Turn :=
  let now := project.withTree tree
  match SourceFile.ofText (key path) text now.nextId with
  | .ok file => ⟨.add path text, now, .ok (.file file),
      { now with files := now.files ++ [file], nextId := now.nextId + file.declarations.length }⟩
  | .error (failure, used) =>
    ⟨.add path text, now, .error failure, { now with nextId := now.nextId + used }⟩

theorem turn_add_of_free (free : project.file? path = none) (tree : FileTree) (text : String) :
    project.turn tree (.add path text) = project.addingTurn tree path text := by
  have isFree : (project.withTree tree).registered? (key path) = none := free
  unfold addingTurn
  dsimp only
  obtain ⟨outcome, after, ends⟩ := Step.ends_exists (add path text) (project.withTree tree)
  rcases add_cases ends with ⟨file, rfl, -, formed, rfl⟩ | ⟨failure, used, rfl, -, refused, rfl⟩ |
    ⟨-, isTaken, -⟩
  · rw [turn_add ends, formed]
    rfl
  · rw [turn_add ends, refused]
    rfl
  · rw [isFree] at isTaken
    contradiction

/-- A path that is taken is loaded from the project, whatever the tree holds there. -/
theorem turn_load_of_file? (found : project.file? path = some file) (tree : FileTree) :
    project.turn tree (.load path) =
      ⟨.load path, project.withTree tree, .ok (.file file), project.withTree tree⟩ := by
  have taken : (project.withTree tree).registered? (key path) = some file := found
  have ends : Step.Ends (load path) (project.withTree tree) (.ok file) (project.withTree tree) := by
    refine Step.ends_get_bind.mpr ?_
    rw [taken]
    exact Step.ends_pure.mpr ⟨rfl, rfl⟩
  exact turn_of_ends (Step.ends_map.mpr ⟨_, ends, rfl⟩)

end

/-! ## The whole -/

/-- What holds of a project after any calls. -/
structure Orderly (project : Project) : Prop where
  normal : ∀ path file, project.registered? path = some file → file.path = path ∧ key path = path
  found : ∀ file ∈ project.files, project.registered? file.path = some file
  distinct : (project.declared.map (·.id)).Nodup
  /-- The next number to be given is behind those of all declarations. -/
  behind : ∃ id next, Step.Ends takeId project (.ok id) next ∧ ∀ d ∈ project.declared, d.id < id
  /-- A file holds the declarations of a text in order of their first appearance, with growing numbers. -/
  inOrder : ∀ file ∈ project.files, (file.declarations.map (·.id)).Pairwise (· < ·) ∧
    ∃ text first statements, SourceFile.ofText file.path text first = .ok file ∧
      Source.read file.path text = .ok statements ∧
      file.declarations.map (·.heading) = headings statements
  /-- A path that is taken cannot be added again, and is loaded as it is, under any spelling. -/
  taken : ∀ path file, project.file? path = some file → ∀ tree,
    let now := project.withTree tree
    (∀ text, project.turn tree (.add path text) =
      ⟨.add path text, now, .error (.duplicateSource (key path)), now⟩) ∧
    project.turn tree (.load path) = ⟨.load path, now, .ok (.file file), now⟩
  free : ∀ path, project.file? path = none → ∀ tree text,
    project.turn tree (.add path text) = project.addingTurn tree path text

theorem registered?_of_mem {project : Project} (sound : project.Sound) {file : SourceFile}
    (member : file ∈ project.files) : project.registered? file.path = some file := by
  cases found : project.registered? file.path with
  | none =>
      have differs := List.find?_eq_none.mp found file member
      simp at differs
  | some other =>
      have samePath := path_of_registered? found
      rw [List.inj_on_of_nodup_map sound.paths (registered?_mem found) member samePath]

theorem Reachable.orderly {project : Project} (reachable : project.Reachable) : project.Orderly where
  normal path file found := ⟨path_of_registered? found, reachable.key_of_registered? found⟩
  found file member := registered?_of_mem reachable.sound member
  distinct := reachable.sound.ids
  behind := by
    refine ⟨project.nextId, { project with nextId := project.nextId + 1 }, rfl, ?_⟩
    exact fun d member => (reachable.sound.bounds d member).2
  inOrder file member := by
    obtain ⟨-, text, first, formed⟩ := reachable.formed file member
    obtain ⟨statements, ran, inText⟩ := SourceFile.headings_ofText formed
    refine ⟨?_, text, first, statements, formed, ran, inText⟩
    rw [(SourceFile.numbered_ofText formed).2.ids]
    exact List.pairwise_lt_range'
  taken path file found tree :=
    ⟨fun text => turn_add_of_file? found tree text, turn_load_of_file? found tree⟩
  free path isFree tree text := turn_add_of_free isFree tree text

/-- After any calls, each of which may fail and meets a tree of its own, a project is orderly, no call that failed
has changed its files, and no number has been handed out twice. -/
theorem orderly_turns (tree : FileTree) (readsTree : Bool) (calls : List (FileTree × Call)) :
    ((empty tree readsTree).afterAll calls).Orderly ∧
      (∀ turn ∈ (empty tree readsTree).turns calls,
        turn.outcome.isOk = false → turn.after.files = turn.before.files) ∧
      ∃ handed : List (List Nat),
        List.Forall₂ Turn.HandsOut ((empty tree readsTree).turns calls) handed ∧
        handed.flatten.Nodup := by
  have reachable : ((empty tree readsTree).afterAll calls).Reachable :=
    ⟨tree, readsTree, leads_afterAll _ calls⟩
  obtain ⟨handed, all, inARow, -⟩ := handsOut_turns (empty tree readsTree) calls
  refine ⟨reachable.orderly, fun turn member fails => files_of_failed_turn member fails, handed, all, ?_⟩
  rw [inARow]
  exact List.nodup_range'

/-- A refused text uses up a number, a taken path does not, and a file that is read from a tree takes the next. -/
example :
    ((empty (.empty []) true).turns
      [(.empty [], .add "a.ts" "export enum A{X}"),
       (.empty [], .add "b.ts" "enum B{X} function f({x}){}"),
       (.empty [], .add "lib/../a.ts" "enum B{X}"),
       (.empty [], .number),
       (⟨[(["c.ts"], .file [101, 110, 117, 109, 32, 67, 123, 125])], []⟩, .module "a.ts" "./c"),
       (.empty [], .load "./c.ts")]).map (fun turn =>
        (turn.outcome.isOk, turn.after.nextId, turn.after.files.map (·.path))) =
      [(true, 2, ["a.ts"]), (false, 3, ["a.ts"]), (false, 3, ["a.ts"]), (true, 4, ["a.ts"]),
       (true, 5, ["a.ts", "c.ts"]), (true, 5, ["a.ts", "c.ts"])] := by
  decide +kernel

end Project

end DeclaredOptions
