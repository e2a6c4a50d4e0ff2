import DeclaredOptions.FileTree
import Mathlib.Data.List.Basic

/-!
Contract: what stands at the places of a tree, and what a read finds there.

Owns:
- reads, which succeed exactly at the places of files;
- the place that a path leads to, whatever the tree is, and the walks that get there;
- changes that keep directories, and files outside of given places: writes, and the making of directories;
- a written file, which is there afterwards.

Does not own: the texts that bytes stand for.
-/

set_option autoImplicit false

namespace DeclaredOptions.FileTree

variable {tree : FileTree} {path : String} {bytes : List UInt8}

/-! ## Reading -/

/-- The bytes at a path are those of the file at the place it leads to. -/
theorem bytes_eq_ok_iff :
    tree.bytes path = .ok bytes ↔
      ∃ place, tree.walk path = .ok place ∧ tree.at? place = some (.file bytes) := by
  unfold FileTree.bytes
  cases walked : tree.walk path with
  | error fault => exact iff_of_false nofun (by simp)
  | ok place =>
      dsimp only [bind, Except.bind]
      cases found : tree.at? place with
      | none => simp [found, throw, throwThe, MonadExceptOf.throw]
      | some entry =>
          cases entry with
          | directory => simp [found, throw, throwThe, MonadExceptOf.throw]
          | file own => simp [found, pure, Except.pure]

theorem isFile_iff : tree.isFile path ↔ ∃ bytes, tree.bytes path = .ok bytes := by
  unfold isFile
  cases tree.bytes path with
  | ok own => simp [Except.isOk, Except.toBool]
  | error fault => simp [Except.isOk, Except.toBool]

/-- A text that is read is that of the bytes at the path. -/
theorem text_eq_ok_iff {refusal : FileFault → Failure} {text : String} :
    tree.text path refusal = .ok text ↔ ∃ bytes, tree.bytes path = .ok bytes ∧ textOf bytes = .ok text := by
  unfold FileTree.text
  cases read : tree.bytes path with
  | error fault => exact iff_of_false nofun (by simp)
  | ok bytes => simp

/-- A file at a place is an entry of the tree; only directories may go without saying. -/
theorem mem_entries_of_at? {place : List String} (found : tree.at? place = some (.file bytes)) :
    (place, .file bytes) ∈ tree.entries := by
  unfold at? at found
  split at found
  · rename_i other isEntry
    have listed := List.mem_of_find?_eq_some isEntry
    have isPlace := List.find?_some isEntry
    cases found
    rwa [← beq_iff_eq.mp isPlace]
  · split at found
    · cases found
    · cases found

/-! ## Places -/

/-- The place that a component leads to from another, where there is a directory. -/
def placeStep (place : List String) (component : String) : List String :=
  if component == "" || component == "." then place
  else if component == ".." then place.dropLast
  else place ++ [component]

/-- The place that a path leads to from a working directory, if the walk is not stopped. -/
def placeOf (working : List String) (path : String) : List String :=
  (Path.components path).foldl placeStep (if path.startsWith "/" then [] else working)

variable {place next : List String}

theorem placeStep_of_step {component : String} (stepped : tree.step place component = .ok next) :
    next = placeStep place component ∧ tree.at? place = some .directory := by
  unfold step at stepped
  unfold placeStep
  split at stepped
  · contradiction
  · contradiction
  · rename_i isDirectory
    refine ⟨?_, isDirectory⟩
    split at stepped
    · rename_i stays
      rw [if_pos stays]
      exact (Except.ok.inj stepped).symm
    · rename_i moves
      rw [if_neg moves]
      split at stepped
      · rename_i isUp
        rw [if_pos isUp]
        exact (Except.ok.inj stepped).symm
      · rename_i notUp
        rw [if_neg notUp]
        split at stepped
        · contradiction
        · exact (Except.ok.inj stepped).symm

theorem placeOf_of_foldlM {components : List String}
    (walked : components.foldlM tree.step place = .ok next) : next = components.foldl placeStep place := by
  induction components generalizing place with
  | nil => exact (Except.ok.inj walked).symm
  | cons component rest inductionHypothesis =>
      rw [List.foldlM_cons] at walked
      cases stepped : tree.step place component with
      | error fault =>
          rw [stepped] at walked
          contradiction
      | ok middle =>
          rw [stepped] at walked
          rw [inductionHypothesis walked, (placeStep_of_step stepped).1]
          rfl

theorem eq_placeOf_of_walk (walked : tree.walk path = .ok place) : place = placeOf tree.working path := by
  unfold walk at walked
  unfold placeOf
  split at walked
  · contradiction
  · dsimp only at walked
    split at walked
    · rename_i isAbsolute
      rw [if_pos isAbsolute]
      exact placeOf_of_foldlM walked
    · rename_i isRelative
      rw [if_neg isRelative]
      exact placeOf_of_foldlM walked

/-! ## Changes -/

/-- A tree goes on from another: directories stay, and so do all files but those at touched places. -/
structure Extends (touched : List String → Prop) (before after : FileTree) : Prop where
  working : after.working = before.working
  directories : ∀ place, before.at? place = some .directory → after.at? place = some .directory
  files : ∀ place bytes, ¬touched place → before.at? place = some (.file bytes) →
    after.at? place = some (.file bytes)

namespace Extends

variable {touched : List String → Prop} {before middle after : FileTree}

theorem refl (touched : List String → Prop) (tree : FileTree) : Extends touched tree tree :=
  ⟨rfl, fun _ isDirectory => isDirectory, fun _ _ _ isFile => isFile⟩

theorem trans (first : Extends touched before middle) (second : Extends touched middle after) :
    Extends touched before after where
  working := second.working.trans first.working
  directories place isDirectory := second.directories place (first.directories place isDirectory)
  files place bytes untouched isFile := second.files place bytes untouched (first.files place bytes untouched isFile)

theorem mono {more : List String → Prop} (changes : Extends touched before after)
    (covers : ∀ place, touched place → more place) : Extends more before after where
  working := changes.working
  directories := changes.directories
  files place bytes untouched := changes.files place bytes fun isTouched => untouched (covers place isTouched)

theorem foldlM_eq_ok (changes : Extends touched before after) {components : List String} {place next : List String}
    (walked : components.foldlM before.step place = .ok next) :
    components.foldlM after.step place = .ok next := by
  induction components generalizing place with
  | nil => exact walked
  | cons component rest inductionHypothesis =>
      rw [List.foldlM_cons] at walked ⊢
      cases stepped : before.step place component with
      | error fault =>
          rw [stepped] at walked
          contradiction
      | ok middle =>
          have wasDirectory := (placeStep_of_step stepped).2
          have same : after.step place component = .ok middle := by
            rw [← stepped]
            unfold step
            rw [wasDirectory, changes.directories place wasDirectory]
          rw [stepped] at walked
          rw [same]
          exact inductionHypothesis walked

theorem walk_eq_ok (changes : Extends touched before after) {path : String} {place : List String}
    (walked : before.walk path = .ok place) : after.walk path = .ok place := by
  unfold walk at walked ⊢
  split at walked
  · contradiction
  · rename_i nonempty
    dsimp only at walked ⊢
    rw [if_neg nonempty, changes.working]
    split at walked
    · rename_i isAbsolute
      rw [if_pos isAbsolute]
      exact changes.foldlM_eq_ok walked
    · rename_i isRelative
      rw [if_neg isRelative]
      exact changes.foldlM_eq_ok walked

theorem bytes_eq_ok (changes : Extends touched before after) {path : String} {bytes : List UInt8}
    (untouched : ¬touched (placeOf before.working path)) (read : before.bytes path = .ok bytes) :
    after.bytes path = .ok bytes := by
  obtain ⟨place, walked, isFile⟩ := bytes_eq_ok_iff.mp read
  have isPlace := eq_placeOf_of_walk walked
  rw [← isPlace] at untouched
  exact bytes_eq_ok_iff.mpr ⟨place, changes.walk_eq_ok walked, changes.files place bytes untouched isFile⟩

end Extends

/-! ## Entries -/

theorem find?_setEntry_self (place : List String) (entry : FileEntry) (entries : List (List String × FileEntry)) :
    (setEntry place entry entries).find? (·.1 == place) = some (place, entry) := by
  induction entries with
  | nil => simp [setEntry]
  | cons first rest inductionHypothesis =>
      unfold setEntry
      split
      · simp
      · rename_i other
        rw [List.find?_cons, Bool.eq_false_iff.mpr other]
        exact inductionHypothesis

theorem find?_setEntry_of_ne {place other : List String} (differ : place ≠ other) (entry : FileEntry)
    (entries : List (List String × FileEntry)) :
    (setEntry place entry entries).find? (·.1 == other) = entries.find? (·.1 == other) := by
  induction entries with
  | nil => simp [setEntry, differ]
  | cons first rest inductionHypothesis =>
      unfold setEntry
      split
      · rename_i isPlace
        rw [List.find?_cons_of_neg (by simpa using differ),
          List.find?_cons_of_neg (by rw [beq_iff_eq.mp isPlace]; simpa using differ)]
      · rw [List.find?_cons, List.find?_cons, inductionHypothesis]

theorem exists_mem_setEntry {place : List String} {entry : FileEntry} {entries : List (List String × FileEntry)} :
    ∀ old ∈ entries, ∃ new ∈ setEntry place entry entries, new.1 = old.1 := by
  induction entries with
  | nil => simp
  | cons first rest inductionHypothesis =>
      rw [List.forall_mem_cons]
      unfold setEntry
      split
      · rename_i isPlace
        refine ⟨⟨_, List.mem_cons_self, (beq_iff_eq.mp isPlace).symm⟩, fun old member => ?_⟩
        exact ⟨old, List.mem_cons_of_mem _ member, rfl⟩
      · refine ⟨⟨first, List.mem_cons_self, rfl⟩, fun old member => ?_⟩
        obtain ⟨new, isNew, same⟩ := inductionHypothesis old member
        exact ⟨new, List.mem_cons_of_mem _ isNew, same⟩

/-- An entry that is set where there is no directory changes what stands at its place alone. -/
theorem extends_setEntry (entry : FileEntry) (noDirectory : tree.at? place ≠ some .directory) :
    Extends (· = place) tree { tree with entries := setEntry place entry tree.entries } ∧
      at? { tree with entries := setEntry place entry tree.entries } place = some entry := by
  have differs {other : List String} {found : Option FileEntry} (isThere : tree.at? other = found)
      (isOther : found ≠ tree.at? place) : place ≠ other := by
    rintro rfl
    exact isOther isThere.symm
  refine ⟨⟨rfl, fun other isDirectory => ?_, fun other bytes untouched isFile => ?_⟩, ?_⟩
  · have isOther := differs isDirectory (Ne.symm noDirectory)
    unfold at? at isDirectory ⊢
    rw [find?_setEntry_of_ne isOther]
    split at isDirectory
    · exact isDirectory
    · dsimp only
      split at isDirectory
      · rename_i above
        rw [Bool.or_eq_true, List.any_eq_true] at above
        rw [if_pos]
        rw [Bool.or_eq_true, List.any_eq_true]
        rcases above with aboveWorking | ⟨old, isOld, within⟩
        · exact .inl aboveWorking
        · obtain ⟨new, isNew, same⟩ := exists_mem_setEntry old isOld
          exact .inr ⟨new, isNew, same ▸ within⟩
      · contradiction
  · have isOther : place ≠ other := Ne.symm untouched
    unfold at? at isFile ⊢
    rw [find?_setEntry_of_ne isOther]
    split at isFile
    · exact isFile
    · split at isFile
      · cases isFile
      · cases isFile
  · unfold at?
    rw [find?_setEntry_self]

/-! ## Writing -/

/-- A written file has its bytes, and no other place changes. -/
theorem extends_of_write {after : FileTree} (written : tree.write path bytes = .ok after) :
    Extends (· = placeOf tree.working path) tree after ∧ after.bytes path = .ok bytes := by
  unfold write at written
  cases walked : tree.walk path with
  | error fault =>
      rw [walked] at written
      contradiction
  | ok place =>
      rw [walked] at written
      have isPlace := eq_placeOf_of_walk walked
      dsimp only [bind, Except.bind] at written
      have wrote : tree.at? place ≠ some .directory ∧ after = tree.put place bytes := by
        split at written
        · contradiction
        · rename_i old isFile
          exact ⟨by simp [isFile], (Except.ok.inj written).symm⟩
        · rename_i nothing
          split at written
          · exact ⟨by simp [nothing], (Except.ok.inj written).symm⟩
          · contradiction
          · contradiction
      obtain ⟨noDirectory, rfl⟩ := wrote
      obtain ⟨changes, isThere⟩ := extends_setEntry (.file bytes) noDirectory
      rw [← isPlace]
      refine ⟨changes, ?_⟩
      exact bytes_eq_ok_iff.mpr ⟨place, changes.walk_eq_ok walked, isThere⟩

/-- A directory is made where nothing is, so that no file is touched. -/
theorem extends_of_makeDirectory {after : FileTree} (made : tree.makeDirectory path = .ok after) :
    Extends (fun _ => False) tree after := by
  unfold makeDirectory at made
  dsimp only at made
  generalize (if (Text.dropEndWhile (· == '/') path.toList).isEmpty then path
    else String.ofList (Text.dropEndWhile (· == '/') path.toList)) = bare at made
  cases walked : tree.walk bare with
  | error fault =>
      rw [walked] at made
      contradiction
  | ok place =>
      rw [walked] at made
      dsimp only [bind, Except.bind] at made
      split at made
      · contradiction
      · rename_i nothing _
        have noDirectory : tree.at? place ≠ some .directory := by simp [nothing]
        obtain ⟨changes, -⟩ := extends_setEntry .directory noDirectory
        rw [← Except.ok.inj made]
        refine ⟨changes.working, changes.directories, fun other bytes _ isFile => ?_⟩
        apply changes.files other bytes _ isFile
        rintro rfl
        rw [nothing] at isFile
        contradiction
      · contradiction
      · contradiction

theorem extends_makeAll (tree : FileTree) (fuel : Nat) (path : String) :
    Extends (fun _ => False) tree (tree.makeAll fuel path).1 := by
  induction fuel generalizing path with
  | zero => exact .refl _ _
  | succ fuel inductionHypothesis =>
      -- The upper directory comes first, if it has to be made; the rest goes on from what that gives.
      have upperMade (needsUpper : Bool) (upper : String) :
          Extends (fun _ => False) tree (if needsUpper then tree.makeAll fuel upper else (tree, none)).1 := by
        cases needsUpper with
        | true => exact inductionHypothesis upper
        | false => exact .refl _ _
      unfold makeAll
      dsimp only
      generalize (!(splitLast path).1.isEmpty && !(splitLast path).2.isEmpty &&
        !tree.holds (splitLast path).1) = needsUpper
      have changes := upperMade needsUpper (splitLast path).1
      generalize (if needsUpper then tree.makeAll fuel (splitLast path).1 else (tree, none)) = result at changes ⊢
      obtain ⟨made, fault⟩ := result
      cases fault with
      | some found => exact changes
      | none =>
          dsimp only
          split
          · exact changes
          · split
            · rename_i next isMade
              exact changes.trans (extends_of_makeDirectory isMade)
            · split
              · exact changes
              · exact changes

/-- The making of directories touches no file, whether it succeeds or not. -/
theorem extends_makeDirectories (tree : FileTree) (path : String) :
    Extends (fun _ => False) tree (tree.makeDirectories path).1 :=
  extends_makeAll tree _ path

end DeclaredOptions.FileTree
