import DeclaredOptions.Sight

/-!
Contract: the program.

Owns: reading what stands at the places that a run looks at, showing what it shows, and writing the files
that it changed.

Does not own: anything that is decided about them.
-/

namespace DeclaredOptions.Terminal

/-- The number that the system gives for a directory where a file is asked for. -/
def directoryCode : UInt32 := 21

def entryAt (place : List String) : IO (Option FileEntry) := do
  try
    let bytes ← IO.FS.readBinFile (Tool.pathOf place)
    pure (some (.file bytes.toList))
  catch
    | .inappropriateType _ code _ => pure (if code == directoryCode then some .directory else none)
    | _ => pure none

def look (tree : FileTree) (places : List (List String)) : IO FileTree := do
  let mut seen := tree
  for place in places do
    if let some entry ← entryAt place then
      seen := { seen with entries := FileTree.setEntry place entry seen.entries }
  pure seen

/-- The part of the file system that a run looks at; `known` are the places that were looked at. -/
partial def gather (invocation : Tool.Invocation) (known : List (List String)) (tree : FileTree) :
    IO FileTree := do
  let places := (Tool.soughtPlaces tree invocation).filter fun place => !known.contains place
  if places.isEmpty then pure tree
  else gather invocation (known ++ places) (← look tree places)

def writeChanges (before after : FileTree) : IO Unit := do
  for (place, entry) in after.entries do
    if entry == .directory && before.at? place != some entry then
      IO.FS.createDirAll (Tool.pathOf place)
  for (path, bytes) in before.changedFiles after do
    IO.FS.writeBinFile path ⟨bytes.toArray⟩

def showEnding (ending : Tool.Ending) : IO UInt32 := do
  (← IO.getStdout).putStr ending.out
  (← IO.getStderr).putStr ending.err
  pure ending.code.toUInt32

/-- Answers a command line in the working directory. -/
def answer (words : List String) : IO UInt32 := do
  let here ← IO.currentDir
  let empty := FileTree.empty (Path.absolute [] here.toString)
  match Tool.read words with
  | .ok (.values values) =>
    let before ← gather (.ofValues values) [] empty
    let (ending, after) := Tool.run before words
    writeChanges before after
    showEnding ending
  | _ => showEnding (Tool.run empty words).1

end DeclaredOptions.Terminal

def main (words : List String) : IO UInt32 := DeclaredOptions.Terminal.answer words
