import DeclaredOptions.Failure
import DeclaredOptions.Path

/-!
Contract: file trees as values, and the texts of their files.

Owns:
- directories and files by their components, and the walk along a path from a working directory;
- reading bytes as text, with one kind of line end;
- writing files and making directories.

Does not own: links, permissions and time.
-/

namespace DeclaredOptions

inductive FileEntry where
  | file (bytes : List UInt8)
  | directory
  deriving DecidableEq, Repr

/-- A tree: the entries by their components from the root, and the working directory, which is there
even if no entry says so. -/
structure FileTree where
  entries : List (List String × FileEntry)
  working : List String
  deriving Repr

namespace FileTree

def empty (working : List String) : FileTree := ⟨[], working⟩

/-- Whether one list of components begins with another. -/
def isWithin : List String → List String → Bool
  | [], _ => true
  | _ :: _, [] => false
  | a :: as, b :: bs => a == b && isWithin as bs

/-- What stands at a place. The root, the working directory, all above it and all above a file are
directories. -/
def at? (tree : FileTree) (place : List String) : Option FileEntry :=
  match tree.entries.find? fun entry => entry.1 == place with
  | some (_, entry) => some entry
  | none =>
    if isWithin place tree.working || tree.entries.any (isWithin place ·.1) then some .directory
    else none

def step (tree : FileTree) (place : List String) (component : String) :
    Except FileFault (List String) :=
  match tree.at? place with
  | none => .error .missing
  | some (.file _) => .error .notDirectory
  | some .directory =>
    if component == "" || component == "." then .ok place
    else if component == ".." then .ok place.dropLast
    else if component.utf8ByteSize > 255 then .error .nameTooLong
    else .ok (place ++ [component])

def walk (tree : FileTree) (path : String) : Except FileFault (List String) :=
  if path.isEmpty then .error .missing
  else
    let parts := Path.components path
    if path.startsWith "/" then parts.foldlM tree.step []
    else parts.foldlM tree.step tree.working

def bytes (tree : FileTree) (path : String) : Except FileFault (List UInt8) := do
  match tree.at? (← tree.walk path) with
  | some (.file bytes) => pure bytes
  | some .directory => throw .directory
  | none => throw .missing

def isFile (tree : FileTree) (path : String) : Bool := (tree.bytes path).isOk

def holds (tree : FileTree) (path : String) : Bool :=
  match tree.walk path with
  | .ok place => (tree.at? place).isSome
  | .error _ => false

/-- The entries with one of them set; a new one comes last. -/
def setEntry (place : List String) (entry : FileEntry) :
    List (List String × FileEntry) → List (List String × FileEntry)
  | [] => [(place, entry)]
  | first :: rest =>
    if first.1 == place then (place, entry) :: rest else first :: setEntry place entry rest

def put (tree : FileTree) (place : List String) (bytes : List UInt8) : FileTree :=
  { tree with entries := setEntry place (.file bytes) tree.entries }

def write (tree : FileTree) (path : String) (bytes : List UInt8) : Except FileFault FileTree := do
  let place ← tree.walk path
  match tree.at? place with
  | some .directory => throw .directory
  | some (.file _) => pure (tree.put place bytes)
  | none =>
    match tree.at? place.dropLast with
    | some .directory => pure (tree.put place bytes)
    | some (.file _) => throw .notDirectory
    | none => throw .missing

def isDirectory (tree : FileTree) (path : String) : Bool :=
  match tree.walk path with
  | .ok place => tree.at? place == some .directory
  | .error _ => false

/-- The tree with a directory made at a path; its upper directory must be there. Slashes at the end of the
path count for nothing. -/
def makeDirectory (tree : FileTree) (path : String) : Except FileFault FileTree := do
  let bare := Text.dropEndWhile (· == '/') path.toList
  let place ← tree.walk (if bare.isEmpty then path else String.ofList bare)
  match tree.at? place, tree.at? place.dropLast with
  | some _, _ => throw .exists
  | none, some .directory =>
    pure { tree with entries := setEntry place .directory tree.entries }
  | none, some (.file _) => throw .notDirectory
  | none, none => throw .missing

/-- The path above a path and its last component; slashes at its end count for nothing. -/
def splitLast (path : String) : String × String :=
  let last := Path.lastComponent path
  if last.isEmpty then
    let upper := Path.directory path
    (Path.directory upper, Path.lastComponent upper)
  else (Path.directory path, last)

/-- The tree with a directory and all above it made at a path, and the fault of the first that cannot be made,
with its path. A directory that is there is kept. `fuel` bounds the number of directories. -/
def makeAll (tree : FileTree) : Nat → String → FileTree × Option (FileFault × String)
  | 0, _ => (tree, none)
  | fuel + 1, path =>
    let (upper, last) := splitLast path
    let needsUpper := !upper.isEmpty && !last.isEmpty && !tree.holds upper
    let (made, fault) := if needsUpper then tree.makeAll fuel upper else (tree, none)
    match fault with
    | some (fault, place) => (made, some (fault, place))
    | none =>
      if needsUpper && last == "." then (made, none)
      else
        match made.makeDirectory path with
        | .ok tree => (tree, none)
        | .error fault =>
          if made.isDirectory path then (made, none) else (made, some (fault, path))

/-- The tree with a directory and all above it made at a path, as far as they can be made. -/
def makeDirectories (tree : FileTree) (path : String) : FileTree × Option (FileFault × String) :=
  tree.makeAll (path.length + 1) path

/-- The files of a tree that are not the same in an earlier one, with their bytes; paths are seen from the
working directory. -/
def changedFiles (start tree : FileTree) : List (String × List UInt8) :=
  tree.entries.filterMap fun (place, entry) =>
    match entry with
    | .directory => none
    | .file bytes =>
      if start.at? place == some entry then none
      else
        let (up, down) := Path.afterCommon tree.working place
        some (Path.ofComponents (List.replicate up.length ".." ++ down), bytes)

/-! ## Texts -/

/-- Bytes that are not UTF-8: the offsets of the first and the last of them, and what is wrong. -/
structure BadBytes where
  first : Nat
  last : Nat
  reason : String

/-- The number of bytes after the first of a character, its high bits, and the range of its second byte;
none if the byte begins no character. -/
def opening? (byte : UInt8) : Option (Nat × Nat × Nat × Nat) :=
  let n := byte.toNat
  if n < 0x80 then some (0, n, 0, 0)
  else if n < 0xc2 then none
  else if n < 0xe0 then some (1, n - 0xc0, 0x80, 0xbf)
  else if n < 0xf0 then
    some (2, n - 0xe0, if n == 0xe0 then 0xa0 else 0x80, if n == 0xed then 0x9f else 0xbf)
  else if n < 0xf5 then
    some (3, n - 0xf0, if n == 0xf0 then 0x90 else 0x80, if n == 0xf4 then 0x8f else 0xbf)
  else none

/-- The bits of the bytes that go on with a character, of which `count` are still to come; otherwise the
number of good ones and whether the bytes ran out. -/
def continuation (low high count good value : Nat) (bytes : List UInt8) :
    Except (Nat × Bool) (Nat × List UInt8) :=
  match count, bytes with
  | 0, rest => .ok (value, rest)
  | _ + 1, [] => .error (good, true)
  | count + 1, byte :: rest =>
    if low ≤ byte.toNat && byte.toNat ≤ high then
      continuation 0x80 0xbf count (good + 1) (value * 64 + byte.toNat % 64) rest
    else .error (good, false)

/-- The characters of bytes from an offset on; `fuel` bounds their number. -/
def decodeFrom (offset : Nat) : Nat → List UInt8 → Except BadBytes (List Char)
  | 0, _ => .ok []
  | _ + 1, [] => .ok []
  | fuel + 1, byte :: rest =>
    match opening? byte with
    | none => .error ⟨offset, offset, "invalid start byte"⟩
    | some (count, value, low, high) =>
      match continuation low high count 0 value rest with
      | .error (good, true) => .error ⟨offset, offset + good, "unexpected end of data"⟩
      | .error (good, false) => .error ⟨offset, offset + good, "invalid continuation byte"⟩
      | .ok (code, rest) => (Char.ofNat code :: ·) <$> decodeFrom (offset + count + 1) fuel rest

/-- A text with a line feed for every line end. -/
def oneLineEnd : List Char → List Char
  | '\r' :: '\n' :: rest => '\n' :: oneLineEnd rest
  | '\r' :: rest => '\n' :: oneLineEnd rest
  | c :: rest => c :: oneLineEnd rest
  | [] => []

def textOf (bytes : List UInt8) : Except Failure String :=
  match decodeFrom 0 bytes.length bytes with
  | .ok chars => .ok (String.ofList (oneLineEnd chars))
  | .error bad =>
    .error (.notUtf8 ((bytes[bad.first]?.map UInt8.toNat).getD 0) bad.first bad.last bad.reason)

/-- The text of the file at a path; `refusal` says what a refused read means. -/
def text (tree : FileTree) (path : String) (refusal : FileFault → Failure) :
    Except Failure String := do
  match tree.bytes path with
  | .ok bytes => textOf bytes
  | .error fault => throw (refusal fault)

end FileTree

end DeclaredOptions
