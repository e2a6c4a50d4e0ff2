import DeclaredOptions.Failure

/-!
Contract: the first fault of a syntax tree, in source order.

Owns:
- trees whose nodes may be missing or erroneous and carry a flag for faults below them;
- the search with an explicit stack that only enters flagged nodes, and the plain recursive search;
- the message of a fault.

Does not own: how such trees are built.
-/

namespace DeclaredOptions

/-- A place in a source, both numbers counted from zero, the column in bytes. -/
structure SourcePlace where
  row : Nat
  column : Nat
  deriving DecidableEq, Repr

/-- A node of a syntax tree. `flagged` promises that a fault may stand in it or below it. -/
inductive SyntaxNode where
  | node (kind : String) (place : SourcePlace) (first last : Nat) (missing flagged : Bool)
      (children : List SyntaxNode)

namespace SyntaxNode

def kind : SyntaxNode → String
  | node kind .. => kind

def place : SyntaxNode → SourcePlace
  | node _ place .. => place

/-- The bytes of a node, from the first on and before the last. -/
def span : SyntaxNode → Nat × Nat
  | node _ _ first last .. => (first, last)

def missing : SyntaxNode → Bool
  | node _ _ _ _ missing .. => missing

def flagged : SyntaxNode → Bool
  | node _ _ _ _ _ flagged _ => flagged

def children : SyntaxNode → List SyntaxNode
  | node _ _ _ _ _ _ children => children

/-- Whether a node holds text that fits nowhere. -/
def erroneous (n : SyntaxNode) : Bool := n.kind == "ERROR"

def isFault (n : SyntaxNode) : Bool := n.missing || n.erroneous

/-- Whether the search looks at a child. -/
def isEntered (n : SyntaxNode) : Bool := n.flagged || n.missing

/-- Entering a node leaves less to look at. -/
theorem sizeOf_entered_lt (n : SyntaxNode) (rest : List SyntaxNode) :
    sizeOf (n.children.filter isEntered ++ rest) < sizeOf (n :: rest) := by
  have filtered (p : SyntaxNode → Bool) (items more : List SyntaxNode) :
      sizeOf (items.filter p ++ more) ≤ sizeOf items + sizeOf more := by
    induction items with
    | nil => simp
    | cons item items ih =>
      by_cases kept : p item <;> simp [kept] <;> omega
  have bound := filtered isEntered n.children rest
  cases n with
  | node kind place first last missing flagged children =>
    simp only [SyntaxNode.children, List.cons.sizeOf_spec, node.sizeOf_spec] at *
    omega

/-- The first fault among pending nodes, of which the first is looked at next. -/
def searchPending : List SyntaxNode → Option SyntaxNode
  | [] => none
  | n :: rest =>
    if n.isFault then some n
    else searchPending (n.children.filter isEntered ++ rest)
termination_by pending => sizeOf pending
decreasing_by exact sizeOf_entered_lt n rest

mutual

/-- The first fault of a tree in preorder, whatever is flagged. -/
def firstFault? (n : SyntaxNode) : Option SyntaxNode :=
  match n with
  | node kind place first last missing flagged children =>
    if missing || kind == "ERROR" then
      some (node kind place first last missing flagged children)
    else firstFaultAmong? children

def firstFaultAmong? (nodes : List SyntaxNode) : Option SyntaxNode :=
  match nodes with
  | [] => none
  | n :: rest =>
    match firstFault? n with
    | some fault => some fault
    | none => firstFaultAmong? rest

end

/-- The first fault of a tree; a tree that is not flagged counts as sound. -/
def search? (root : SyntaxNode) : Option SyntaxNode :=
  if root.flagged then searchPending [root] else none

/-- The text between two byte offsets; offsets beyond the end count as the end. -/
def spanText (text : String) (first last : Nat) : Except Failure String :=
  let bytes := text.toUTF8.extract first last
  match String.fromUTF8? bytes with
  | some text => .ok text
  | none => .error (.notUtf8 0 0 0 "")

/-- The most characters of a source that a message shows. -/
def snippetLength : Nat := 24

def faultText (text : String) (n : SyntaxNode) : Except Failure String :=
  if n.missing then .ok ("Expected " ++ quotedName n.kind)
  else do
    let whole ← spanText text n.span.1 n.span.2
    let snippet := (whole.toList.takeWhile (· != '\n')).take snippetLength
    pure (if snippet.isEmpty then "Unexpected end of file"
      else "Unexpected " ++ String.ofList (Text.quotedChars snippet))

/-- Refuses a tree with a fault, at the place of the first. -/
def check (path text : String) (root : SyntaxNode) : Except Failure Unit :=
  match root.search? with
  | none => .ok ()
  | some fault => do
    let what ← faultText text fault
    throw (.sourceFault path (fault.place.row + 1) (fault.place.column + 1) what)

end SyntaxNode

end DeclaredOptions
