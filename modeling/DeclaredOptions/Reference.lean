import DeclaredOptions.Declaration.Basic

/-!
Contract: references to declarations that generated modules import, and the table of them.

Owns:
- references, which are the same if their declarations are;
- the table by source file, in order of insertion, which can be frozen.

Does not own: the import statements.
-/

namespace DeclaredOptions

/-- A symbol that a generated module imports: the name it is bound to, how it is imported, the
declaration, the file it is in, and the name it is exported by where that differs. -/
structure Reference where
  name : String
  isDefault : Bool
  declaration : Declaration
  source : String
  importedName : Option String
  deriving Repr

namespace Reference

def id (ref : Reference) : Nat := ref.declaration.id

def same (a b : Reference) : Bool := a.id == b.id

def kindWord (ref : Reference) : String := if ref.isDefault then "default" else "named"

/-- The reference to a declaration under a name. -/
def toDeclaration (d : Declaration) (name : String) : Reference :=
  if d.exportKind == .asDefault then ⟨name, true, d, d.source.getD "", none⟩
  else ⟨name, false, d, d.source.getD "", d.exportName⟩

section

variable (d : Declaration) (name : String)

@[simp] theorem toDeclaration_name : (toDeclaration d name).name = name := by
  unfold toDeclaration
  split <;> rfl

@[simp] theorem toDeclaration_declaration : (toDeclaration d name).declaration = d := by
  unfold toDeclaration
  split <;> rfl

@[simp] theorem toDeclaration_source : (toDeclaration d name).source = d.source.getD "" := by
  unfold toDeclaration
  split <;> rfl

@[simp] theorem toDeclaration_isDefault :
    (toDeclaration d name).isDefault = (d.exportKind == .asDefault) := by
  unfold toDeclaration
  split
  · simp [*]
  · simp_all

end

def toCommand (d : Declaration) : Reference := toDeclaration d d.bindingName

def toEnum (d : Declaration) : Reference := toDeclaration d (d.name.getD "")

end Reference

structure ReferenceGroup where
  source : String
  defaults : List Reference
  named : List Reference
  deriving Repr

def ReferenceGroup.all (group : ReferenceGroup) : List Reference := group.defaults ++ group.named

def ReferenceGroup.push (group : ReferenceGroup) (ref : Reference) : ReferenceGroup :=
  if ref.isDefault then { group with defaults := group.defaults ++ [ref] }
  else { group with named := group.named ++ [ref] }

structure ReferenceTable where
  groups : List ReferenceGroup
  /-- The numbers of the declarations that were referred to, in order. -/
  seen : List Nat
  frozen : Bool
  deriving Repr

namespace ReferenceTable

def empty : ReferenceTable := ⟨[], [], false⟩

/-- Every reference, file by file, default ones first. -/
def toList (table : ReferenceTable) : List Reference := table.groups.flatMap (·.all)

def sources (table : ReferenceTable) : List String := table.groups.map (·.source)

def contains (table : ReferenceTable) (ref : Reference) : Bool := table.seen.contains ref.id

def group? (table : ReferenceTable) (source : String) : Option ReferenceGroup :=
  table.groups.find? fun group => group.source == source

/-- Groups with one more reference, in the group of its file; a new group comes last. -/
def insert (ref : Reference) : List ReferenceGroup → List ReferenceGroup
  | [] => [(⟨ref.source, [], []⟩ : ReferenceGroup).push ref]
  | group :: rest =>
    if group.source == ref.source then group.push ref :: rest else group :: insert ref rest

/-- A table with a reference added, unless it is there; a frozen table refuses any. -/
def add (table : ReferenceTable) : Option Reference → Except Failure ReferenceTable
  | none => .ok table
  | some ref =>
    if table.frozen then .error (.frozen ref.name)
    else if table.contains ref then .ok table
    else .ok { table with groups := insert ref table.groups, seen := table.seen ++ [ref.id] }

def addAll (table : ReferenceTable) (refs : List (Option Reference)) :
    Except Failure ReferenceTable := refs.foldlM add table

def merge (table other : ReferenceTable) : Except Failure ReferenceTable :=
  table.addAll (other.toList.map some)

/-- The table that takes no more references. -/
def freeze (table : ReferenceTable) : ReferenceTable := { table with frozen := true }

def shown (table : ReferenceTable) : String :=
  let group (g : ReferenceGroup) :=
    Text.quoted g.source ++ ": ["
      ++ Text.joined ", " (g.all.map fun ref => Text.quoted ref.name) ++ "]"
  "ReferenceTable(\x7b" ++ Text.joined ", " (table.groups.map group) ++ "\x7d)"

end ReferenceTable

end DeclaredOptions
