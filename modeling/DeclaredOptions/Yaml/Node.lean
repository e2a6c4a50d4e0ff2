import DeclaredOptions.Yaml.Token

/-!
Contract: the nodes that the tokens of a YAML document form.

Owns:
- scalars, sequences and mappings with their types, given or found;
- block and flow collections, entries without a value, anchors and their aliases;
- the directives of a document, and that there is at most one document.

Does not own: the values of nodes.
-/

namespace DeclaredOptions.Yaml

inductive NodeType where
  | plain (kind : PlainKind)
  | list
  | mapping
  | members
  | orderedPairs
  | pairs
  | bytes
  | unknown
  deriving DecidableEq, Repr

inductive Node where
  | scalar (type : NodeType) (text : String)
  | list (type : NodeType) (items : List Node)
  | mapping (type : NodeType) (entries : List (Node × Node))
  deriving Repr

/-- What the names of the standard types begin with. -/
def standardStart : String := "tag:yaml.org,2002:"

def standardTypes : List (String × NodeType) :=
  [("null", .plain .null), ("bool", .plain .truth), ("int", .plain .whole),
    ("float", .plain .real), ("str", .plain .text), ("timestamp", .plain .moment),
    ("binary", .bytes), ("seq", .list), ("map", .mapping), ("set", .members),
    ("omap", .orderedPairs), ("pairs", .pairs)]

def NodeType.ofName (name : String) : NodeType :=
  match standardTypes.find? fun pair => standardStart ++ pair.1 == name with
  | some (_, type) => type
  | none => .unknown

def Node.empty : Node := .scalar (.plain .null) ""

/-- What is known while tokens form nodes. -/
structure Building where
  tokens : List Token
  handles : List (String × String)
  anchors : List (String × Node)

/-- A step of forming nodes; tokens out of place have none. -/
abbrev Builder (α : Type) := StateT Building Option α

namespace Builder

def peek : Builder (Option Token) := do pure (← get).tokens.head?

def take : Builder Unit := modify fun state => { state with tokens := state.tokens.tail }

def takes (token : Token) : Builder Bool := do
  if (← peek) == some token then
    take
    pure true
  else pure false

/-- Takes the given token, which has to come next. -/
def need (token : Token) : Builder Unit := do
  if !(← takes token) then failure

def seesAny (tokens : List Token) : Builder Bool := do
  pure ((← peek).any tokens.contains)

/-- The anchor and the type name before a node, in either order. -/
def properties : Builder (Option String × Option (Option String × String)) := do
  let anchor : Builder (Option String) := do
    match ← peek with
    | some (.anchor name) => take; pure (some name)
    | _ => pure none
  let tag : Builder (Option (Option String × String)) := do
    match ← peek with
    | some (.tag handle rest) => take; pure (some (handle, rest))
    | _ => pure none
  match ← anchor with
  | some name => pure (some name, ← tag)
  | none =>
    match ← tag with
    | some name => pure (← anchor, some name)
    | none => pure (none, none)

def fullName (handle : Option String) (rest : String) : Builder String := do
  match handle with
  | none => pure rest
  | some handle =>
    match (← get).handles.find? fun pair => pair.1 == handle with
    | some (_, start) => pure (start ++ rest)
    | none => failure

/-- The given type of a node; the mark alone gives none. -/
def givenType (name : Option String) : Option NodeType :=
  match name with
  | none | some "!" => none
  | some name => some (.ofName name)

/-- The type of a scalar: an unquoted one, or one after the mark alone, has the type of its text. -/
def scalarType (name : Option String) (plain : Bool) (text : String) : NodeType :=
  match givenType name with
  | some type => type
  | none =>
    if plain && name.isNone || name.isSome then .plain (plainKind text.toList) else .plain .text

/-- Names a node for later aliases; a name is given once. -/
def name (anchor : Option String) (node : Node) : Builder Node := do
  match anchor with
  | none => pure node
  | some anchor =>
    modify fun state => { state with anchors := (anchor, node) :: state.anchors }
    pure node

inductive Around where
  | block
  | mappingValue
  | flow
  deriving DecidableEq

mutual

/-- A node; `fuel` bounds the tokens and the depth. -/
def node (around : Around) : Nat → Builder Node
  | 0 => failure
  | fuel + 1 => do
    match ← peek with
    | some (.repeated name) =>
      take
      match (← get).anchors.find? fun pair => pair.1 == name with
      | some (_, node) => pure node
      | none => failure
    | _ =>
      let (anchor, tag) ← properties
      if (← get).anchors.any fun pair => anchor == some pair.1 then failure
      let typeName ← tag.mapM fun (handle, rest) => fullName handle rest
      let found ← content around (givenType typeName) typeName anchor.isSome fuel
      name anchor found

def content (around : Around) (given : Option NodeType) (typeName : Option String)
    (anchored : Bool) : Nat → Builder Node
  | 0 => failure
  | fuel + 1 => do
    let asList := Node.list (given.getD .list)
    let asMapping := Node.mapping (given.getD .mapping)
    match ← peek, around with
    | some (.scalar plain text), _ =>
      take
      pure (.scalar (scalarType typeName plain text) text)
    | some .flowSequence, _ => take; asList <$> flowItems true fuel
    | some .flowMapping, _ => take; asMapping <$> flowEntries true fuel
    | some .blockEntry, .mappingValue => asList <$> looseItems fuel
    | some .blockSequence, .block | some .blockSequence, .mappingValue =>
      take
      asList <$> blockItems fuel
    | some .blockMapping, .block | some .blockMapping, .mappingValue =>
      take
      asMapping <$> blockEntries fuel
    | _, _ =>
      if typeName.isSome || anchored then pure (.scalar (scalarType typeName true "") "")
      else failure

def nodeUnless (ends : List Token) (around : Around) : Nat → Builder Node
  | 0 => failure
  | fuel + 1 => do
    if ← seesAny ends then pure .empty else node around fuel

def blockItems : Nat → Builder (List Node)
  | 0 => failure
  | fuel + 1 => do
    if ← takes .blockEntry then
      let item ← nodeUnless [.blockEntry, .blockEnd] .block fuel
      pure (item :: (← blockItems fuel))
    else
      need .blockEnd
      pure []

/-- The items of a block sequence that is as far out as the mapping around it. -/
def looseItems : Nat → Builder (List Node)
  | 0 => failure
  | fuel + 1 => do
    if ← takes .blockEntry then
      let item ← nodeUnless [.blockEntry, .key, .value, .blockEnd] .block fuel
      pure (item :: (← looseItems fuel))
    else pure []

def blockEntries : Nat → Builder (List (Node × Node))
  | 0 => failure
  | fuel + 1 => do
    let ends := [Token.key, .value, .blockEnd]
    if ← takes .blockEnd then pure []
    else
      need .key
      let key ← nodeUnless ends .mappingValue fuel
      let value ←
        if ← takes .value then nodeUnless ends .mappingValue fuel else pure .empty
      pure ((key, value) :: (← blockEntries fuel))

def flowItems (first : Bool) : Nat → Builder (List Node)
  | 0 => failure
  | fuel + 1 => do
    if ← takes .flowSequenceEnd then pure []
    else
      if !first then need .flowEntry
      if ← takes .key then
        let key ← nodeUnless [.value, .flowEntry, .flowSequenceEnd] .flow fuel
        let value ←
          if ← takes .value then nodeUnless [.flowEntry, .flowSequenceEnd] .flow fuel
          else pure .empty
        pure (.mapping .mapping [(key, value)] :: (← flowItems false fuel))
      else if ← takes .flowSequenceEnd then pure []
      else
        let item ← node .flow fuel
        pure (item :: (← flowItems false fuel))

def flowEntries (first : Bool) : Nat → Builder (List (Node × Node))
  | 0 => failure
  | fuel + 1 => do
    if ← takes .flowMappingEnd then pure []
    else
      if !first then need .flowEntry
      if ← takes .key then
        let key ← nodeUnless [.value, .flowEntry, .flowMappingEnd] .flow fuel
        let value ←
          if ← takes .value then nodeUnless [.flowEntry, .flowMappingEnd] .flow fuel
          else pure .empty
        pure ((key, value) :: (← flowEntries false fuel))
      else if ← takes .flowMappingEnd then pure []
      else
        let key ← node .flow fuel
        pure ((key, .empty) :: (← flowEntries false fuel))

end

/-! ## Documents -/

/-- The handles that are known without a directive. -/
def usualHandles : List (String × String) := [("!", "!"), ("!!", standardStart)]

/-- Reads the directives before a document: one version of the first major number, and one meaning for
each handle. -/
def directives (versioned : Bool) (handles : List (String × String)) :
    List Token → Option (List (String × String) × List Token)
  | .directive (some major) _ :: rest =>
    if versioned || major != 1 then none else directives true handles rest
  | .directive none (some handle) :: rest =>
    if handles.any fun pair => pair.1 == handle.1 then none
    else directives versioned (handle :: handles) rest
  | .directive none none :: rest => directives versioned handles rest
  | tokens => some (handles ++ usualHandles, tokens)

end Builder

/-- Whether a token can only stand after a document. -/
def Token.endsDocument : Token → Bool
  | .directive .. | .documentStart | .documentEnd => true
  | _ => false

/-- The tokens of a document and what comes after its directives and its begin mark; nothing if the text
holds none. -/
def opening? (tokens : List Token) : Option (Option (Building × Bool)) :=
  match tokens with
  | [] => some none
  | .directive .. :: _ | .documentStart :: _ =>
    match Builder.directives false [] tokens with
    | some (handles, .documentStart :: rest) => some (some (⟨rest, handles, []⟩, true))
    | _ => none
  | _ => some (some (⟨tokens, Builder.usualHandles, []⟩, false))

/-- The node of the only document of a text; a text without one has none. -/
def root? (tokens : List Token) : Option (Option Node) := do
  match ← opening? tokens with
  | none => some none
  | some (building, marked) =>
    let fuel := 4 * tokens.length + 8
    let bare := marked && building.tokens.head?.all Token.endsDocument
    let (node, after) ←
      if bare then some (Node.empty, building) else (Builder.node .block fuel).run building
    let rest :=
      match after.tokens with
      | .documentEnd :: rest => rest.dropWhile (· == Token.documentEnd)
      | rest => rest
    if rest.isEmpty then some (some node) else none

end DeclaredOptions.Yaml
