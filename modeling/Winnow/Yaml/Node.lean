import Winnow.Yaml.Lexer
import Winnow.Yaml.Tag

/-!
# From tokens to nodes

A node is a value whose tag is known and whose aliases have been replaced by what they stand for.
Only one document may be there, an anchor may be defined once, and there is a limit to how deep
collections nest.
-/

namespace Winnow.Yaml

mutual

/-- A node of a document. -/
inductive Node
  | scalar (tag : Tag) (text : Text)
  | sequence (tag : Tag) (items : NodeItems)
  | mapping (tag : Tag) (pairs : NodePairs)

/-- The nodes of a sequence. -/
inductive NodeItems
  | nil
  | cons (head : Node) (tail : NodeItems)

/-- The keys and values of a mapping. -/
inductive NodePairs
  | nil
  | cons (key value : Node) (rest : NodePairs)

end

instance : Inhabited Node := ⟨.scalar .null []⟩

/-- A list as items. -/
def NodeItems.ofList : List Node → NodeItems
  | [] => nil
  | head :: tail => cons head (ofList tail)

/-- The tag of a node. -/
def Node.tag : Node → Tag
  | scalar tag _ => tag
  | sequence tag _ => tag
  | mapping tag _ => tag

/-- A list as pairs. -/
def NodePairs.ofList : List (Node × Node) → NodePairs
  | [] => nil
  | (key, value) :: rest => cons key value (ofList rest)

/-- What is known while nodes are built: the tokens that are left and why there are no more, the
anchors, of which those that are still being built have no node, the bases of tag handles, and how
many collections may still be opened one inside the other. -/
structure ComposerState where
  tokens : List Token
  problem : Option LoadError
  anchors : List (Text × Option Node)
  handles : List (Text × Text)
  room : Nat

/-- A step of building nodes. -/
abbrev Composer := StateT ComposerState (Except LoadError)

namespace Composer

/-- Reports a defect of the notation. -/
def fail {α : Type} : Composer α := fun _ => .error .malformed

/-- The next token. -/
def peek : Composer Token := fun state =>
  match state.tokens, state.problem with
  | token :: _, _ => .ok (token, state)
  | [], some problem => .error problem
  | [], none => .ok (.streamEnd, state)

/-- Consumes the next token. -/
def next : Composer Unit := fun state => .ok ((), { state with tokens := state.tokens.drop 1 })

/-- Consumes the next token if it is the given one. -/
def accept (token : Token) : Composer Bool := do
  if (← peek) = token then
    next
    pure true
  else pure false

/-- Reads what a collection holds, if there is room for it. -/
def inCollection {α : Type} (body : Composer α) : Composer α := fun state =>
  match state.room with
  | 0 => .error .nestedTooDeeply
  | room + 1 =>
    match body { state with room } with
    | .error problem => .error problem
    | .ok (value, later) => .ok (value, { later with room := later.room + 1 })

/-- The node of an empty place. -/
def emptyNode : Node := .scalar .null []

/-- Anchor and tag in front of a node. -/
structure Properties where
  anchor : Option Text
  tag : Option Text

/-- The full name of a tag. -/
def tagNamed (handle : Option Text) (suffix : Text) : Composer Text := do
  match handle with
  | none => pure suffix
  | some handle =>
    match (← get).handles.lookup handle with
    | some base => pure (base ++ suffix)
    | none => fail

/-- Reads an anchor and a tag, in either order. -/
def properties : Composer Properties := do
  match ← peek with
  | .anchor name =>
    next
    match ← peek with
    | .tag handle suffix =>
      next
      pure ⟨some name, some (← tagNamed handle suffix)⟩
    | _ => pure ⟨some name, none⟩
  | .tag handle suffix =>
    next
    match ← peek with
    | .anchor name =>
      next
      pure ⟨some name, some (← tagNamed handle suffix)⟩
    | _ => pure ⟨none, some (← tagNamed handle suffix)⟩
  | _ => pure ⟨none, none⟩

/-- Whether a tag leaves the kind of value open. -/
def isOpen (tag : Option Text) : Bool := tag.isNone || tag = some ['!']

/-- The tag of a scalar: its notation decides where no tag is written and it is plain, or where the
tag is an exclamation mark. -/
def scalarTag (tag : Option Text) (text : Text) (plain : Bool) : Tag :=
  match tag with
  | none => if plain then Spelling.tagOf text else .str
  | some name => if name = ['!'] then Spelling.tagOf text else Tag.ofName name

/-- The tag of a collection. -/
def collectionTag (tag : Option Text) (usual : Tag) : Tag :=
  match tag with
  | none => usual
  | some name => if name = ['!'] then usual else Tag.ofName name

/-- Begins a node with an anchor. -/
def openAnchor (anchor : Option Text) : Composer Unit := do
  match anchor with
  | none => pure ()
  | some name =>
    let state ← get
    if (state.anchors.lookup name).isSome then fail
    else set { state with anchors := (name, none) :: state.anchors }

/-- Gives an anchor its node. -/
def closeAnchor (anchor : Option Text) (node : Node) : Composer Node := do
  match anchor with
  | none => pure node
  | some name =>
    modify fun state => { state with anchors := (name, some node) :: state.anchors }
    pure node

/-- The node that an alias stands for. -/
def aliased (name : Text) : Composer Node := do
  match (← get).anchors.lookup name with
  | some (some node) => pure node
  | some none => throw .containsItself
  | none => fail

/-- Whether the next token is one of the given ones. -/
def at? (tokens : List Token) : Composer Bool := do pure (tokens.contains (← peek))

mutual

/-- Reads a node. Blocks may begin here if `block` is set, and entries without an indentation of
their own if `indentless` is set. -/
def node (block indentless : Bool) : (fuel : Nat) → Composer Node
  | 0 => fail
  | fuel + 1 => do
    match ← peek with
    | .alias name =>
      next
      aliased name
    | _ =>
      let ⟨anchor, tag⟩ ← properties
      let content ← peek
      openAnchor anchor
      match content with
      | .scalar text plain =>
        next
        closeAnchor anchor (.scalar (scalarTag tag text plain) text)
      | .flowSequenceStart =>
        next
        let items ← inCollection (flowSequence [] fuel)
        closeAnchor anchor (.sequence (collectionTag tag .seq) (.ofList items))
      | .flowMappingStart =>
        next
        let pairs ← inCollection (flowMapping [] fuel)
        closeAnchor anchor (.mapping (collectionTag tag .map) (.ofList pairs))
      | .blockEntry =>
        if indentless then
          let items ← inCollection (indentlessSequence [] fuel)
          closeAnchor anchor (.sequence (collectionTag tag .seq) (.ofList items))
        else emptyWith anchor tag
      | .blockSequenceStart =>
        if block then
          next
          let items ← inCollection (blockSequence [] fuel)
          closeAnchor anchor (.sequence (collectionTag tag .seq) (.ofList items))
        else emptyWith anchor tag
      | .blockMappingStart =>
        if block then
          next
          let pairs ← inCollection (blockMapping [] fuel)
          closeAnchor anchor (.mapping (collectionTag tag .map) (.ofList pairs))
        else emptyWith anchor tag
      | _ => emptyWith anchor tag

/-- An anchor or a tag may stand in front of nothing; without either a node is missing. -/
def emptyWith (anchor tag : Option Text) : Composer Node :=
  if anchor.isNone && tag.isNone then fail
  else
    let kind := if isOpen tag then .null else collectionTag tag .str
    closeAnchor anchor (.scalar kind [])

/-- Reads a node unless one of the given tokens shows that the place is empty. -/
def nodeUnless (ends : List Token) (block indentless : Bool) : (fuel : Nat) → Composer Node
  | 0 => fail
  | fuel + 1 => do
    if ← at? ends then pure emptyNode else node block indentless fuel

/-- Reads the entries of a block sequence. -/
def blockSequence (read : List Node) : (fuel : Nat) → Composer (List Node)
  | 0 => fail
  | fuel + 1 => do
    if ← accept .blockEntry then
      let item ← nodeUnless [.blockEntry, .blockEnd] true false fuel
      blockSequence (read ++ [item]) fuel
    else if ← accept .blockEnd then pure read
    else fail

/-- Reads entries at the indentation of the mapping around them. -/
def indentlessSequence (read : List Node) : (fuel : Nat) → Composer (List Node)
  | 0 => fail
  | fuel + 1 => do
    if ← accept .blockEntry then
      let item ← nodeUnless [.blockEntry, .key, .value, .blockEnd] true false fuel
      indentlessSequence (read ++ [item]) fuel
    else pure read

/-- Reads the entries of a block mapping. -/
def blockMapping (read : List (Node × Node)) : (fuel : Nat) → Composer (List (Node × Node))
  | 0 => fail
  | fuel + 1 => do
    if ← accept .key then
      let key ← nodeUnless [.key, .value, .blockEnd] true true fuel
      let value ←
        if ← accept .value then nodeUnless [.key, .value, .blockEnd] true true fuel
        else pure emptyNode
      blockMapping (read ++ [(key, value)]) fuel
    else if ← accept .blockEnd then pure read
    else fail

/-- Reads the entries of a sequence in brackets. An entry may be a mapping of a single pair. -/
def flowSequence (read : List Node) : (fuel : Nat) → Composer (List Node)
  | 0 => fail
  | fuel + 1 => do
    if ← accept .flowSequenceEnd then return read
    if !read.isEmpty then
      if !(← accept .flowEntry) then fail
    if ← accept .flowSequenceEnd then return read
    let item ←
      if ← accept .key then
        inCollection do
          let key ← nodeUnless [.value, .flowEntry, .flowSequenceEnd] false false fuel
          let value ←
            if ← accept .value then
              nodeUnless [.flowEntry, .flowSequenceEnd] false false fuel
            else pure emptyNode
          pure (Node.mapping .map (.ofList [(key, value)]))
      else node false false fuel
    flowSequence (read ++ [item]) fuel

/-- Reads the entries of a mapping in braces. -/
def flowMapping (read : List (Node × Node)) : (fuel : Nat) → Composer (List (Node × Node))
  | 0 => fail
  | fuel + 1 => do
    if ← accept .flowMappingEnd then return read
    if !read.isEmpty then
      if !(← accept .flowEntry) then fail
    if ← accept .flowMappingEnd then return read
    if ← accept .key then
      let key ← nodeUnless [.value, .flowEntry, .flowMappingEnd] false false fuel
      let value ←
        if ← accept .value then nodeUnless [.flowEntry, .flowMappingEnd] false false fuel
        else pure emptyNode
      flowMapping (read ++ [(key, value)]) fuel
    else
      let key ← node false false fuel
      flowMapping (read ++ [(key, emptyNode)]) fuel

end

/-- The tag handles that need no directive. -/
def usualHandles : List (Text × Text) := [(['!'], ['!']), (['!', '!'], Tag.base)]

/-- Reads directives; each tag handle and the version may be given once. -/
def directives (version : Bool) (handles : List (Text × Text)) :
    (fuel : Nat) → Composer (List (Text × Text))
  | 0 => fail
  | fuel + 1 => do
    match ← peek with
    | .version major =>
      next
      if version || major ≠ 1 then fail else directives true handles fuel
    | .tagBase handle base =>
      next
      if (handles.lookup handle).isSome then fail
      else directives version ((handle, base) :: handles) fuel
    | .reservedDirective =>
      next
      directives version handles fuel
    | _ => pure handles

/-- Skips marks for the end of a document. -/
def skipEnds : (fuel : Nat) → Composer Unit
  | 0 => pure ()
  | fuel + 1 => do
    if ← accept .documentEnd then skipEnds fuel else pure ()

/-- Whether the next token is a directive. -/
def atDirective : Composer Bool := do
  match ← peek with
  | .version _ => pure true
  | .tagBase _ _ => pure true
  | .reservedDirective => pure true
  | _ => pure false

/-- Reads the only document, if there is one. -/
def document : Composer (Option Node) := do
  let fuel := 4 * (← get).tokens.length + 4
  let isDirective ← atDirective
  if (← peek) = .streamEnd then return none
  let root ←
    if isDirective || (← peek) = .documentStart then do
      let handles ← directives false [] fuel
      modify fun state => { state with handles := handles ++ usualHandles }
      if !(← accept .documentStart) then fail
      else if (← atDirective) || (← at? [.documentStart, .documentEnd, .streamEnd]) then
        pure emptyNode
      else node true false fuel
    else node true false fuel
  skipEnds fuel
  if (← peek) = .streamEnd then return some root else fail

end Composer

/-- How deep the stack lets collections nest. -/
def nestingRoom : Nat := 490

/-- The node of a document; an empty one has none. -/
def Node.ofText (text : Text) : Except LoadError (Option Node) := do
  let ⟨tokens, problem⟩ := tokens text
  let (node, _) ←
    Composer.document.run ⟨tokens, problem, [], Composer.usualHandles, nestingRoom⟩
  pure node

end Winnow.Yaml
