import Groundplan.Yaml.Tag
import Groundplan.Yaml.Token

/-!
# Nodes of a YAML document

A document is a tree of scalars, sequences and mappings, each with a tag. An alias is the node it
names; an alias to a collection that it is itself a part of stays a mark, `Node.enclosing`.

`Node.ofTokens?` reads the one document of a token list. Reading follows the grammar of tokens:
block collections go on until the end that their indentation gave, flow collections until their
closing bracket, and what is left out between two indicators is an empty scalar.
-/

namespace Groundplan.Yaml

/-- A node of a document. -/
inductive Node where
  | scalar (tag : Tag) (value : Text)
  | sequence (tag : Tag) (items : List Node)
  | mapping (tag : Tag) (entries : List (Node × Node))
  | enclosing (isMapping : Bool)

instance : Inhabited Node := ⟨.scalar .null []⟩

/-- A document being read: the tokens to come and the nodes that have a name. -/
structure NodeReader where
  tokens : List Token
  anchors : List (Text × Node) := []

namespace NodeReader

/-- A step of reading a document. -/
abbrev Read := StateT NodeReader (Except Fault)

/-- What directives say about tag handles. -/
abbrev Handles := List (Text × Text)

/-- The next token. -/
def peek : Read Token := do return (← get).tokens.headD .streamEnd

/-- Moves past the next token. -/
def skip : Read Unit := modify fun r => { r with tokens := r.tokens.tail }

/-- Moves past the next token if it is `t`. -/
def skipIf (t : Token) : Read Bool := do
  if (← peek) = t then
    skip
    return true
  else return false

/-- Gives a node a name. -/
def nameNode (anchor : Option Text) (node : Node) : Read Unit :=
  match anchor with
  | some name => modify fun r => { r with anchors := (name, node) :: r.anchors }
  | none => pure ()

/-- The anchor and the tag before a node, in any order. -/
def properties : Read (Option Text × Option TagText) := do
  match ← peek with
  | .anchor name =>
    skip
    match ← peek with
    | .tag t =>
      skip
      return (some name, some t)
    | _ => return (some name, none)
  | .tag t =>
    skip
    match ← peek with
    | .anchor name =>
      skip
      return (some name, some t)
    | _ => return (none, some t)
  | _ => return (none, none)

/-- The tag that a node writes; `none` if it leaves the kind open. -/
def resolveTag (handles : Handles) : Option TagText → Except Fault (Option Tag)
  | none => .ok none
  | some ⟨none, suffix⟩ => .ok (if suffix == (['!'] : Text) then none else some (Tag.ofUri suffix))
  | some ⟨some handle, suffix⟩ =>
    match handles.lookup handle with
    | some start =>
      let uri := start ++ suffix
      .ok (if uri == (['!'] : Text) then none else some (Tag.ofUri uri))
    | none => .error .undefinedTagHandle

/-- A scalar that is left out. -/
def emptyScalar : Node := .scalar .null []

/-- The end of an entry of a block mapping. -/
def endsBlockEntry (t : Token) : Bool := t = .key || t = .value || t = .blockEnd

/-- The end of an entry of a flow collection that closes with `close`. -/
def endsFlowEntry (close t : Token) : Bool := t = .flowEntry || t = close

mutual

/-- A node. `inBlock` says that block collections may start here, `dashes` that a sequence may
start without being indented. -/
def node (handles : Handles) : (fuel : Nat) → (inBlock dashes : Bool) → Read Node
  | 0, _, _ => throw .unexpectedToken
  | fuel + 1, inBlock, dashes => do
    if let .alias name ← peek then
      skip
      match (← get).anchors.lookup name with
      | some node => return node
      | none => throw .undefinedAlias
    let (anchor, written) ← properties
    let tag ← resolveTag handles written
    if let some name := anchor then
      if ((← get).anchors.lookup name).isSome then throw .duplicateAnchor
    let node ← content handles fuel inBlock dashes anchor written tag
    nameNode anchor node
    return node

/-- A node after its anchor and tag. -/
def content (handles : Handles) : (fuel : Nat) → (inBlock dashes : Bool) →
    (anchor : Option Text) → (written : Option TagText) → (tag : Option Tag) → Read Node
  | 0, _, _, _, _, _ => throw .unexpectedToken
  | fuel + 1, inBlock, dashes, anchor, written, tag => do
    match ← peek with
    | .scalar value isPlain =>
      skip
      let implicit := if isPlain || written.isSome then Tag.ofPlain value else .str
      return .scalar (tag.getD implicit) value
    | .flowSequenceStart =>
      skip
      nameNode anchor (.enclosing false)
      return .sequence (tag.getD .seq) (← flowItems handles fuel true)
    | .flowMappingStart =>
      skip
      nameNode anchor (.enclosing true)
      return .mapping (tag.getD .map) (← flowEntries handles fuel true)
    | .blockEntry =>
      if dashes then
        nameNode anchor (.enclosing false)
        return .sequence (tag.getD .seq) (← dashItems handles fuel)
      else omitted anchor written tag
    | .blockSequenceStart =>
      if inBlock then
        skip
        nameNode anchor (.enclosing false)
        return .sequence (tag.getD .seq) (← blockItems handles fuel)
      else omitted anchor written tag
    | .blockMappingStart =>
      if inBlock then
        skip
        nameNode anchor (.enclosing true)
        return .mapping (tag.getD .map) (← blockEntries handles fuel)
      else omitted anchor written tag
    | _ => omitted anchor written tag

/-- The empty scalar that an anchor or a tag alone stands for. -/
def omitted (anchor : Option Text) (written : Option TagText) (tag : Option Tag) : Read Node :=
  if anchor.isSome || written.isSome then return .scalar (tag.getD .null) []
  else throw .unexpectedToken

/-- The items of a block sequence up to its end. -/
def blockItems (handles : Handles) : (fuel : Nat) → Read (List Node)
  | 0 => throw .unexpectedToken
  | fuel + 1 => do
    if ← skipIf .blockEntry then
      let next ← peek
      let item ←
        if next = .blockEntry || next = .blockEnd then pure emptyScalar
        else node handles fuel true false
      return item :: (← blockItems handles fuel)
    else if ← skipIf .blockEnd then return []
    else throw .unexpectedToken

/-- The items of a sequence that is not indented. -/
def dashItems (handles : Handles) : (fuel : Nat) → Read (List Node)
  | 0 => throw .unexpectedToken
  | fuel + 1 => do
    if ← skipIf .blockEntry then
      let next ← peek
      let item ←
        if next = .blockEntry || endsBlockEntry next then pure emptyScalar
        else node handles fuel true false
      return item :: (← dashItems handles fuel)
    else return []

/-- The key or the value of an entry of a block mapping, after its indicator. -/
def blockPart (handles : Handles) : (fuel : Nat) → Read Node
  | 0 => throw .unexpectedToken
  | fuel + 1 => do
    if endsBlockEntry (← peek) then return emptyScalar else node handles fuel true true

/-- The entries of a block mapping up to its end. -/
def blockEntries (handles : Handles) : (fuel : Nat) → Read (List (Node × Node))
  | 0 => throw .unexpectedToken
  | fuel + 1 => do
    if ← skipIf .blockEnd then return []
    if !(← skipIf .key) then throw .unexpectedToken
    let key ← blockPart handles fuel
    let value ← if ← skipIf .value then blockPart handles fuel else pure emptyScalar
    return (key, value) :: (← blockEntries handles fuel)

/-- The key or the value of an entry of a flow collection that closes with `close`, after its
indicator. -/
def flowPart (handles : Handles) (close : Token) : (fuel : Nat) → (isKey : Bool) → Read Node
  | 0, _ => throw .unexpectedToken
  | fuel + 1, isKey => do
    let next ← peek
    if endsFlowEntry close next || (isKey && next = .value) then return emptyScalar
    else node handles fuel false false

/-- The value of an entry of a flow collection, which may be left out. -/
def flowValue (handles : Handles) (close : Token) : (fuel : Nat) → Read Node
  | 0 => throw .unexpectedToken
  | fuel + 1 => do
    if ← skipIf .value then flowPart handles close fuel false else pure emptyScalar

/-- The items of a flow sequence up to its bracket. A key makes an item a mapping of one entry. -/
def flowItems (handles : Handles) : (fuel : Nat) → (first : Bool) → Read (List Node)
  | 0, _ => throw .unexpectedToken
  | fuel + 1, first => do
    if ← skipIf .flowSequenceEnd then return []
    if !first then
      if !(← skipIf .flowEntry) then throw .unexpectedToken
      if ← skipIf .flowSequenceEnd then return []
    let item ←
      if ← skipIf .key then do
        let key ← flowPart handles .flowSequenceEnd fuel true
        let value ← flowValue handles .flowSequenceEnd fuel
        pure (.mapping .map [(key, value)])
      else node handles fuel false false
    return item :: (← flowItems handles fuel false)

/-- The entries of a flow mapping up to its brace. An entry without a key indicator has no
value. -/
def flowEntries (handles : Handles) : (fuel : Nat) → (first : Bool) → Read (List (Node × Node))
  | 0, _ => throw .unexpectedToken
  | fuel + 1, first => do
    if ← skipIf .flowMappingEnd then return []
    if !first then
      if !(← skipIf .flowEntry) then throw .unexpectedToken
      if ← skipIf .flowMappingEnd then return []
    let entry ←
      if ← skipIf .key then do
        let key ← flowPart handles .flowMappingEnd fuel true
        let value ← flowValue handles .flowMappingEnd fuel
        pure (key, value)
      else do
        let key ← node handles fuel false false
        pure (key, emptyScalar)
    return entry :: (← flowEntries handles fuel false)

end

/-! ## Documents -/

/-- The handles that need no directive. -/
def defaultHandles : Handles := [(['!'], ['!']), (['!', '!'], Tag.common)]

/-- The directives before a document: the handles they define. -/
def directives : List Directive → (version : Bool) → Handles → Except Fault Handles
  | [], _, handles => .ok (handles ++ defaultHandles)
  | .version major _ :: rest, version, handles =>
    if version || major != 1 then .error .badDirective else directives rest true handles
  | .tag handle start :: rest, version, handles =>
    if (handles.lookup handle).isSome then .error .badDirective
    else directives rest version ((handle, start) :: handles)
  | .other :: rest, version, handles => directives rest version handles

/-- The directives that the tokens start with. -/
def leadingDirectives : List Token → List Directive
  | .directive d :: rest => d :: leadingDirectives rest
  | _ => []

/-- The node of a document, which may be left out after a document start. -/
def documentNode (handles : Handles) (fuel : Nat) (isExplicit : Bool) : Read Node := do
  let next ← peek
  let isEmpty := match next with
    | .directive _ | .documentStart | .documentEnd | .streamEnd => true
    | _ => false
  if isExplicit && isEmpty then return emptyScalar else node handles fuel true false

/-- The document of a stream; `none` for a stream without documents. -/
def document (fuel : Nat) : Read (Option Node) := do
  let tokens := (← get).tokens
  let found := leadingDirectives tokens
  if !found.isEmpty || tokens.head? = some .documentStart then
    let handles ← directives found false []
    set ({ tokens := tokens.drop found.length } : NodeReader)
    if ← skipIf .documentStart then return some (← documentNode handles fuel true)
    else throw .unexpectedToken
  else if tokens.head? = some .streamEnd then return none
  else return some (← documentNode defaultHandles fuel false)

end NodeReader

/-- The root of the only document of a stream; `none` for a stream without documents. -/
def Node.ofTokens? (tokens : List Token) : Except Fault (Option Node) := do
  let (root, rest) ← (NodeReader.document (4 * tokens.length + 8)).run { tokens }
  match root with
  | none => return none
  | some root =>
    match rest.tokens.dropWhile (· = .documentEnd) with
    | [.streamEnd] => return some root
    | _ => throw .secondDocument

end Groundplan.Yaml
