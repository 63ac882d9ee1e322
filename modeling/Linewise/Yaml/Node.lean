import Linewise.Yaml.Tag
import Linewise.Yaml.Token.Lexer

/-! The graph of nodes a document describes. A node is known by its number, so an alias is the number of
the node it stands for, and a node may lie within itself. -/
namespace Linewise.Yaml

inductive Content
  | scalar (text : List Text.Letter)
  | sequence (items : List Nat)
  | mapping (pairs : List (Nat × Nat))
  deriving DecidableEq, Repr

structure Node where
  tag : String
  content : Content
  deriving DecidableEq, Repr

abbrev Graph := Array Node

/-- A graph being built from the tokens that are left. -/
structure Builder where
  tokens : List Token
  fault : Option Fault
  handles : List (String × String)
  anchors : List (String × Nat)
  depth : Nat
  nodes : Graph

abbrev Build := StateT Builder (Except Fault)

namespace Build

def fail : Build α := fun _ => .error malformed

/-- The next token. Where the tokens end in a fault, that is what comes next. -/
def peek : Build Token := fun builder =>
  match builder.tokens with
  | token :: _ => .ok (token, builder)
  | [] => .error (builder.fault.getD malformed)

def drop : Build Unit := modify fun builder => { builder with tokens := builder.tokens.drop 1 }

def sees (tokens : List Token) : Build Bool := do return tokens.contains (← peek)

/-- Takes the token if it comes next. -/
def accept (token : Token) : Build Bool := do
  if (← peek) = token then
    drop
    return true
  else return false

def require (token : Token) : Build Unit := do
  if !(← accept token) then fail

def add (node : Node) : Build Nat := do
  let builder ← get
  set { builder with nodes := builder.nodes.push node }
  return builder.nodes.size

def fill (id : Nat) (content : Content) : Build Unit :=
  modify fun builder =>
    { builder with nodes := builder.nodes.modify id fun node => { node with content } }

/-- A node that is not written stands for null. -/
def empty : Build Nat := add ⟨Tag.null, .scalar []⟩

/-- The tag a shorthand stands for. -/
def fullTag (handle : Option String) (suffix : String) : Build String := do
  match handle with
  | none => return suffix
  | some handle =>
    match (← get).handles.lookup handle with
    | some uri => return uri ++ suffix
    | none => fail

def anchor? : Build (Option String) := do
  match ← peek with
  | .anchor name => drop; return some name
  | _ => return none

def shorthand? : Build (Option (Option String × String)) := do
  match ← peek with
  | .tag handle suffix => drop; return some (handle, suffix)
  | _ => return none

structure Properties where
  anchor : Option String
  tag : Option String

/-- An anchor and a tag, in either order; the tag is looked up when both were seen. -/
def properties : Build Properties := do
  let first ← anchor?
  let shorthand ← shorthand?
  let anchor ← if first.isNone && shorthand.isSome then anchor? else pure first
  match shorthand with
  | none => return ⟨anchor, none⟩
  | some (handle, suffix) => return ⟨anchor, some (← fullTag handle suffix)⟩

/-- Adds a node with its properties. An anchor names one node. -/
def addNamed (properties : Properties) (node : Node) : Build Nat := do
  match properties.anchor with
  | none => add node
  | some name =>
    if ((← get).anchors.lookup name).isSome then fail
    else
      let id ← add node
      modify fun builder => { builder with anchors := (name, id) :: builder.anchors }
      return id

/-- The tag of a collection; `!` leaves it open. -/
def tagOr (properties : Properties) (usual : String) : String :=
  match properties.tag with
  | none | some "!" => usual
  | some tag => tag

/-- The tag a text has of itself. A text with surrogates is only a text. -/
def impliedTag (text : List Text.Letter) : String :=
  match Text.Letter.chars? text with
  | some chars => Tag.ofPlain (String.ofList chars)
  | none => Tag.text

def scalarTag (properties : Properties) (text : List Text.Letter) (plain : Bool) : String :=
  match properties.tag with
  | none => if plain then impliedTag text else Tag.text
  | some "!" => impliedTag text
  | some tag => tag

def aliased (name : String) : Build Nat := do
  match (← get).anchors.lookup name with
  | some id => return id
  | none => fail

/-- Collections may lie so deep within each other. -/
def depthLimit : Nat := 487

def descend : Build Unit := do
  let builder ← get
  if depthLimit ≤ builder.depth then throw tooDeep
  set { builder with depth := builder.depth + 1 }

def ascend : Build Unit := modify fun builder => { builder with depth := builder.depth - 1 }

/-- Adds a collection and then what it holds. -/
def collect (properties : Properties) (tag : String) (start : Content) (held : Build Content) : Build Nat := do
  let id ← addNamed properties ⟨tagOr properties tag, start⟩
  descend
  let content ← held
  ascend
  fill id content
  return id

mutual

/-- One node. Blocks may only start where they are allowed, and entries without indentation only as the
value or key of a block mapping. -/
def node (block indentless : Bool) : (fuel : Nat) → Build Nat
  | 0 => fail
  | fuel + 1 => do
    match ← peek with
    | .alias name =>
      drop
      aliased name
    | _ =>
      let properties ← properties
      let token ← peek
      match token with
      | .scalar text plain =>
        drop
        addNamed properties ⟨scalarTag properties text plain, .scalar text⟩
      | .flowSequenceStart =>
        drop
        collect properties Tag.sequence (.sequence []) (.sequence <$> flowItems true fuel)
      | .flowMappingStart =>
        drop
        collect properties Tag.mapping (.mapping []) (.mapping <$> flowPairs true fuel)
      | _ =>
        if indentless && token = .blockEntry then
          collect properties Tag.sequence (.sequence []) (.sequence <$> indentlessItems fuel)
        else if block && token = .blockSequenceStart then
          drop
          collect properties Tag.sequence (.sequence []) (.sequence <$> blockItems fuel)
        else if block && token = .blockMappingStart then
          drop
          collect properties Tag.mapping (.mapping []) (.mapping <$> blockPairs fuel)
        else if properties.anchor.isSome || properties.tag.isSome then
          addNamed properties ⟨scalarTag properties [] true, .scalar []⟩
        else fail

/-- A node, unless one of these tokens shows that it is not written. -/
def nodeUnless (stops : List Token) (block indentless : Bool) : (fuel : Nat) → Build Nat
  | 0 => fail
  | fuel + 1 => do
    if ← sees stops then empty else node block indentless fuel

def blockItems : (fuel : Nat) → Build (List Nat)
  | 0 => fail
  | fuel + 1 => do
    if ← accept .blockEntry then
      let item ← nodeUnless [.blockEntry, .blockEnd] true false fuel
      return item :: (← blockItems fuel)
    else
      require .blockEnd
      return []

def indentlessItems : (fuel : Nat) → Build (List Nat)
  | 0 => fail
  | fuel + 1 => do
    if ← accept .blockEntry then
      let item ← nodeUnless [.blockEntry, .key, .value, .blockEnd] true false fuel
      return item :: (← indentlessItems fuel)
    else return []

def blockPairs : (fuel : Nat) → Build (List (Nat × Nat))
  | 0 => fail
  | fuel + 1 => do
    if ← accept .key then
      let key ← nodeUnless [.key, .value, .blockEnd] true true fuel
      let value ←
        if ← accept .value then nodeUnless [.key, .value, .blockEnd] true true fuel else empty
      return (key, value) :: (← blockPairs fuel)
    else
      require .blockEnd
      return []

/-- A pair inside brackets is a mapping of its own. -/
def flowPair : (fuel : Nat) → Build Nat
  | 0 => fail
  | fuel + 1 => do
    let id ← add ⟨Tag.mapping, .mapping []⟩
    descend
    let key ← nodeUnless [.value, .flowEntry, .flowSequenceEnd] false false fuel
    let value ←
      if ← accept .value then nodeUnless [.flowEntry, .flowSequenceEnd] false false fuel else empty
    ascend
    fill id (.mapping [(key, value)])
    return id

def flowItems (first : Bool) : (fuel : Nat) → Build (List Nat)
  | 0 => fail
  | fuel + 1 => do
    if ← accept .flowSequenceEnd then return []
    if !first then require .flowEntry
    if ← accept .key then
      let item ← flowPair fuel
      return item :: (← flowItems false fuel)
    else if ← accept .flowSequenceEnd then return []
    else
      let item ← node false false fuel
      return item :: (← flowItems false fuel)

def flowPairs (first : Bool) : (fuel : Nat) → Build (List (Nat × Nat))
  | 0 => fail
  | fuel + 1 => do
    if ← accept .flowMappingEnd then return []
    if !first then require .flowEntry
    if ← accept .key then
      let key ← nodeUnless [.value, .flowEntry, .flowMappingEnd] false false fuel
      let value ←
        if ← accept .value then nodeUnless [.flowEntry, .flowMappingEnd] false false fuel else empty
      return (key, value) :: (← flowPairs false fuel)
    else if ← accept .flowMappingEnd then return []
    else
      let key ← node false false fuel
      let value ← empty
      return (key, value) :: (← flowPairs false fuel)

end

def usualHandles : List (String × String) := [("!", "!"), ("!!", Tag.ofName "")]

/-- Directives: one version of the first major kind, and handles that are not given twice. -/
def directives : (fuel : Nat) → (version : Bool) → (handles : List (String × String)) →
    Build (List (String × String))
  | 0, _, _ => fail
  | fuel + 1, version, handles => do
    match ← peek with
    | .directive (.version major _) =>
      if version || major ≠ 1 then fail
      else
        drop
        directives fuel true handles
    | .directive (.handle handle uri) =>
      if (handles.lookup handle).isSome then fail
      else
        drop
        directives fuel version (handles ++ [(handle, uri)])
    | .directive .other =>
      drop
      directives fuel version handles
    | _ => return handles ++ usualHandles

def dropEnds : (fuel : Nat) → Build Unit
  | 0 => fail
  | fuel + 1 => do
    if ← accept .documentEnd then dropEnds fuel

/-- Anything after the document but its end mark is too much, and directives are read before that shows. -/
def finish (fuel : Nat) : Build Unit := do
  dropEnds fuel
  if !(← accept .streamEnd) then
    let _ ← directives fuel false []
    fail

/-- A document after its start mark. -/
def content (fuel : Nat) : Build Nat := do
  match ← peek with
  | .directive _ | .documentStart | .documentEnd | .streamEnd => empty
  | _ => node true false fuel

/-- The only document of a stream, if there is one. -/
def document (fuel : Nat) : Build (Option Nat) := do
  match ← peek with
  | .streamEnd => return none
  | .directive _ | .documentStart =>
    let handles ← directives fuel false []
    modify fun builder => { builder with handles }
    require .documentStart
    let root ← content fuel
    finish fuel
    return some root
  | _ =>
    let root ← node true false fuel
    finish fuel
    return some root

end Build

/-- The graph of a text and its root. No node takes more steps than there are tokens, a few times over. -/
def Graph.read (text : List Char) : Except Fault (Graph × Option Nat) :=
  if !text.all isAdmitted then .error malformed
  else do
    let scanned := Lexer.scan text
    let fuel := 4 * scanned.tokens.length + 8
    let builder : Builder := ⟨scanned.tokens, scanned.fault, Build.usualHandles, [], 0, #[]⟩
    let (root, builder) ← (Build.document fuel).run builder
    return (builder.nodes, root)

end Linewise.Yaml
