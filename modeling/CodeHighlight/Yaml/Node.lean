import CodeHighlight.Yaml.Lexer

/-! # YAML nodes

A document is a tree of scalars, sequences and mappings. A node may carry an anchor, and a reference
stands for the node that carries the anchor.
-/
namespace CodeHighlight.Yaml

/-- The tag is written out in full. The anchor is a number given to its name. -/
structure Properties where
  anchor : Option Nat
  tag : Option Tag
deriving DecidableEq, Repr

inductive Node where
  | scalar (properties : Properties) (style : ScalarStyle) (text : String)
  | sequence (properties : Properties) (items : List Node)
  | mapping (properties : Properties) (entries : List (Node × Node))
  | reference (anchor : Nat)

namespace Node

/-- An absent node. -/
def absent : Node := .scalar ⟨none, none⟩ .plain ""

mutual

/-- The nodes with an anchor, each before the nodes inside it. -/
def anchored (node : Node) : List (Nat × Node) :=
  match node with
  | .scalar properties _ _ => (properties.anchor.map fun anchor => (anchor, node)).toList
  | .sequence properties items =>
    (properties.anchor.map fun anchor => (anchor, node)).toList ++ anchoredItems items
  | .mapping properties entries =>
    (properties.anchor.map fun anchor => (anchor, node)).toList ++ anchoredEntries entries
  | .reference _ => []

def anchoredItems : List Node → List (Nat × Node)
  | [] => []
  | item :: items => anchored item ++ anchoredItems items

def anchoredEntries : List (Node × Node) → List (Nat × Node)
  | [] => []
  | (key, value) :: entries => anchored key ++ anchored value ++ anchoredEntries entries

end

mutual

/-- Scalars and references count once, collections once for each end. -/
def size : Node → Nat
  | .scalar _ _ _ => 1
  | .sequence _ items => 2 + sizeItems items
  | .mapping _ entries => 2 + sizeEntries entries
  | .reference _ => 1

def sizeItems : List Node → Nat
  | [] => 0
  | item :: items => size item + sizeItems items

def sizeEntries : List (Node × Node) → Nat
  | [] => 0
  | (key, value) :: entries => size key + size value + sizeEntries entries

end

end Node

/-! ## From tokens to nodes -/

/-- The tokens to come, the anchor names so far, each with its number, and what tag handles stand
for. A name that is used again takes a new number, which counts the names and not their uses. -/
structure Builder where
  tokens : List Token
  anchors : List (String × Nat)
  handles : List (String × List UInt8)

abbrev Build := StateT Builder Option

namespace Build

def peek : Build Token := do
  let builder ← get
  match builder.tokens with
  | token :: _ => return token
  | [] => failure

def drop : Build Unit := modify fun builder => { builder with tokens := builder.tokens.drop 1 }

def expect (token : Token) : Build Unit := do
  if (← peek) == token then drop else failure

def nameAnchor (name : String) : Build Nat := do
  let builder ← get
  let number := builder.anchors.length
  set { builder with anchors := (name, number) :: builder.anchors.filter (·.1 != name) }
  return number

def findAnchor (name : String) : Build Nat := do
  match (← get).anchors.lookup name with
  | some number => return number
  | none => failure

/-- A tag written out: the handle is replaced by what it stands for. -/
def resolveTag (handle : String) (suffix : List UInt8) : Build Tag := do
  if handle.isEmpty then return .ofParts [] suffix
  else
    match (← get).handles.lookup handle with
    | some stem => return .ofParts stem suffix
    | none => failure

def optionalAnchor : Build (Option String) := do
  match ← peek with
  | .anchor name => do
    drop
    return some name
  | _ => return none

def optionalTag : Build (Option (String × List UInt8)) := do
  match ← peek with
  | .tag handle suffix => do
    drop
    return some (handle, suffix)
  | _ => return none

/-- An anchor and a tag in either order, each at most once. -/
def properties : Build Properties := do
  let name ← optionalAnchor
  let tag ← optionalTag
  let name ← if name.isSome then pure name else optionalAnchor
  let tag ← tag.mapM fun (handle, suffix) => resolveTag handle suffix
  return ⟨← name.mapM nameAnchor, tag⟩

mutual

/-- A node. Blocks are allowed outside brackets only; a sequence may stand at the column of the
mapping around it where `indentless` holds. -/
def node : Nat → (block indentless : Bool) → Build Node
  | 0, _, _ => failure
  | fuel + 1, block, indentless => do
    match ← peek with
    | .reference name => do
      drop
      return .reference (← findAnchor name)
    | _ => do
      let properties ← properties
      match ← peek with
      | .scalar text style => do
        drop
        return .scalar properties style text
      | .flowSequenceStart => do
        drop
        return .sequence properties (← flowItems fuel true)
      | .flowMappingStart => do
        drop
        return .mapping properties (← flowEntries fuel true)
      | .blockEntry => do
        if indentless then return .sequence properties (← indentlessItems fuel)
        else emptyNode properties
      | .blockSequenceStart => do
        if block then
          drop
          return .sequence properties (← blockItems fuel)
        else emptyNode properties
      | .blockMappingStart => do
        if block then
          drop
          return .mapping properties (← blockEntries fuel)
        else emptyNode properties
      | _ => emptyNode properties
where
  /-- Properties alone make an empty scalar. -/
  emptyNode (properties : Properties) : Build Node := do
    if properties.anchor.isSome || properties.tag.isSome then
      return .scalar properties .plain ""
    else failure

/-- A node, or an absent one before a token that ends its place. -/
def nodeUnless : Nat → (block indentless : Bool) → List Token → Build Node
  | 0, _, _, _ => failure
  | fuel + 1, block, indentless, ends => do
    if ends.contains (← peek) then return .absent else node fuel block indentless

def blockItems : Nat → Build (List Node)
  | 0 => failure
  | fuel + 1 => do
    match ← peek with
    | .blockEntry => do
      drop
      let item ← nodeUnless fuel true false [.blockEntry, .blockEnd]
      return item :: (← blockItems fuel)
    | .blockEnd => do
      drop
      return []
    | _ => failure

def indentlessItems : Nat → Build (List Node)
  | 0 => failure
  | fuel + 1 => do
    match ← peek with
    | .blockEntry => do
      drop
      let item ← nodeUnless fuel true false [.blockEntry, .key, .value, .blockEnd]
      return item :: (← indentlessItems fuel)
    | _ => return []

def blockEntries : Nat → Build (List (Node × Node))
  | 0 => failure
  | fuel + 1 => do
    match ← peek with
    | .key => do
      drop
      let key ← nodeUnless fuel true true [.key, .value, .blockEnd]
      let value ← blockValue fuel
      return (key, value) :: (← blockEntries fuel)
    | .blockEnd => do
      drop
      return []
    | _ => failure

def blockValue : Nat → Build Node
  | 0 => failure
  | fuel + 1 => do
    match ← peek with
    | .value => do
      drop
      nodeUnless fuel true true [.key, .value, .blockEnd]
    | _ => return .absent

/-- Items up to the closing bracket. A key inside them makes a mapping of one entry. -/
def flowItems : Nat → (first : Bool) → Build (List Node)
  | 0, _ => failure
  | fuel + 1, first => do
    match ← peek with
    | .flowSequenceEnd => do
      drop
      return []
    | _ => do
      if !first then expect .flowEntry
      match ← peek with
      | .flowSequenceEnd => do
        drop
        return []
      | .key => do
        drop
        let key ← singleKey fuel
        let value ← flowValue fuel [.flowEntry, .flowSequenceEnd]
        return .mapping ⟨none, none⟩ [(key, value)] :: (← flowItems fuel false)
      | _ => do
        let item ← node fuel false false
        return item :: (← flowItems fuel false)

/-- The key of a mapping of one entry. An absent key swallows the token after its mark. -/
def singleKey : Nat → Build Node
  | 0 => failure
  | fuel + 1 => do
    match ← peek with
    | .value => do
      drop
      return .absent
    | .flowEntry => do
      drop
      return .absent
    | .flowSequenceEnd => do
      drop
      return .absent
    | _ => node fuel false false

/-- What follows a colon inside brackets, if there is one. -/
def flowValue : Nat → List Token → Build Node
  | 0, _ => failure
  | fuel + 1, ends => do
    match ← peek with
    | .value => do
      drop
      nodeUnless fuel false false ends
    | _ => return .absent

/-- Entries up to the closing brace. A node without a key mark is a key without a value. -/
def flowEntries : Nat → (first : Bool) → Build (List (Node × Node))
  | 0, _ => failure
  | fuel + 1, first => do
    match ← peek with
    | .flowMappingEnd => do
      drop
      return []
    | _ => do
      if !first then expect .flowEntry
      match ← peek with
      | .flowMappingEnd => do
        drop
        return []
      | .key => do
        drop
        let key ← nodeUnless fuel false false [.value, .flowEntry, .flowMappingEnd]
        let value ← flowValue fuel [.flowEntry, .flowMappingEnd]
        return (key, value) :: (← flowEntries fuel false)
      | _ => do
        let key ← node fuel false false
        return (key, .absent) :: (← flowEntries fuel false)

end

/-! ## Documents -/

/-- The handles that need no directive. -/
def defaultHandles : List (String × List UInt8) :=
  [("!", "!".toUTF8.toList), ("!!", (Tag.core "").bytes)]

/-- Directives before a document: one version at most, each handle once. -/
def directives :
    Nat → (versioned : Bool) → List (String × List UInt8) → Build (List (String × List UInt8))
  | 0, _, _ => failure
  | fuel + 1, versioned, handles => do
    match ← peek with
    | .versionDirective major minor => do
      if versioned || major != 1 || !(minor == 1 || minor == 2) then failure
      drop
      directives fuel true handles
    | .tagDirective handle stem => do
      if (handles.lookup handle).isSome then failure
      drop
      directives fuel versioned (handles ++ [(handle, stem)])
    | _ => return handles

def isDocumentBoundary : Token → Bool
  | .versionDirective _ _ | .tagDirective _ _ | .documentStart | .documentEnd | .streamEnd => true
  | _ => false

/-- A document that directives or a start mark announce. It may be empty. -/
def explicitDocument (fuel : Nat) : Build Node := do
  let handles ← directives fuel false []
  modify fun builder => { builder with handles := handles ++ defaultHandles }
  expect .documentStart
  if isDocumentBoundary (← peek) then return .absent else node fuel true false

def documentEnds : Nat → Build Unit
  | 0 => failure
  | fuel + 1 => do
    if (← peek) == .documentEnd then
      drop
      documentEnds fuel
    else return ()

/-- The one document of a stream, or none if the stream is empty. -/
def stream (fuel : Nat) : Build (Option Node) := do
  let first ← peek
  if first == .streamEnd then return none
  else
    let root ←
      if isDocumentBoundary first && first != .documentEnd then explicitDocument fuel
      else node fuel true false
    documentEnds fuel
    expect .streamEnd
    return some root

end Build

/-- A document together with the nodes that references stand for. -/
structure Document where
  root : Option Node
  anchored : List (Nat × Node)

/-- Of several nodes with one number the last one counts. -/
def Document.find? (document : Document) (anchor : Nat) : Option Node :=
  document.anchored.reverse.lookup anchor

/-- The document in a text, if the text is well-formed and holds no other one. Each step takes a
token or goes to a smaller part of the grammar, so the fuel is never used up. -/
def document? (text : String) : Option Document := do
  let tokens ← tokens? text
  let (root, _) ← (Build.stream (4 * tokens.length + 4)).run ⟨tokens, [], Build.defaultHandles⟩
  return ⟨root, (root.map Node.anchored).getD []⟩

end CodeHighlight.Yaml
