import CodeHighlight.Document.Reading
import CodeHighlight.Yaml.Typing

/-! # Records and styles in YAML

A record and a dictionary are mappings, or an empty plain scalar where there is nothing in them.
Any scalar is a text, whatever its type would be.
-/
namespace CodeHighlight.Yaml

open CodeHighlight.Document

variable (document : Document)

/-- The node that a node stands for. -/
def follow : Node → Decode Node
  | .reference anchor => do
    let budget ← get
    match budget with
    | 0 => failure
    | budget + 1 =>
      set budget
      match document.find? anchor with
      | some node => return node
      | none => failure
  | node => return node

def decodeText (node : Node) : Decode String := do
  match ← follow document node with
  | .scalar _ _ text => return text
  | _ => failure

/-- A plain scalar is absent if it is empty or null; a tag other than the one for null makes it
present. -/
def isAbsent? : Node → Option Bool
  | .scalar properties style text =>
    if style != .plain then some false
    else
      match properties.tag with
      | some tag =>
        if tag == .core "null" then if isNullText text then some true else none
        else some false
      | none => some (text.isEmpty || isNullText text)
  | _ => some false

def decodeOptionalText (node : Node) : Decode (Option String) := do
  let node ← follow document node
  if ← StateT.lift (isAbsent? node) then return none
  else some <$> decodeText document node

/-- A truth value is plain, or a literal block with the tag for truth values. -/
def decodeFlag (node : Node) : Decode Bool := do
  match ← follow document node with
  | .scalar properties style text =>
    if style == .plain || (style == .literal && properties.tag == some (.core "bool")) then
      StateT.lift (truth? text)
    else failure
  | _ => failure

def decodeEntries (node : Node) : Decode (List (Node × Node)) := do
  match ← follow document node with
  | .mapping _ entries => return entries
  | .scalar _ style text => if style == .plain && text.isEmpty then return [] else failure
  | _ => failure

def decodeDictionary (node : Node) : Decode (List (String × Node)) := do
  (← decodeEntries document node).mapM fun (key, value) => return (← decodeText document key, value)

/-- The entries with a known name, each once at most. -/
def knownEntries (names : List String) :
    List (String × Node) → List (String × Node) → Decode (List (String × Node))
  | known, [] => return known
  | known, (name, value) :: rest =>
    if names.contains name then
      if (known.lookup name).isSome then failure
      else knownEntries names (known ++ [(name, value)]) rest
    else knownEntries names known rest

def decodeRecord (names : List String) (node : Node) : Decode (List (String × Node)) := do
  knownEntries names [] (← decodeDictionary document node)

/-- No collection in a style may have a tag of the application's own. -/
def hasOwnTag (properties : Properties) : Bool :=
  properties.tag.elim false Tag.isOwn

/-- The typed form of a node that nests no deeper than `depth`. -/
def typed : Nat → Node → Decode Typed
  | 0, node => do
    match ← follow document node with
    | .scalar properties style text => StateT.lift (typedScalar? properties.tag style text)
    | _ => failure
  | depth + 1, node => do
    match ← follow document node with
    | .scalar properties style text => StateT.lift (typedScalar? properties.tag style text)
    | .sequence properties items => do
      if hasOwnTag properties then failure
      let _ ← items.mapM fun item => typed depth item
      return .other
    | .mapping properties entries => do
      if hasOwnTag properties then failure
      return .mapping (← entries.mapM fun (key, value) => do
        return (← typed depth key, ← typed depth value))
    | .reference _ => failure

/-- How deep a style may nest: two of the 128 levels of a document are used up around it. -/
def styleDepth : Nat := 126

def decodeStyle (node : Node) : Decode Style := do
  StateT.lift (← typed document styleDepth node).style?

def reading : Reading Node where
  text := decodeText document
  optionalText := decodeOptionalText document
  flag := decodeFlag document
  record := decodeRecord document
  dictionary := decodeDictionary document
  style := decodeStyle document

/-- Read a whole document. As many references may be followed as there are hundreds of nodes. -/
def decode? {α : Type} (read : Reading Node → Node → Decode α) (text : String) : Option α := do
  let document ← document? text
  let root := document.root.getD .absent
  let (value, _) ← (read (reading document) root).run (100 * root.size)
  return value

end CodeHighlight.Yaml
