import TokenInventory.Yaml.Token

/-!
# Trees of YAML

The tree that a YAML text describes. A text holds one document at most. An alias stands for the node
that was last given its name; if that node is still being read, it contains its own alias and has no
finite tree, so the alias becomes `Node.enclosing`.

Reading follows the tokens. The functions take fuel, of which each call takes one unit; a node needs
at most two calls for each of its tokens, so three units for each token are enough.
-/

namespace TokenInventory.Yaml

/-- A node of a YAML text. -/
inductive Node
  | scalar (presentation : Presentation) (tag : Option (List Char)) (text : String)
  | sequence (items : List Node)
  | mapping (entries : List (Node × Node))
  /-- A node that contains this one. -/
  | enclosing

namespace Node

/-- The node that stands where nothing is written. -/
def absent : Node :=
  .scalar .plain none ""

/-- Whether a node could be a collection without items. -/
def isBlank : Node → Bool
  | .scalar .plain _ text => text.isEmpty
  | _ => false

end Node

/-- The tokens still to be read and the names known so far. -/
structure TreeReader where
  tokens : List Token
  /-- The nodes that have names, the latest first. -/
  anchors : List (List Char × Node) := []
  /-- What the handles of tags stand for. -/
  handles : List (List Char × List Char) := []

namespace TreeReader

/-- The reader behind the next token. -/
def skip (r : TreeReader) : TreeReader :=
  { r with tokens := r.tokens.tail }

/-- Whether the next token satisfies `p`. -/
def isNext (p : Token → Bool) (r : TreeReader) : Bool :=
  r.tokens.head?.any p

/-- The node that was last given a name. -/
def named? (r : TreeReader) (name : List Char) : Option Node :=
  r.anchors.lookup name

/-- The tag that a written tag stands for. -/
def tag? (r : TreeReader) (t : WrittenTag) : Option (List Char) :=
  if t.handle = [] then some t.suffix else (r.handles.lookup t.handle).map (· ++ t.suffix)

/-- Reads the name and the tag of a node, in either order. -/
def readMarks (r : TreeReader) :
    Option (Option (List Char) × Option (List Char) × TreeReader) :=
  match r.tokens with
  | .anchor name :: .tag t :: tokens
  | .tag t :: .anchor name :: tokens => do
    let tag ← r.tag? t
    return (some name, some tag, { r with tokens })
  | .anchor name :: tokens => some (some name, none, { r with tokens })
  | .tag t :: tokens => do
    let tag ← r.tag? t
    return (none, some tag, { r with tokens })
  | _ => some (none, none, r)

/-- Gives a name to a node that is about to be read. -/
def openName (name : Option (List Char)) (r : TreeReader) : TreeReader :=
  match name with
  | none => r
  | some name => { r with anchors := (name, .enclosing) :: r.anchors }

/-- Gives its node to the name that was opened when `count` names were known. -/
def settleName (name : Option (List Char)) (count : Nat) (node : Node) (r : TreeReader) :
    TreeReader :=
  match name with
  | none => r
  | some name => { r with anchors := r.anchors.set (r.anchors.length - 1 - count) (name, node) }

end TreeReader

/-! ## Tokens before which a part may be missing -/

/-- The tokens before which an item of a sequence may be missing. -/
def Token.endsItem : Token → Bool
  | .blockEntry | .blockEnd => true
  | _ => false

/-- The tokens before which a key or a value of a mapping may be missing. -/
def Token.endsPart : Token → Bool
  | .key | .value | .blockEnd => true
  | _ => false

/-- The tokens before which an item may be missing in a sequence that is not indented. -/
def Token.endsUnindentedItem (t : Token) : Bool :=
  t.endsItem || t.endsPart

/-- The tokens before which a value may be missing between marks. -/
def Token.endsFlowValue : Token → Bool
  | .flowEntry | .flowSequenceEnd | .flowMappingEnd => true
  | _ => false

/-- The tokens before which a key may be missing between marks. -/
def Token.endsFlowKey : Token → Bool
  | .value => true
  | t => t.endsFlowValue

/-- Whether a token marks the value of a key. -/
def Token.isValue : Token → Bool
  | .value => true
  | _ => false

/-! ## Nodes -/

mutual

/-- Reads a node. In a mapping the dashes of a sequence need not be indented. -/
def readNode (inMapping : Bool) : Nat → TreeReader → Option (Node × TreeReader)
  | 0, _ => none
  | fuel + 1, r =>
    match r.tokens with
    | .alias name :: tokens => (r.named? name).map (·, { r with tokens })
    | _ => do
      let (name, tag, marked) ← r.readMarks
      let (node, r) ← readContent inMapping name tag fuel (marked.openName name)
      return (node, r.settleName name marked.anchors.length node)

/-- Reads a node behind its name and its tag. If it has one, there need not be anything more. -/
def readContent (inMapping : Bool) (name tag : Option (List Char)) :
    Nat → TreeReader → Option (Node × TreeReader)
  | 0, _ => none
  | fuel + 1, r =>
    match r.tokens with
    | .scalar presentation text :: tokens =>
      some (.scalar presentation tag (String.ofList text), { r with tokens })
    | .flowSequenceStart :: tokens => do
      let (items, r) ← readFlowItems true fuel { r with tokens }
      return (.sequence items, r)
    | .flowMappingStart :: tokens => do
      let (entries, r) ← readFlowEntries true fuel { r with tokens }
      return (.mapping entries, r)
    | .blockSequenceStart :: tokens => do
      let (items, r) ← readItems fuel { r with tokens }
      return (.sequence items, r)
    | .blockMappingStart :: tokens => do
      let (entries, r) ← readEntries fuel { r with tokens }
      return (.mapping entries, r)
    | tokens =>
      if inMapping && r.isNext (fun t => t matches .blockEntry) then do
        let (items, r) ← readUnindentedItems fuel { r with tokens }
        return (.sequence items, r)
      else if name.isSome || tag.isSome then some (.scalar .plain tag "", r)
      else none

/-- Reads a node unless it is missing, as the next token shows. -/
def readUnlessMissing (isMissing : Token → Bool) (inMapping : Bool) :
    Nat → TreeReader → Option (Node × TreeReader)
  | 0, _ => none
  | fuel + 1, r => if r.isNext isMissing then some (.absent, r) else readNode inMapping fuel r

/-- Reads the items of an indented sequence and its end. -/
def readItems : Nat → TreeReader → Option (List Node × TreeReader)
  | 0, _ => none
  | fuel + 1, r =>
    match r.tokens with
    | .blockEntry :: tokens => do
      let (item, r) ← readUnlessMissing Token.endsItem false fuel { r with tokens }
      let (items, r) ← readItems fuel r
      return (item :: items, r)
    | .blockEnd :: tokens => some ([], { r with tokens })
    | _ => none

/-- Reads the items of a sequence that is not indented; it has no end of its own. -/
def readUnindentedItems : Nat → TreeReader → Option (List Node × TreeReader)
  | 0, _ => none
  | fuel + 1, r =>
    match r.tokens with
    | .blockEntry :: tokens => do
      let (item, r) ← readUnlessMissing Token.endsUnindentedItem false fuel { r with tokens }
      let (items, r) ← readUnindentedItems fuel r
      return (item :: items, r)
    | _ => some ([], r)

/-- Reads the entries of an indented mapping and its end. -/
def readEntries : Nat → TreeReader → Option (List (Node × Node) × TreeReader)
  | 0, _ => none
  | fuel + 1, r =>
    match r.tokens with
    | .key :: tokens => do
      let (key, r) ← readUnlessMissing Token.endsPart true fuel { r with tokens }
      let (value, r) ←
        if r.isNext Token.isValue then readUnlessMissing Token.endsPart true fuel r.skip
        else some (.absent, r)
      let (entries, r) ← readEntries fuel r
      return ((key, value) :: entries, r)
    | .blockEnd :: tokens => some ([], { r with tokens })
    | _ => none

/-- Reads the items of a sequence between marks and its end. An item with a key is a mapping. -/
def readFlowItems (isFirst : Bool) : Nat → TreeReader → Option (List Node × TreeReader)
  | 0, _ => none
  | fuel + 1, r =>
    match isFirst, r.tokens with
    | _, .flowSequenceEnd :: tokens
    | false, .flowEntry :: .flowSequenceEnd :: tokens => some ([], { r with tokens })
    | true, .key :: tokens
    | false, .flowEntry :: .key :: tokens => do
      let r := { r with tokens }
      let (key, r) ←
        if r.isNext Token.endsFlowKey then some (.absent, r.skip) else readNode false fuel r
      let (value, r) ← readFlowValue fuel r
      let (items, r) ← readFlowItems false fuel r
      return (.mapping [(key, value)] :: items, r)
    | true, tokens
    | false, .flowEntry :: tokens => do
      let (item, r) ← readNode false fuel { r with tokens }
      let (items, r) ← readFlowItems false fuel r
      return (item :: items, r)
    | _, _ => none

/-- Reads the entries of a mapping between marks and its end. An item without a key mark is a key
without a value. -/
def readFlowEntries (isFirst : Bool) : Nat → TreeReader → Option (List (Node × Node) × TreeReader)
  | 0, _ => none
  | fuel + 1, r =>
    match isFirst, r.tokens with
    | _, .flowMappingEnd :: tokens
    | false, .flowEntry :: .flowMappingEnd :: tokens => some ([], { r with tokens })
    | true, .key :: tokens
    | false, .flowEntry :: .key :: tokens => do
      let (key, r) ← readUnlessMissing Token.endsFlowKey false fuel { r with tokens }
      let (value, r) ← readFlowValue fuel r
      let (entries, r) ← readFlowEntries false fuel r
      return ((key, value) :: entries, r)
    | true, tokens
    | false, .flowEntry :: tokens => do
      let (key, r) ← readNode false fuel { r with tokens }
      let (entries, r) ← readFlowEntries false fuel r
      return ((key, .absent) :: entries, r)
    | _, _ => none

/-- Reads the value of a key between marks, if it has one. -/
def readFlowValue : Nat → TreeReader → Option (Node × TreeReader)
  | 0, _ => none
  | fuel + 1, r =>
    if r.isNext Token.isValue then readUnlessMissing Token.endsFlowValue false fuel r.skip
    else some (.absent, r)

end

/-! ## Documents -/

/-- Reads the directives of a document. There may be one for the version, which has to be 1.1 or
1.2, and one for each handle. -/
def readDirectives (hasVersion : Bool) (handles : List (List Char × List Char)) :
    List Token → Option (List (List Char × List Char) × List Token)
  | .directive (.version major minor) :: tokens =>
    if !hasVersion && major = 1 && (minor = 1 || minor = 2) then readDirectives true handles tokens
    else none
  | .directive (.tag handle meaning) :: tokens =>
    if (handles.lookup handle).isSome then none
    else readDirectives hasVersion ((handle, meaning) :: handles) tokens
  | tokens => some (handles, tokens)

/-- The handles that every document has. -/
def standardHandles : List (List Char × List Char) :=
  [(['!'], ['!']), (['!', '!'], "tag:yaml.org,2002:".toList)]

/-- Whether a token stands outside of documents. -/
def Token.isOutside : Token → Bool
  | .directive _ | .documentStart | .documentEnd => true
  | _ => false

/-- Whether a document follows that is begun by directives or a mark. -/
def Token.beginsDocument : Token → Bool
  | .directive _ | .documentStart => true
  | _ => false

/-- Whether there is nothing but ends of documents. -/
def isOver (tokens : List Token) : Bool :=
  tokens.all fun t => t matches .documentEnd

/-- Reads the node of a document that has been begun. -/
def readRoot (handles : List (List Char × List Char)) (tokens : List Token) : Option Node := do
  let reader : TreeReader := { tokens, handles := handles ++ standardHandles }
  let (node, rest) ← readNode false (3 * tokens.length + 3) reader
  if isOver rest.tokens then return node else none

/-- The tree of a text; of an empty text it is the absent node. -/
def tree? (s : List Char) : Option Node := do
  let tokens ← tokens? s
  match tokens with
  | [] => return .absent
  | first :: _ =>
    if first.beginsDocument then
      let (handles, tokens) ← readDirectives false [] tokens
      match tokens with
      | .documentStart :: tokens =>
        if tokens.head?.all Token.isOutside then
          if isOver tokens then return .absent else none
        else readRoot handles tokens
      | _ => none
    else readRoot [] tokens

end TokenInventory.Yaml
