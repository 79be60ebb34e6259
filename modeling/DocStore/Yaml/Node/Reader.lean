import DocStore.Yaml.Node
import DocStore.Yaml.Token.Reader

/-!
# Reading nodes

A text holds one document. Its tokens are read by the grammar of block and flow collections;
aliases are replaced by the nodes that they name.
-/

namespace DocStore.Yaml

structure Reading where
  tokens : List Token
  anchors : List (String × Node) := []

private abbrev Step (α : Type) := StateT Reading Option α

private def next? : Step (Option Token) := return (← get).tokens.head?

private def skip : Step Unit := modify fun r => { r with tokens := r.tokens.tail }

private def isNext (p : Token → Bool) : Step Bool := return (← next?).any p

private def take (token : Token) : Step Bool := do
  if ← isNext (· == token) then
    skip
    return true
  else return false

private def demand (token : Token) : Step Unit := do
  if !(← take token) then failure

/-! ### Tags and anchors -/

abbrev Shorthands := List (String × String)

private def expandTag (shorthands : Shorthands) (handle suffix : String) : Step String :=
  if handle.isEmpty then return suffix
  else
    match shorthands.lookup handle with
    | some expansion => return expansion ++ suffix
    | none => failure

private def anchor? : Step (Option String) := do
  match ← next? with
  | some (.anchor name) =>
    skip
    return some name
  | _ => return none

private def tagged? (shorthands : Shorthands) : Step (Option String) := do
  match ← next? with
  | some (.tag handle suffix) =>
    skip
    return some (← expandTag shorthands handle suffix)
  | _ => return none

private def properties (shorthands : Shorthands) : Step (Option String × Option String) := do
  match ← anchor? with
  | some name => return (some name, ← tagged? shorthands)
  | none =>
    let tag ← tagged? shorthands
    return (← anchor?, tag)

private def bindAnchor (name : Option String) (node : Node) : Step Unit :=
  match name with
  | some name => modify fun r => { r with anchors := (name, node) :: r.anchors }
  | none => return ()

/-! ### Collections

Each reader of a collection is given the reader of the nodes inside. The fuel is the number of
tokens ahead. -/

private def orAbsent (here : Bool) (node : Step Node) : Step Node :=
  if here then node else return .absent

private def endsEntry : Token → Bool
  | .entry | .blockEnd => true
  | _ => false

private def endsPart : Token → Bool
  | .key | .value | .blockEnd => true
  | _ => false

private def endsItem : Token → Bool
  | .entry | .key | .value | .blockEnd => true
  | _ => false

private def blockItems (node : Step Node) : Nat → Step (List Node)
  | 0 => failure
  | fuel + 1 => do
    if ← take .entry then
      let item ← orAbsent (!(← isNext endsEntry)) node
      return item :: (← blockItems node fuel)
    else
      demand .blockEnd
      return []

/-- The items of a sequence that is not indented further than the mapping around it. -/
private def flushItems (node : Step Node) : Nat → Step (List Node)
  | 0 => failure
  | fuel + 1 => do
    if ← take .entry then
      let item ← orAbsent (!(← isNext endsItem)) node
      return item :: (← flushItems node fuel)
    else return []

private def blockEntries (node : Step Node) : Nat → Step (List (Node × Node))
  | 0 => failure
  | fuel + 1 => do
    if ← take .blockEnd then return []
    else
      demand .key
      let key ← orAbsent (!(← isNext endsPart)) node
      let value ←
        if ← take .value then orAbsent (!(← isNext endsPart)) node else pure .absent
      return (key, value) :: (← blockEntries node fuel)

private def endsFlowItem : Token → Bool
  | .flowEntry | .flowSequenceEnd => true
  | _ => false

private def endsFlowPart : Token → Bool
  | .flowEntry | .flowMappingEnd => true
  | _ => false

/-- A mapping of one entry, written as an item of a flow sequence, after its key mark. -/
private def flowPair (node : Step Node) : Step Node := do
  if ← isNext (fun t => t == .value || endsFlowItem t) then
    -- a missing key takes the mark after it along
    skip
    let value ← valueOf
    return .mapping none [(.absent, value)]
  else
    let key ← node
    let value ← valueOf
    return .mapping none [(key, value)]
where
  valueOf : Step Node := do
    if ← take .value then orAbsent (!(← isNext endsFlowItem)) node else return .absent

private def flowItems (node : Step Node) : Nat → Bool → Step (List Node)
  | 0, _ => failure
  | fuel + 1, isFirst => do
    if ← take .flowSequenceEnd then return []
    else
      if !isFirst then demand .flowEntry
      if ← take .flowSequenceEnd then return []
      else
        let item ← if ← take .key then flowPair node else node
        return item :: (← flowItems node fuel false)

private def flowEntries (node : Step Node) : Nat → Bool → Step (List (Node × Node))
  | 0, _ => failure
  | fuel + 1, isFirst => do
    if ← take .flowMappingEnd then return []
    else
      if !isFirst then demand .flowEntry
      if ← take .flowMappingEnd then return []
      else if ← take .key then
        let key ← orAbsent (!(← isNext fun t => t == .value || endsFlowPart t)) node
        let value ←
          if ← take .value then orAbsent (!(← isNext endsFlowPart)) node else pure .absent
        return (key, value) :: (← flowEntries node fuel false)
      else
        let key ← node
        return (key, .absent) :: (← flowEntries node fuel false)

/-! ### Nodes -/

private inductive Place where
  | block
  /-- In a block mapping, where a sequence need not be indented. -/
  | blockPart
  | flow
deriving DecidableEq

private def content? (node : Place → Step Node) (fuel : Nat) (place : Place)
    (tag : Option String) : Step (Option Node) := do
  match ← next? with
  | some .entry =>
    if place == .blockPart then
      return some (.sequence tag (← flushItems (node .block) fuel))
    else return none
  | some (.scalar style text) =>
    skip
    -- the lone mark as a tag leaves a scalar as it is
    return some (.scalar (if tag == some "!" then none else tag) style text)
  | some .flowSequenceStart =>
    skip
    return some (.sequence tag (← flowItems (node .flow) fuel true))
  | some .flowMappingStart =>
    skip
    return some (.mapping tag (← flowEntries (node .flow) fuel true))
  | some .sequenceStart =>
    if place == .flow then return none
    else
      skip
      return some (.sequence tag (← blockItems (node .block) fuel))
  | some .mappingStart =>
    if place == .flow then return none
    else
      skip
      return some (.mapping tag (← blockEntries (node .blockPart) fuel))
  | _ => return none

/-- Reads a node. Every collection inside takes at least a token, so the fuel bounds the depth. -/
private def readNode (shorthands : Shorthands) : Nat → Place → Step Node
  | 0, _ => failure
  | fuel + 1, place => do
    match ← next? with
    | some (.alias name) =>
      skip
      match (← get).anchors.lookup name with
      | some node => return node
      | none => failure
    | _ =>
      let (name, tag) ← properties shorthands
      -- until it is complete, a node cannot be followed from inside
      bindAnchor name .unreachable
      match ← content? (readNode shorthands fuel) fuel place tag with
      | some node =>
        bindAnchor name node
        return node
      | none =>
        if name.isNone && tag.isNone then failure
        else
          let node := Node.scalar tag .plain ""
          bindAnchor name node
          return node

/-! ### Documents -/

private structure Directives where
  version : Bool := false
  shorthands : Shorthands := []

private def readDirectives : Nat → Directives → Step Directives
  | 0, _ => failure
  | fuel + 1, directives => do
    match ← next? with
    | some (.version major minor) =>
      if directives.version || major != 1 || (minor != 1 && minor != 2) then failure
      else
        skip
        readDirectives fuel { directives with version := true }
    | some (.tagShorthand handle expansion) =>
      if (directives.shorthands.lookup handle).isSome then failure
      else
        skip
        readDirectives fuel
          { directives with shorthands := (handle, expansion) :: directives.shorthands }
    | _ => return directives

private def commonShorthands : Shorthands := [("!", "!"), ("!!", "tag:yaml.org,2002:")]

private def endsDocument : Token → Bool
  | .version .. | .tagShorthand .. | .documentStart | .documentEnd => true
  | _ => false

private def isDirective : Token → Bool
  | .version .. | .tagShorthand .. => true
  | _ => false

private def skipEnds : Nat → Step Unit
  | 0 => return ()
  | fuel + 1 => do if ← take .documentEnd then skipEnds fuel

private def readDocument (fuel : Nat) : Step Node := do
  if (← next?).isNone then return .absent
  let hasDirectives ← isNext isDirective
  let directives ← readDirectives fuel {}
  let shorthands := directives.shorthands ++ commonShorthands
  let node ←
    if ← take .documentStart then
      if (← next?).isNone || (← isNext endsDocument) then pure .absent
      else readNode shorthands fuel .block
    else if hasDirectives then failure
    else readNode shorthands fuel .block
  skipEnds fuel
  if (← next?).isSome then failure
  return node

/-- Collections that are nested deeper cannot be followed. -/
def nestingLimit : Nat := 128

def Node.ofText? (text : String) : Option Node := do
  let tokens ← Token.ofText? text
  let (node, _) ← (readDocument (tokens.length + 1)).run { tokens }
  some (node.upTo nestingLimit)

end DocStore.Yaml
