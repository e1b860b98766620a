import GrantConfig.Yaml.Node
import GrantConfig.Yaml.Scan

/-!
# Reading YAML

Tokens as documents. Anchors name nodes within one document, and an alias is the node that its
anchor named last; inside that node itself it is bad. Handles of tags are declared in front of a
document, where only the last directive counts.
-/

namespace GrantConfig.Yaml

/-- What is known while nodes are read: the tokens to come, the anchors by name and by number,
and the declared handles. -/
structure Reading where
  tokens : List Token
  names : List (String × Nat)
  nodes : List (Nat × Node)
  fresh : Nat
  handles : List (String × String)

/-- A step of reading, which may fail. -/
abbrev ReadM := StateT Reading Option

namespace ReadM

/-- The token to come. -/
def peek : ReadM (Option Token) := return (← get).tokens.head?

/-- Pass a token. -/
def skip : ReadM Unit := modify fun r => { r with tokens := r.tokens.drop 1 }

/-- Whether the token to come is one of those given. -/
def isAt (ts : List Token) : ReadM Bool := return (← peek).any ts.contains

/-- Give a name to the node to come. -/
def register (name : String) : ReadM Nat := do
  let r ← get
  set { r with names := (name, r.fresh) :: r.names, fresh := r.fresh + 1 }
  return r.fresh

/-- The node that a name stands for. -/
def resolve (name : String) : ReadM Node := do
  let r ← get
  let id ← (r.names.lookup name : Option Nat)
  return (r.nodes.lookup id).getD .bad

/-- Keep a node that has a number. -/
def keep (id : Option Nat) (node : Node) : ReadM Node := do
  match id with
  | some id => modify fun r => { r with nodes := (id, node) :: r.nodes }
  | none => pure ()
  return node

/-- The handle of the core tags. -/
def coreHandle : String := "tag:yaml.org,2002:"

/-- The meaning of a tag's handle, and its suffix. Only handles between two marks have to be
declared. -/
def meaning (t : Tag) : ReadM (String × String) := do
  match (← get).handles.lookup t.handle with
  | some declared => return (declared, t.suffix)
  | none =>
    if t.handle = "!!" then return (coreHandle, t.suffix)
    else if 2 ≤ t.handle.length then failure
    else return (t.handle, t.suffix)

/-- The number and the tag of the node to come. -/
def properties : ReadM (Option Nat × Option (String × String)) := do
  match ← peek with
  | some (.anchor name) =>
    skip
    let id ← register name
    match ← peek with
    | some (.tag t) => do
      skip
      return (some id, some (← meaning t))
    | _ => return (some id, none)
  | some (.tag t) =>
    skip
    let tag ← meaning t
    match ← peek with
    | some (.anchor name) => do
      skip
      return (some (← register name), some tag)
    | _ => return (none, some tag)
  | _ => return (none, none)

end ReadM

open ReadM

/-- The node of a scalar. -/
def Node.ofScalar (tag : Option (String × String)) (plain : Bool) (s : String) : Node :=
  if !plain then .text s
  else
    match tag with
    | none => .ofPlain s
    | some (handle, suffix) => if handle = coreHandle then .ofCoreTag suffix s else .text s

/-- The mapping of the nodes between its ends. -/
def Node.ofNodes (nodes : List Node) : ReadM Node := do
  return .mapping (← (Node.pairUp [] none nodes : Option (List (Node × Node))))

mutual

/-- Read a node. Block collections are read only where they may stand, and entries without an
indentation of their own only as a part of a mapping. Every step of the fuel passes a token or
enters the next part of the grammar. -/
def readNode : (fuel : Nat) → (block indentless : Bool) → ReadM Node
  | 0, _, _ => failure
  | fuel + 1, block, indentless => do
    match ← peek with
    | some (.reference name) =>
      skip
      resolve name
    | _ =>
      let (id, tag) ← properties
      match ← peek with
      | some (.scalar plain s) =>
        skip
        keep id (.ofScalar tag plain s)
      | some .flowSequenceStart =>
        skip
        keep id (.sequence (← readFlowSequence fuel true))
      | some .flowMappingStart =>
        skip
        keep id (← Node.ofNodes (← readFlowMapping fuel true))
      | t =>
        if indentless ∧ t = some .blockEntry then
          keep id (.sequence (← readIndentless fuel))
        else if block ∧ t = some .blockSequenceStart then do
          skip
          keep id (.sequence (← readBlockSequence fuel))
        else if block ∧ t = some .blockMappingStart then do
          skip
          keep id (← Node.ofNodes (← readBlockMapping fuel))
        else if id.isSome ∨ tag.isSome then keep id (.ofScalar tag true "")
        else failure

/-- Read the entries of a block sequence. -/
def readBlockSequence : (fuel : Nat) → ReadM (List Node)
  | 0 => failure
  | fuel + 1 => do
    match ← peek with
    | some .blockEnd =>
      skip
      return []
    | some .blockEntry =>
      skip
      let node ← if ← isAt [.blockEntry, .blockEnd] then pure .null else readNode fuel true false
      return node :: (← readBlockSequence fuel)
    | _ => failure

/-- Read the entries of a sequence without an indentation of its own. -/
def readIndentless : (fuel : Nat) → ReadM (List Node)
  | 0 => failure
  | fuel + 1 => do
    match ← peek with
    | some .blockEntry =>
      skip
      let node ←
        if ← isAt [.blockEntry, .key, .value, .blockEnd] then pure .null
        else readNode fuel true false
      return node :: (← readIndentless fuel)
    | _ => return []

/-- Read the keys and values of a block mapping. -/
def readBlockMapping : (fuel : Nat) → ReadM (List Node)
  | 0 => failure
  | fuel + 1 => do
    match ← peek with
    | some .key =>
      skip
      let key ← readBlockPart fuel
      let value ← readBlockValue fuel
      return key :: value :: (← readBlockMapping fuel)
    | some .value =>
      let value ← readBlockValue fuel
      return .null :: value :: (← readBlockMapping fuel)
    | some .blockEnd =>
      skip
      return []
    | _ => failure

/-- Read a key or a value of a block mapping, which may be missing. -/
def readBlockPart : (fuel : Nat) → ReadM Node
  | 0 => failure
  | fuel + 1 => do
    if ← isAt [.key, .value, .blockEnd] then return .null
    else readNode fuel true true

/-- Read the colon and the value of a block mapping, which may both be missing. -/
def readBlockValue : (fuel : Nat) → ReadM Node
  | 0 => failure
  | fuel + 1 => do
    if ← isAt [.value] then
      skip
      readBlockPart fuel
    else return .null

/-- Read the items of a flow sequence. -/
def readFlowSequence : (fuel : Nat) → (first : Bool) → ReadM (List Node)
  | 0, _ => failure
  | fuel + 1, first => do
    if ← isAt [.flowSequenceEnd] then
      skip
      return []
    else
      if !first then
        if ← isAt [.flowEntry] then skip else failure
      match ← peek with
      | some .flowSequenceEnd =>
        skip
        return []
      | some .key =>
        skip
        let pair ← readFlowPair fuel
        return pair :: (← readFlowSequence fuel false)
      | _ =>
        let node ← readNode fuel false false
        return node :: (← readFlowSequence fuel false)

/-- Read a single pair inside a flow sequence, as a mapping of its own. A token that ends the pair
right at its key is passed. -/
def readFlowPair : (fuel : Nat) → ReadM Node
  | 0 => failure
  | fuel + 1 => do
    let key ←
      if ← isAt [.value, .flowEntry, .flowSequenceEnd] then do
        skip
        pure .null
      else readNode fuel false false
    let value ←
      if ← isAt [.value] then do
        skip
        if ← isAt [.flowEntry, .flowSequenceEnd] then pure .null else readNode fuel false false
      else pure .null
    Node.ofNodes [key, value]

/-- Read the keys and values of a flow mapping. -/
def readFlowMapping : (fuel : Nat) → (first : Bool) → ReadM (List Node)
  | 0, _ => failure
  | fuel + 1, first => do
    if ← isAt [.flowMappingEnd] then
      skip
      return []
    else
      if !first then
        if ← isAt [.flowEntry] then skip else failure
      match ← peek with
      | some .flowMappingEnd =>
        skip
        return []
      | some .key =>
        skip
        let key ←
          if ← isAt [.value, .flowEntry, .flowMappingEnd] then pure .null
          else readNode fuel false false
        let value ← readFlowValue fuel
        return key :: value :: (← readFlowMapping fuel false)
      | some .value =>
        let value ← readFlowValue fuel
        return .null :: value :: (← readFlowMapping fuel false)
      | _ =>
        let key ← readNode fuel false false
        return key :: .null :: (← readFlowMapping fuel false)

/-- Read the colon and the value of a flow mapping, which may both be missing. -/
def readFlowValue : (fuel : Nat) → ReadM Node
  | 0 => failure
  | fuel + 1 => do
    if ← isAt [.value] then
      skip
      if ← isAt [.flowEntry, .flowMappingEnd] then return .null
      else readNode fuel false false
    else return .null

end

/-- Read directives. The version must not come twice. -/
def readDirectives : (fuel : Nat) → (version : Bool) → ReadM Unit
  | 0, _ => failure
  | fuel + 1, version => do
    match ← peek with
    | some .version =>
      if version then failure
      modify fun r => { r with tokens := r.tokens.drop 1, handles := [] }
      readDirectives fuel true
    | some (.handle handle declared) =>
      modify fun r => { r with tokens := r.tokens.drop 1, handles := [(handle, declared)] }
      readDirectives fuel version
    | _ => pure ()

/-- Whether directives come next. -/
def atDirective : ReadM Bool := do
  match ← peek with
  | some .version => return true
  | some (.handle _ _) => return true
  | _ => return false

/-- Read a document that begins with its mark, after directives. -/
def readMarked (fuel : Nat) : ReadM Node := do
  readDirectives fuel false
  if ← isAt [.documentStart] then skip else failure
  if (← atDirective) || (← isAt [.documentStart, .documentEnd]) || (← peek).isNone then
    return .null
  else readNode fuel true false

/-- Read documents. One may begin without a mark only at the start and after an end mark, and
directives may stand only there, too. -/
def readDocuments : (fuel : Nat) → (unmarked : Bool) → ReadM (List Node)
  | 0, _ => failure
  | fuel + 1, unmarked => do
    if ← isAt [.documentEnd] then
      skip
      readDocuments fuel unmarked
    else if (← peek).isNone then return []
    else
      modify fun r => { r with names := [] }
      let marked := (← atDirective) || (← isAt [.documentStart]) || !unmarked
      let node ← if marked then readMarked fuel else readNode fuel true false
      modify fun r => { r with handles := [] }
      if ← isAt [.documentEnd] then
        skip
        return node :: (← readDocuments fuel true)
      else
        if ← atDirective then failure
        return node :: (← readDocuments fuel false)

/-- The documents of a text. -/
def parse? (text : String) : Option (List Node) := do
  let tokens ← Token.scan? text
  let (nodes, _) ← (readDocuments (4 * tokens.length + 8) true).run ⟨tokens, [], [], 0, []⟩
  return nodes

end GrantConfig.Yaml
