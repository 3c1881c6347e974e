import FolderTag.Document.Yaml.Token

/-! # From tokens to a tree

The tree of a document, with aliases replaced by what they stand for. -/

namespace FolderTag.Document.Yaml

/-- A node of a document. A tag that is not given is decided by the node itself. -/
inductive Node where
  /-- A text; `plain` tells whether it may stand for a value of another kind. -/
  | scalar (tag : Option String) (text : String) (plain : Bool)
  | list (tag : Option String) (items : List Node)
  /-- A mapping; the mark tells it from every other mapping of the document. -/
  | map (mark : Nat) (tag : Option String) (entries : List (Node × Node))
deriving Repr, Inhabited

namespace Node

def empty : Node := .scalar none "" true

end Node

/-- What is left of the tokens, and what anchors and tag handles stand for. -/
structure Build where
  tokens : List Token
  anchors : List (String × Node) := []
  handles : List (String × String) := []

/-- A step in building a tree. -/
abbrev Builder := StateT Build (Except Failure)

namespace Builder

def refuse {α : Type} (cause : Cause) : Builder α := throw (.malformed cause)

def peek? : Builder (Option Token) := return (← get).tokens.head?

def advance : Builder Unit := modify fun b => { b with tokens := b.tokens.drop 1 }

/-- Drops the next token if it is `t`, and tells whether it was. -/
def accept (t : Token) : Builder Bool := do
  if (← peek?) = some t then
    advance
    return true
  else return false

/-- The mark of a mapping that has just begun: how many tokens are left. -/
def mark : Builder Nat := return (← get).tokens.length

def isNext (ts : List Token) : Builder Bool := do
  return match ← peek? with
    | some t => ts.contains t
    | none => false

def tagName (t : Tag) : Builder String := do
  match t.handle with
  | none => return t.suffix
  | some h =>
      match (← get).handles.lookup h with
      | some start => return start ++ t.suffix
      | none => refuse .badTag

/-- The anchor and the tag before a node, in either order. -/
def properties : Builder (Option String × Option String) := do
  match ← peek? with
  | some (.anchor a) =>
      advance
      match ← peek? with
      | some (.tag t) =>
          advance
          return (some a, some (← tagName t))
      | _ => return (some a, none)
  | some (.tag t) =>
      advance
      match ← peek? with
      | some (.anchor a) =>
          advance
          return (some a, some (← tagName t))
      | _ => return (none, some (← tagName t))
  | _ => return (none, none)

/-- Lets an anchor stand for a node. -/
def bind (anchor : Option String) (n : Node) : Builder Node := do
  match anchor with
  | none => return n
  | some a =>
      if ((← get).anchors.lookup a).isSome then refuse .repeatedAnchor
      modify fun b => { b with anchors := (a, n) :: b.anchors }
      return n

def givenTag (tag : Option String) : Option String := tag.filter (· ≠ "!")

/-- A node with its entries still to come. -/
inductive Content where
  | done (n : Node)
  | blockList
  | bareList
  | blockMap
  | flowList
  | flowMap

/-- What begins with the next token. -/
def content (tag anchor : Option String) (block bare : Bool) : Builder Content := do
  match ← peek? with
  | some .entry =>
      if bare then return .bareList
      else if tag.isSome || anchor.isSome then return .done (.scalar (givenTag tag) "" true)
      else refuse .missingNode
  | some (.scalar text plain) =>
      advance
      return .done (.scalar (givenTag tag) text ((plain && tag.isNone) || tag = some "!"))
  | some .flowListStart =>
      advance
      return .flowList
  | some .flowMapStart =>
      advance
      return .flowMap
  | t =>
      if block && t = some .blockListStart then
        advance
        return .blockList
      else if block && t = some .blockMapStart then
        advance
        return .blockMap
      else if tag.isSome || anchor.isSome then return .done (.scalar (givenTag tag) "" true)
      else refuse .missingNode

mutual

/-- A node. Blocks are allowed if `block`; a list may stand without a block of its own if `bare`. -/
def node : Nat → Bool → Bool → Builder Node
  | 0, _, _ => refuse .missingNode
  | fuel + 1, block, bare => do
      match ← peek? with
      | some (.alias a) =>
          advance
          match (← get).anchors.lookup a with
          | some n => return n
          | none => refuse .undefinedAlias
      | _ =>
          let (anchor, tag) ← properties
          let tag' := givenTag tag
          match ← content tag anchor block bare with
          | .done n => bind anchor n
          | .blockList => bind anchor (.list tag' (← blockItems fuel))
          | .bareList => bind anchor (.list tag' (← bareItems fuel))
          | .blockMap => bind anchor (.map (← mark) tag' (← blockEntries fuel))
          | .flowList => bind anchor (.list tag' (← flowItems fuel true))
          | .flowMap => bind anchor (.map (← mark) tag' (← flowEntries fuel true))

def nodeOr : Nat → List Token → Bool → Bool → Builder Node
  | 0, _, _, _ => refuse .missingNode
  | fuel + 1, ends, block, bare => do
      if ← isNext ends then return .empty else node fuel block bare

/-- The items of a block list up to the end of the block. -/
def blockItems : Nat → Builder (List Node)
  | 0 => refuse .missingBlockEnd
  | fuel + 1 => do
      if ← accept .entry then
        let item ← nodeOr fuel [.entry, .blockEnd] true false
        return item :: (← blockItems fuel)
      else if ← accept .blockEnd then return []
      else refuse .missingBlockEnd

/-- The items of a list without a block of its own. -/
def bareItems : Nat → Builder (List Node)
  | 0 => refuse .missingBlockEnd
  | fuel + 1 => do
      if ← accept .entry then
        let item ← nodeOr fuel [.entry, .key, .value, .blockEnd] true false
        return item :: (← bareItems fuel)
      else return []

/-- The entries of a block mapping up to the end of the block. -/
def blockEntries : Nat → Builder (List (Node × Node))
  | 0 => refuse .missingBlockEnd
  | fuel + 1 => do
      let ends := [Token.key, .value, .blockEnd]
      if ← isNext [.key, .value] then
        let k ← if ← accept .key then nodeOr fuel ends true true else
          -- A value without a key cannot begin a mapping entry.
          refuse .missingBlockEnd
        let v ← if ← accept .value then nodeOr fuel ends true true else pure .empty
        return (k, v) :: (← blockEntries fuel)
      else if ← accept .blockEnd then return []
      else refuse .missingBlockEnd

/-- The items of a list in brackets up to the closing one. -/
def flowItems : Nat → Bool → Builder (List Node)
  | 0, _ => refuse .missingComma
  | fuel + 1, first => do
      if ← accept .flowListEnd then return []
      if !first then
        if !(← accept .comma) then refuse .missingComma
      if ← accept .key then
        let m ← mark
        let k ← nodeOr fuel [.value, .comma, .flowListEnd] false false
        let v ← if ← accept .value then nodeOr fuel [.comma, .flowListEnd] false false else pure .empty
        return .map m none [(k, v)] :: (← flowItems fuel false)
      else if ← accept .flowListEnd then return []
      else
        let item ← node fuel false false
        return item :: (← flowItems fuel false)

/-- The entries of a mapping in braces up to the closing one. -/
def flowEntries : Nat → Bool → Builder (List (Node × Node))
  | 0, _ => refuse .missingComma
  | fuel + 1, first => do
      if ← accept .flowMapEnd then return []
      if !first then
        if !(← accept .comma) then refuse .missingComma
      if ← accept .key then
        let k ← nodeOr fuel [.value, .comma, .flowMapEnd] false false
        let v ← if ← accept .value then nodeOr fuel [.comma, .flowMapEnd] false false else pure .empty
        return (k, v) :: (← flowEntries fuel false)
      else if ← accept .flowMapEnd then return []
      else
        let k ← node fuel false false
        return (k, .empty) :: (← flowEntries fuel false)

end

/-- The tag handles that every document knows. -/
def commonHandles : List (String × String) := [("!", "!"), ("!!", "tag:yaml.org,2002:")]

/-- The directives of a document: at most one version, whose major number is one, and each tag
handle at most once. -/
def directives : Nat → Bool → List (String × String) → Builder Unit
  | 0, _, _ => return ()
  | fuel + 1, versioned, handles => do
      match ← peek? with
      | some (.version major) =>
          if versioned || major ≠ 1 then refuse .badDirective
          advance
          directives fuel true handles
      | some (.tagHandle h e) =>
          if (handles.lookup h).isSome then refuse .badDirective
          advance
          directives fuel versioned ((h, e) :: handles)
      | some .otherDirective =>
          advance
          directives fuel versioned handles
      | _ => modify fun b => { b with handles := handles ++ commonHandles }

def documentEnds : Nat → Builder Unit
  | 0 => return ()
  | fuel + 1 => do if ← accept .documentEnd then documentEnds fuel

def atDocumentLimit : Builder Bool := do
  return match ← peek? with
    | none => true
    | some t => match t with
      | .version _ | .tagHandle .. | .otherDirective | .documentStart | .documentEnd => true
      | _ => false

/-- The only document of a stream, if there is one. -/
def document : Builder (Option Node) := do
  let fuel := 2 * (← get).tokens.length + 2
  modify fun b => { b with handles := commonHandles }
  let implicit := !(← atDocumentLimit) || (← isNext [.documentEnd])
  let ended := (← peek?).isNone
  let root ←
    if implicit then
      let n ← node fuel true false
      pure (some n)
    else if ended then pure none
    else do
      directives fuel false []
      if !(← accept .documentStart) then refuse .missingDocumentStart
      if ← atDocumentLimit then pure (some Node.empty)
      else pure (some (← node fuel true false))
  documentEnds fuel
  if (← peek?).isSome then refuse .severalDocuments
  return root

end Builder

/-- The tree of a document; an empty one has none. -/
def tree (tokens : List Token) : Except Failure (Option Node) := do
  return (← Builder.document.run { tokens }).1

end FolderTag.Document.Yaml
