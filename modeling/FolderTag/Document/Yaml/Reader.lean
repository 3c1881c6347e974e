import FolderTag.Document.Linked
import FolderTag.Document.Yaml.Lexer
import FolderTag.Document.Yaml.Node
import FolderTag.Document.Yaml.Scalar

/-! # Reading block documents

A tree becomes a value when its texts are given kinds. A mapping may take over the entries of other
mappings; its own entries come after them and win. An entry that is taken over stands at both
places. -/

namespace FolderTag.Document.Yaml

namespace Node

/-- The kind of a text; a tag decides before its form. -/
def scalarKind (tag : Option String) (text : String) (plain : Bool) : Except Failure Kind :=
  match tag with
  | none => .ok (if plain then kindOf text.toList else .text)
  | some tag =>
      match Kind.ofTag? tag with
      | some kind => .ok kind
      | none => refuse .unknownTag

/-- Refuses a list or mapping whose tag asks for another kind. -/
def checkKind (kind : Kind) : Option String → Except Failure Unit
  | none => .ok ()
  | some tag =>
      match Kind.ofTag? tag with
      | some k => if k = kind then .ok () else refuse .wrongKind
      | none => refuse .unknownTag

/-- Whether a node is the key under which mappings are merged. -/
def isMergeKey : Node → Bool
  | .scalar tag text plain =>
      match scalarKind tag text plain with
      | .ok kind => kind = .merge
      | .error _ => false
  | _ => false

def scalarValue (tag : Option String) (text : String) (plain asKey : Bool) :
    Except Failure Value := do
  let kind ← scalarKind tag text plain
  valueOf (if asKey ∧ kind = .itself then .text else kind) text

def putAll (entries : List (Value × Linked)) (es : List (Value × Linked)) :
    List (Value × Linked) :=
  es.foldl (fun acc (k, t) => Value.put k t acc) entries

mutual

def linked : Node → Except Failure Linked
  | .scalar tag text plain => return .plain (← scalarValue tag text plain false)
  | .list tag items => do
      checkKind .list tag
      return .list (← linkedItems items)
  | .map mark tag entries => do
      checkKind .map tag
      let (merged, own) ← entryParts entries
      return .map mark (putAll (putAll [] merged) own)

def linkedItems : List Node → Except Failure (List Linked)
  | [] => .ok []
  | n :: ns => do
      let t ← linked n
      return t :: (← linkedItems ns)

/-- What a mapping takes over, and its own entries. -/
def entryParts : List (Node × Node) →
    Except Failure (List (Value × Linked) × List (Value × Linked))
  | [] => .ok ([], [])
  | (k, v) :: rest => do
      if isMergeKey k then
        let es ← mergedEntries v
        let (merged, own) ← entryParts rest
        return (es ++ merged, own)
      else
        let key ← keyValue k
        if !key.isKey then refuse .listAsKey
        let t ← linked v
        let (merged, own) ← entryParts rest
        return (merged, (key, t) :: own)

def keyValue : Node → Except Failure Value
  | .scalar tag text plain => scalarValue tag text plain true
  | .list .. => refuse .listAsKey
  | .map .. => refuse .listAsKey

/-- The entries taken over from a mapping or a list of mappings, of which the first wins. -/
def mergedEntries : Node → Except Failure (List (Value × Linked))
  | .map _ _ entries => do
      let (merged, own) ← entryParts entries
      return merged ++ own
  | .list _ items => mergedItems items
  | .scalar .. => refuse .badMergeKey

/-- The entries taken over from a list of mappings, those of the last mapping first. -/
def mergedItems : List Node → Except Failure (List (Value × Linked))
  | [] => .ok []
  | .map _ _ entries :: rest => do
      let (merged, own) ← entryParts entries
      return (← mergedItems rest) ++ (merged ++ own)
  | _ :: _ => refuse .badMergeKey

end

end Node

/-- Reads a document. An empty one holds nothing. -/
def read (text : List Char) : Except Failure Linked := do
  match ← tree (← tokens text) with
  | some n => n.linked
  | none => return .plain .null

end FolderTag.Document.Yaml
