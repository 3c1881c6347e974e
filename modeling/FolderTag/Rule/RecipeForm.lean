import FolderTag.Rule.Violation
import FolderTag.Transform.Recipe

/-! # The stored form of recipes -/

namespace FolderTag.Transform

open FolderTag.Document FolderTag.Rule

namespace Rewrite

/-- Reads a rewrite. Only the pattern is needed. -/
def ofValue (v : Value) : Except Fault Rewrite := do
  let entries ← knownFields "regex transform" ["pattern", "replacement", "flags"] v
  match Value.field? "pattern" entries with
  | none => refuse .missingPattern
  | some pattern =>
      return {
        pattern
        replacement := fieldOr entries "replacement" (.text "")
        flags := fieldOr entries "flags" .null }

def toValue (r : Rewrite) : Value := Value.ofFields <|
  [("pattern", r.pattern), ("replacement", r.replacement)] ++ setFields [("flags", present? r.flags)]

/-- The things in a value that should be a list. -/
def itemsOf (v : Value) : Except Misuse (List Value) :=
  match v with
  | .list items => .ok items
  | .map entries => .ok (entries.map (·.1))
  | .text s => .ok (s.toList.map fun c => .text (String.singleton c))
  | v => .error (.notIterable v.fullKind)

/-- Reads a list of rewrites; anything that is not set stands for none. -/
def listOfValue (v : Value) : Except Fault (List Rewrite) :=
  if v.isSet then
    match itemsOf v with
    | .ok items => items.mapM ofValue
    | .error m => reject m
  else .ok []

end Rewrite

namespace Recipe

def fieldNames : List String :=
  ["caseTransform", "emojiHandling", "numberPrefixHandling", "customTransforms"]

/-- A recipe whose choices are still values. -/
def ofValues (convention emoji number : Value) (rewrites : List Rewrite) : Except Fault Recipe := do
  return {
    convention := ← readChoice Convention convention
    emoji := ← readChoice EmojiMode emoji
    number := ← readChoice NumberMode number
    rewrites }

/-- Reads a recipe. The rewrites are looked at first. -/
def ofValue (v : Value) : Except Fault Recipe := do
  let entries ← knownFields "transform config" fieldNames v
  let field := fun name => fieldOr entries name .null
  let rewrites ← Rewrite.listOfValue (field "customTransforms")
  ofValues (field "caseTransform") (field "emojiHandling") (field "numberPrefixHandling") rewrites

def toValue (r : Recipe) : Value := Value.ofFields <| setFields [
  ("caseTransform", r.convention.map Choice.value),
  ("emojiHandling", r.emoji.map Choice.value),
  ("numberPrefixHandling", r.number.map Choice.value),
  ("customTransforms",
    if r.rewrites.isEmpty then none else some (.list (r.rewrites.map Rewrite.toValue)))]

end Recipe

end FolderTag.Transform
