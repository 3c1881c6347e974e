import FolderTag.Transform.Convention
import FolderTag.Transform.Emoji
import FolderTag.Transform.NumberPrefix
import FolderTag.Transform.Rewrite

/-! # Recipes

A recipe is what a rule says about transforming one side into the other. -/

namespace FolderTag.Transform

open FolderTag.Document

/-- The settings of one transformation. -/
structure Recipe where
  convention : Option Convention := none
  emoji : Option EmojiMode := none
  number : Option NumberMode := none
  rewrites : List Rewrite := []

namespace Recipe

/-- A recipe without settings. -/
def plain : Recipe := {}

def stripsEmoji (r : Recipe) : Bool := r.emoji = some .strip

def stripsNumber (r : Recipe) : Bool := r.number = some .strip || r.number = some .extract

/-- The convention that names are converted to. -/
def converts? (r : Recipe) : Option Convention :=
  match r.convention with
  | some .asIs => none
  | k => k

/-- What a recipe loses. -/
inductive Loss where
  | emoji
  | number
  | rewrites
  | casing (k : Convention)
deriving Repr, DecidableEq

namespace Loss

/-- Whether a loss makes the way back impossible. -/
def isFinal : Loss → Bool
  | .casing _ => false
  | _ => true

def message : Loss → String
  | .emoji => "Emoji stripping is not reversible"
  | .number => "Number prefix removal is not reversible"
  | .rewrites => "Custom regex transformations may not be reversible"
  | .casing k =>
      "Case transformation to " ++ Choice.name k ++ " may not preserve original casing"

end Loss

/-- The losses of a recipe. A title keeps the casing of what it is made from. -/
def losses (r : Recipe) : List Loss :=
  (if r.stripsEmoji then [.emoji] else []) ++
    (if r.stripsNumber then [.number] else []) ++
    (if r.rewrites.isEmpty then [] else [.rewrites]) ++
    (match r.converts? with
      | some .title => []
      | some k => [.casing k]
      | none => [])

/-- Whether nothing final is lost. -/
def isReversible (r : Recipe) : Bool := r.losses.all fun l => !l.isFinal

end Recipe

end FolderTag.Transform
