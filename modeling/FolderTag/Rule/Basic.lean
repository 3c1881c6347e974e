import FolderTag.Rule.Options
import FolderTag.Rule.RecipeForm

/-! # Rules

A rule ties folders to tags: each end has a pattern, an entry point, and a recipe by which the other
end's texts are transformed into its own. -/

namespace FolderTag

open FolderTag.Document FolderTag.Rule FolderTag.Transform

/-- The ways in which a rule may be used. -/
inductive Direction where
  | folderToTag
  | tagToFolder
  | both
deriving Repr, DecidableEq

instance : Choice Direction where
  title := "RuleDirection"
  all := [.folderToTag, .tagToFolder, .both]
  name
    | .folderToTag => "folder-to-tag"
    | .tagToFolder => "tag-to-folder"
    | .both => "bidirectional"

/-- The two ends of a rule. -/
inductive Side where
  | folder
  | tag
deriving Repr, DecidableEq

instance : Choice Side where
  title := "MatchType"
  all := [.folder, .tag]
  name
    | .folder => "folder"
    | .tag => "tag"

/-- One end of a rule. -/
structure Endpoint where
  pattern : Option String := none
  entryPoint : Option String := none
  /-- How texts of the other end are transformed for this one. -/
  recipe : Option Recipe := none

/-- The pattern of an end that has one; an empty pattern is none. -/
def Endpoint.usedPattern? (e : Endpoint) : Option String := e.pattern.filter (· ≠ "")

/-- A rule. What no computation needs to be of one kind is kept as it is stored. -/
structure Rule where
  id : Value
  name : Value
  enabled : Value := .bool true
  priority : Value := .int 0
  direction : Option Direction := some .both
  description : Value := .null
  folder : Endpoint := {}
  tag : Endpoint := {}
  options : Options := {}

namespace Rule

def endpoint (r : Rule) : Side → Endpoint
  | .folder => r.folder
  | .tag => r.tag

def fieldNames : List String := [
  "id", "name", "enabled", "priority", "direction", "description", "folderPattern",
  "folderEntryPoint", "folderTransforms", "tagPattern", "tagEntryPoint", "tagTransforms",
  "options"]

/-- The fields that no stored rule is without. -/
def neededFields : List String := ["id", "name", "enabled", "priority", "direction", "options"]

/-- The rule of the entries of a mapping, with recipes and options already read. -/
def ofEntries (entries : Entries) (folderRecipe tagRecipe : Option Recipe) (options : Options) :
    Except Fault Rule := do
  let field := fun name => fieldOr entries name .null
  let direction ← readChoice Direction (fieldOr entries "direction" (Choice.value Direction.both))
  let folderPattern ← readText "folderPattern" (field "folderPattern")
  let folderEntry ← readText "folderEntryPoint" (field "folderEntryPoint")
  let tagPattern ← readText "tagPattern" (field "tagPattern")
  let tagEntry ← readText "tagEntryPoint" (field "tagEntryPoint")
  return {
    id := field "id"
    name := field "name"
    enabled := fieldOr entries "enabled" (.bool true)
    priority := fieldOr entries "priority" (.int 0)
    direction
    description := field "description"
    folder := { pattern := folderPattern, entryPoint := folderEntry, recipe := folderRecipe }
    tag := { pattern := tagPattern, entryPoint := tagEntry, recipe := tagRecipe }
    options }

def readRecipe : Value → Except Fault (Option Recipe)
  | .null => .ok none
  | v => return some (← Recipe.ofValue v)

def ofValue (v : Value) : Except Fault Rule := do
  let entries ← knownFields "rule" fieldNames v
  let missing := neededFields.filter fun name => !Value.hasField name entries
  if !missing.isEmpty then refuse (.missingFields missing)
  let folderRecipe ← readRecipe (fieldOr entries "folderTransforms" .null)
  let tagRecipe ← readRecipe (fieldOr entries "tagTransforms" .null)
  let options ← Options.ofValue (fieldOr entries "options" .null)
  ofEntries entries folderRecipe tagRecipe options

/-- The stored name of a direction; a rule without one has no stored form. -/
def directionName : Option Direction → Except Misuse Value
  | some d => .ok (Choice.value d)
  | none => .error (.noPart "NoneType" "value")

def toValue (r : Rule) : Except Misuse Value := do
  let direction ← directionName r.direction
  return Value.ofFields <|
    [("id", r.id), ("name", r.name), ("enabled", r.enabled), ("priority", r.priority),
      ("direction", direction)] ++
    setFields [
      ("description", present? r.description),
      ("folderPattern", r.folder.pattern.map .text),
      ("folderEntryPoint", r.folder.entryPoint.map .text),
      ("tagPattern", r.tag.pattern.map .text),
      ("tagEntryPoint", r.tag.entryPoint.map .text),
      ("folderTransforms", r.folder.recipe.map Recipe.toValue),
      ("tagTransforms", r.tag.recipe.map Recipe.toValue)] ++
    [("options", r.options.toValue)]

end Rule

end FolderTag
