import FolderTag.Rule.Basic

/-! # Building from named arguments

A host may also build rules, recipes and options from named arguments instead of a stored form. The
arguments are named like the stored fields, in lower case with underscores. -/

namespace FolderTag.Rule

open FolderTag.Document FolderTag.Transform

def argumentName (field : String) : String :=
  String.ofList (field.toList.flatMap fun c => if c.isUpper then ['_', c.toLower] else [c])

def fieldOfArgument? (fields : List String) (argument : String) : Option String :=
  fields.find? fun f => argumentName f = argument

/-- The arguments under the names of their fields. -/
def argumentEntries (fields needed : List String) (arguments : List (String × Value)) :
    Except Fault Entries := do
  let entries ← arguments.mapM fun (a, v) =>
    match fieldOfArgument? fields a with
    | some f => .ok (Value.text f, v)
    | none => reject (.badArguments ("unexpected argument " ++ a))
  match needed.find? fun f => !Value.hasField f entries with
  | some f => reject (.badArguments ("missing argument " ++ argumentName f))
  | none => return entries

def Options.build (arguments : List (String × Value)) : Except Fault Options := do
  Options.ofEntries (← argumentEntries Options.fieldNames [] arguments)

/-- Builds a recipe. Its choices are looked at first. -/
def buildRecipe (arguments : List (String × Value)) : Except Fault Recipe := do
  let entries ← argumentEntries Recipe.fieldNames [] arguments
  let field := fun name => fieldOr entries name .null
  let recipe ← Recipe.ofValues (field "caseTransform") (field "emojiHandling")
    (field "numberPrefixHandling") []
  return { recipe with rewrites := ← Rewrite.listOfValue (field "customTransforms") }

/-- A part of a rule given as an argument: read from its stored form, or not of the right kind. -/
def argumentPart {α : Type} (read : Value → Except Fault α) : Value → Except Fault (Option α)
  | .map entries => return some (← read (.map entries))
  | _ => .ok none

/-- Builds a rule and gives its stored form. Recipes and options of a wrong kind are found out only
in the end. -/
def storedFormOfArguments (arguments : List (String × Value)) : Except Fault Value := do
  let entries ← argumentEntries Rule.fieldNames ["id", "name"] arguments
  let plain ← Rule.ofEntries entries none none {}
  let recipe := fun name => argumentPart Recipe.ofValue (fieldOr entries name .null)
  let folderRecipe ← recipe "folderTransforms"
  let tagRecipe ← recipe "tagTransforms"
  let options ← argumentPart Options.ofValue (fieldOr entries "options" (.map []))
  let wrong := fun name (part : Option Recipe) =>
    part.isNone && (present? (fieldOr entries name .null)).isSome
  if wrong "folderTransforms" folderRecipe || wrong "tagTransforms" tagRecipe then
    reject (.noPart "value" "to_dict")
  match options with
  | none => reject (.noPart "value" "to_dict")
  | some options =>
      let rule : Rule := { plain with
        folder := { plain.folder with recipe := folderRecipe }
        tag := { plain.tag with recipe := tagRecipe }
        options }
      rule.toValue.mapError .misuse

end FolderTag.Rule
