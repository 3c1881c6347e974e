import FolderTag.Log.Traced
import FolderTag.Mapping.EntryPoint
import FolderTag.Pattern.Interruption
import FolderTag.Rule.Basic
import FolderTag.Transform.Pipeline

/-! # Conversion by one rule -/

namespace FolderTag.Mapping

open FolderTag.Document FolderTag.Log FolderTag.Pattern FolderTag.Transform

/-- The characters of an entry point; a missing one has none. -/
def entryChars (e : Endpoint) : List Char := (e.entryPoint.getD "").toList

/-- The recipe of an end; a missing one is plain. -/
def recipeOf (e : Endpoint) : Recipe := e.recipe.getD Recipe.plain

def spoken (s : List Char) : Option String := if s.isEmpty then none else some (String.ofList s)

/-- What the folder pattern of a rule matches in a path. -/
def folderMatch (r : Rule) (path : String) : Except Interruption (Option String) :=
  match r.folder.usedPattern? with
  | none => .ok none
  | some pattern =>
      match compile pattern "" with
      | .ok entry => .ok ((entry.search path).map fun m => String.ofList m.whole)
      | .error refusal => if refusal.isInvalid then .ok none else .error (.refusal refusal)

/-- The tag that a rule makes of a folder path. -/
def tagOfFolder (r : Rule) (preserve : Bool) (path : String) :
    Attempt Interruption (Option String) := do
  match ← Attempt.ofExcept (folderMatch r path) with
  | none => return none
  | some part =>
      let segment := String.ofList (stripEntry (entryChars r.folder) part.toList)
      let text ← (recipeOf r.tag).folderToTag preserve segment
      let tag := joinEntry (entryChars r.tag) text.toList
      return if tag.isEmpty then none else some (String.ofList (withHash tag))

/-- The folder path that a rule makes of a tag. -/
def folderOfTag (r : Rule) (preserve : Bool) (tag : String) : Traced (Option String) := do
  let content := stripEntry (stripHash (entryChars r.tag)) (stripHash tag.toList)
  let text ← (recipeOf r.folder).tagToFolder preserve (String.ofList content)
  return spoken (joinEntry (entryChars r.folder) text.toList)

end FolderTag.Mapping
