import FolderTag.Document.Value
import FolderTag.Number.Reading
import FolderTag.Text.Case

/-! # Settings from the environment

A variable names a section and a key in it, and holds a word, a number or a text. -/

namespace FolderTag.Settings

open FolderTag.Document

/-- What the names of the variables begin with. -/
def variableStart : List Char := "DYNTAGS_".toList

/-- The section and the key that a variable names. All behind the first underscore is the key. -/
def variableKey? (name : String) : Option (String × String) :=
  if variableStart.isPrefixOf name.toList then
    let body := Text.lower (name.toList.drop variableStart.length)
    let whole := body.takeWhile (· ≠ '_')
    let key := body.drop (whole.length + 1)
    if whole.isEmpty || key.isEmpty then none else some (String.ofList whole, String.ofList key)
  else none

def variableValue (s : String) : Value :=
  let word := String.ofList (Text.lower s.toList)
  if ["true", "yes", "on"].contains word then .bool true
  else if ["false", "no", "off"].contains word then .bool false
  else
    match Number.readInt? s.toList, Number.readFloat? s.toList with
    | some n, _ => .int n
    | none, some x => .float x
    | none, none => .text s

def addVariable (sections : Entries) (given : String × String) : Entries :=
  match variableKey? given.1 with
  | none => sections
  | some (part, key) =>
      let inner := match Value.field? part sections with
        | some (.map inner) => inner
        | _ => []
      Value.put (.text part) (.map (Value.put (.text key) (variableValue given.2) inner)) sections

/-- What the variables of an environment say, if they say something. -/
def environmentLayer? (environment : List (String × String)) : Option Value :=
  match environment.foldl addVariable [] with
  | [] => none
  | sections => some (.map sections)

end FolderTag.Settings
