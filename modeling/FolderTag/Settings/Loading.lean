import FolderTag.Settings.Environment
import FolderTag.Settings.Operation
import FolderTag.Settings.Schema

/-! # Loading settings -/

namespace FolderTag.Settings

open FolderTag.Document FolderTag.Files

namespace Layers

/-- Lets a source say what a file holds. -/
def loadFile (l : Layers) (files : Tree) (path : String) (s : Source) : Except Fault Layers :=
  let (outcome, l) := (Operation.loadFile files path s).run l
  outcome.map fun _ => l

/-- The defaults, below what a file holds if one is named. -/
def loadBelow (files : Tree) (path : Option String) : Except Fault Layers :=
  match path.filter (· ≠ "") with
  | some path => start.loadFile files path .userFile
  | none => .ok start

/-- The settings of a run: the defaults, what a file holds, and what the environment says. -/
def load (files : Tree) (environment : List (String × String)) (path : Option String) :
    Except Fault Layers := do
  let said := (environmentLayer? environment).map Linked.plain
  return (← loadBelow files path).replace .environment said

end Layers

end FolderTag.Settings
