import FolderTag.Settings.Layers
import FolderTag.Settings.Stored

/-! # Operations on settings

Settings are changed by one operation after the other. An operation may break off; what it has
changed by then stays changed. -/

namespace FolderTag.Settings

open FolderTag.Document FolderTag.Files

/-- What a settings file holds. The file is read as a block document whatever its name, and an
empty one stands for an empty mapping. -/
def readSettings (files : Tree) (path : String) : Except Fault Linked := do
  let p := (Path.ofString path).straight
  if !files.has p then refuse (.noConfigFile path)
  let bytes ← (files.read p).mapError fun t =>
    .refusal (.unloadable path (t.message (files.fullPath p).toString))
  let held ← readBlock path (← readText bytes)
  match held.value with
  | .null => return .plain (.map [])
  | .map _ => return held
  | _ => refuse (.noConfig path)

/-- What can be done to settings. -/
inductive Operation where
  | loadFile (files : Tree) (path : String) (source : Source)
  | load (value : Value) (source : Source)
  | set (key : String) (value : Value) (source : Source)
  | clear (source : Option Source)

/-- A computation on layers that may break off. -/
abbrev Change := ExceptT Fault (StateM Layers)

/-- Lets a source that says nothing at all say an empty mapping. -/
def Layers.opened (l : Layers) (s : Source) : Layers :=
  if (l.content s).isNone then l.replace s (some (.plain (.map []))) else l

namespace Operation

def perform : Operation → Change Unit
  | .loadFile files path s => do
      let held ← readSettings files path
      modify fun l => l.replace s (some held)
  | .load value s => modify fun l => l.replace s (some (.plain value))
  | .set key value s => do
      modify fun l => l.opened s
      let l ← ((← get).set s key value).mapError Fault.misuse
      MonadState.set l
  | .clear s => modify fun l => l.clear s

/-- What comes out of an operation, and the layers behind it. -/
def run (op : Operation) (l : Layers) : Except Fault Unit × Layers := op.perform.run.run l

/-- The source that an operation is about, if it is not about all. -/
def target? : Operation → Option Source
  | .loadFile _ _ s => some s
  | .load _ s => some s
  | .set _ _ s => some s
  | .clear s => s

/-- Whether an operation makes a source say something. -/
def writes (op : Operation) (s : Source) : Bool :=
  match op with
  | .clear _ => false
  | op => op.target? = some s

end Operation

/-- The layers behind operations, some of which may have broken off. -/
def Layers.after (l : Layers) (ops : List Operation) : Layers :=
  ops.foldl (fun l op => (op.run l).2) l

end FolderTag.Settings
