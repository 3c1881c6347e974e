import FolderTag.Command.Run
import Std.Time

/-! # The program

What a run may need is looked up before it, and what it writes is kept after it. -/

namespace FolderTag.Command

open FolderTag.Files

/-- What stands at a path on disk. -/
def nodeOnDisk? (p : Path) : IO (Option Node) := do
  try
    return some (.file (← IO.FS.readBinFile p.toString))
  catch
    | .noFileOrDirectory .. => return none
    | .inappropriateType .. => return some .folder
    | e => throw e

/-- Adds what stands on disk along a path. -/
def lookAlong (files : Tree) (p : Path) : IO Tree :=
  (List.range p.length).foldlM (fun files n => do
    let part := p.take (n + 1)
    match ← nodeOnDisk? part with
    | some node => return files.put (Path.straight part) node
    | none => return files) files

def variablesOnDisk : IO (List (String × String)) := do
  let bytes ← IO.FS.readBinFile "/proc/self/environ"
  return (((String.fromUTF8? bytes).getD "").splitOn "\x00").map fun s =>
    (String.ofList (s.toList.takeWhile (· ≠ '=')),
      String.ofList ((s.toList.dropWhile (· ≠ '=')).drop 1))

/-- What a run of a command line finds around it. -/
def lookAround (arguments : List String) : IO Surroundings := do
  let now ← Std.Time.PlainDateTime.now
  let around : Surroundings := {
    files := { root := Path.ofString (toString (← IO.currentDir)), entries := [] }
    «variables» := ← variablesOnDisk
    time := now.format "uuuu-MM-dd HH:mm:ss" }
  match Request.read arguments with
  | .error _ => return around
  | .ok request =>
      let files ← lookAlong around.files (Path.ofString (settingsName request))
      let around := { around with files }
      match logFileFor? around request with
      | some p => return { around with files := ← lookAlong files p }
      | none => return around

def changedFiles (old new : Tree) : List (Path × ByteArray) :=
  new.entries.filterMap fun (p, n) =>
    match n, old.at? p with
    | .file bytes, some (.file before) => if bytes.data = before.data then none else some (p, bytes)
    | .file bytes, _ => some (p, bytes)
    | .folder, _ => none

/-- Lets every text end with its line. -/
def endLine (s : String) : String := if s.isEmpty || s.endsWith "\n" then s else s ++ "\n"

end FolderTag.Command

open FolderTag.Command

def main (arguments : List String) : IO UInt32 := do
  let around ← lookAround arguments
  match run around arguments with
  | .ok report =>
      for (path, bytes) in changedFiles around.files report.files do
        IO.FS.writeBinFile path.toString bytes
      IO.print report.out
      IO.eprint (endLine report.err)
      return report.exit.toUInt32
  | .error f =>
      IO.eprintln ("Error: " ++ f.message)
      return exitError.toUInt32
