import FolderTag.Command.Reading
import FolderTag.Rule.Basic

/-! # Requests

What one can ask of the program on its command line. -/

namespace FolderTag.Command

open FolderTag.Document

def programName : String := "dyntags"

def programVersion : String := "1.0.0"

/-- What is to be done. -/
inductive Task where
  | folderToTag (path : String)
  | tagToFolder (tags : List String)
  | validate
  | matching (side : Option Side) (all : Bool) (input : String)
  | reversible
deriving Repr, DecidableEq

/-- A task with what holds for all tasks. -/
structure Request where
  settings : Option String
  debug : Bool
  logFile : Option String
  task : Task
deriving Repr, DecidableEq

def helpSwitch : Switch := { key := "help", names := ["-h", "--help"], ends := true }

/-- The commands of the program with what they understand. -/
def commands : List (String × List Switch × Operands) := [
  ("folder-to-tag", [], .one "path"),
  ("tag-to-folder", [], .several "tags"),
  ("validate", [], .nothing),
  ("match",
    [{ key := "type", names := ["--type"], takesValue := true, choices := Choice.names Side },
      { key := "all", names := ["--all"] }],
    .one "input"),
  ("reversible", [], .nothing)]

/-- What the program understands before a command. -/
def grammar : Grammar where
  program := programName
  switches := [
    helpSwitch,
    { key := "version", names := ["-v", "--version"], ends := true },
    { key := "config", names := ["-c", "--config"], takesValue := true },
    { key := "debug", names := ["--debug"] },
    { key := "log-file", names := ["--log-file"], takesValue := true }]
  operands := .command "COMMAND" (commands.map (·.1))

def commandGrammar (name : String) : Grammar :=
  let (switches, operands) := (commands.lookup name).getD ([], .nothing)
  { program := programName ++ " " ++ name, switches := helpSwitch :: switches, operands }

def taskOf (name : String) (r : Reading) : Task :=
  let operands := r.operands.getD []
  let first := operands.headD ""
  if name = "folder-to-tag" then .folderToTag first
  else if name = "tag-to-folder" then .tagToFolder operands
  else if name = "match" then
    let side := match r.value? "type" with
      | some value => value.bind Choice.ofName?
      | none => some .folder
    .matching side (r.has "all") first
  else if name = "validate" then .validate
  else .reversible

def Request.read (arguments : List String) : Except Stop Request := do
  let r ← grammar.read arguments
  let (name, rest) := match r.operands with
    | some (name :: rest) => (name, rest)
    | _ => ("", [])
  let inner ← (commandGrammar name).read rest
  let extras := r.extras ++ inner.extras
  if !extras.isEmpty then throw (.usage programName (.unknown extras))
  return {
    settings := (r.value? "config").join
    debug := r.has "debug"
    logFile := (r.value? "log-file").join
    task := taskOf name inner }

def helpText : String :=
  "usage: " ++ programName ++ " [-c FILE] [--debug] [--log-file FILE] COMMAND ...\n\n" ++
    "Rule-based folder path and tag mapping\n\ncommands:\n" ++
    String.join (commands.map fun (name, _) => "  " ++ name ++ "\n")

end FolderTag.Command
