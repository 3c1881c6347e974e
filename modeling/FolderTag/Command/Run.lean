import FolderTag.Command.Task

/-! # Runs

A run from the command line to what is printed and logged. -/

namespace FolderTag.Command

open FolderTag.Document FolderTag.Files FolderTag.Log

/-- What a run leaves behind. -/
structure Report where
  exit : Nat
  out : String := ""
  err : String := ""
  files : Tree

/-- The exit code of a command line that is refused. -/
def exitUsage : Nat := 2

/-- The exit code of a run that is broken off. -/
def exitInterrupted : Nat := 130

/-- Lines, each with its end. -/
def joinLines (lines : List String) : String := String.join (lines.map (· ++ "\n"))

def logLine (time : String) (e : Entry) : String :=
  time ++ " - " ++ programName ++ " - " ++ e.level.name ++ " - " ++ e.text ++ "\n"

/-- What is printed instead of a task. -/
def stopReport (files : Tree) : Stop → Report
  | .usage program e => { exit := exitUsage, err := program ++ ": error: " ++ e.message, files }
  | .asked _ key =>
      let out := if key = "version" then programName ++ " " ++ programVersion ++ "\n" else helpText
      { exit := 0, out, files }

/-- What is printed for a failure that the user is told, or the failure. -/
def printFailure : Failure → Except Failure Printed
  | .refused message => .ok { exit := exitError, err := ["Error: " ++ message] }
  | .interrupted => .ok { exit := exitInterrupted, err := ["", "Interrupted by user"] }
  | f => .error f

def Session.run (s : Session) (interrupted : Bool) (task : Task) : Run Printed := do
  log .debug "Loaded rules" [
    ("count", .int s.rules.rules.length),
    ("settings", (s.settings.map .text).getD .null)]
  s.perform interrupted task

def Session.report (s : Session) (around : Surroundings) (task : Task) : Except Failure Report := do
  let run := s.run around.interrupted task
  let printed ← match run.outcome with
    | .ok printed => pure printed
    | .error f => printFailure f
  let logged := String.join ((run.entries.filter (·.isKept s.least)).map (logLine around.time))
  let files ← match s.logFile with
    | some p => (s.files.append p logged.toUTF8).mapError .trouble
    | none => pure s.files
  return {
    exit := printed.exit
    out := joinLines printed.out
    err := logged ++ joinLines printed.err
    files }

def run (around : Surroundings) (arguments : List String) : Except Failure Report :=
  match Request.read arguments with
  | .error stop => .ok (stopReport around.files stop)
  | .ok request =>
      match Session.prepare around request with
      | .ok session => session.report around request.task
      | .error f => do
          let printed ← printFailure f
          return {
            exit := printed.exit
            out := joinLines printed.out
            err := joinLines printed.err
            files := around.files }

end FolderTag.Command
