import FolderTag.Command.Request
import FolderTag.Log.Registry
import FolderTag.Pattern.Interruption
import FolderTag.Settings.Loading

/-! # Sessions

Before a task is done, its settings and rules are loaded and the log is opened. -/

namespace FolderTag.Command

open FolderTag.Document FolderTag.Files FolderTag.Log FolderTag.Settings

/-- What a run finds around it. -/
structure Surroundings where
  files : Tree
  «variables» : List (String × String) := []
  /-- The time as it is written in front of log lines. -/
  time : String
  /-- Whether somebody breaks off the validation of rules. -/
  interrupted : Bool := false

/-- Why a run comes to no result. -/
inductive Failure where
  /-- Something is wrong that the user is told. -/
  | refused (message : String)
  | interrupted
  | misuse (m : Misuse)
  | refusal (r : Pattern.Refusal)
  | noValue (why : Yaml.NoValue)
  | notText
  | trouble (t : Trouble)

def Failure.message : Failure → String
  | .refused message => message
  | .interrupted => "Interrupted by user"
  | .misuse m => m.message
  | .refusal r => r.message
  | .noValue _ => "a text in the settings has no value"
  | .notText => "the settings are not a text in UTF-8"
  | .trouble t => t.wording

/-- The settings file that is read where none is named. -/
def defaultSettingsFile : String := "dyntags.yaml"

def nonempty? (s : Option String) : Option String := s.filter (· ≠ "")

def settingsName (r : Request) : String := (nonempty? r.settings).getD defaultSettingsFile

def settingsFile (files : Tree) (r : Request) : Except Failure (Option String) :=
  match nonempty? r.settings with
  | some path =>
      let p := Path.ofString path
      if !files.has p then .error (.refused ("Settings file does not exist: " ++ path))
      else if !files.hasFile p then .error (.refused ("Settings path is not a file: " ++ path))
      else .ok (some path)
  | none =>
      if files.hasFile (Path.ofString defaultSettingsFile) then .ok (some defaultSettingsFile)
      else .ok none

def failureOf : Settings.Fault → Failure
  | .refusal r => .refused r.message
  | .misuse m => .misuse m
  | .noValue why => .noValue why
  | .notText => .notText

/-- Lets the command line say a text under a key, if a switch has given one. -/
def sayText (l : Layers) (key : String) : Option String → Except Failure Layers
  | some s => (l.set .commandLine key (.text s)).mapError .misuse
  | none => .ok l

/-- The settings of a run, with what its switches say. -/
def loadLayers (around : Surroundings) (r : Request) (path : Option String) :
    Except Failure Layers := do
  let l ← (Layers.load around.files around.«variables» path).mapError failureOf
  let l ← sayText l "logging.level" (if r.debug then some "DEBUG" else none)
  let l ← sayText l "logging.file" (nonempty? r.logFile)
  (l.validate Schema.settings).mapError failureOf
  return l

def loadRules (files : Tree) (path : Option String) : Except Failure RuleSet :=
  match path with
  | some path => (RuleSet.load files path).mapError failureOf
  | none => .ok .empty

/-- A run that is ready for its task. -/
structure Session where
  settings : Option String
  layers : Layers
  rules : RuleSet
  /-- The least rank that is logged. -/
  least : Int
  logFile : Option Path
  files : Tree

/-- The least rank that is logged. -/
def leastRank (l : Layers) (rules : RuleSet) : Except Failure Int :=
  let level := if rules.isSet "debugMode" then .text "DEBUG"
    else (l.get? "logging.level").getD (.text "WARNING")
  match Level.rankOf level with
  | .ok rank => .ok rank
  | .error _ => .error (.refused ("Invalid log level: " ++ level.shownString))

def logFileOf (l : Layers) : Option Path :=
  (nonempty? ((l.get? "logging.file").bind Value.text?)).map fun s => (Path.ofString s).straight

/-- The file that a run logs to, as far as its settings tell. -/
def logFileFor? (around : Surroundings) (r : Request) : Option Path :=
  match settingsFile around.files r with
  | .ok settings =>
      match loadLayers around r settings with
      | .ok layers => logFileOf layers
      | .error _ => none
  | .error _ => none

/-- Makes a run ready. The log file is there from then on, even if nothing is logged. -/
def Session.prepare (around : Surroundings) (r : Request) : Except Failure Session := do
  let settings ← settingsFile around.files r
  let layers ← loadLayers around r settings
  let rules ← loadRules around.files settings
  let least ← leastRank layers rules
  let logFile := logFileOf layers
  let files ← match logFile with
    | some p => (around.files.append p .empty).mapError .trouble
    | none => pure around.files
  return { settings, layers, rules, least, logFile, files }

def Session.isOn (s : Session) (key : String) : Bool := ((s.layers.get? key).map Value.isSet).getD false

end FolderTag.Command
