import FolderTag.Document.Yaml.Token
import FolderTag.Files.Tree
import FolderTag.Rule.Violation

/-! # Why settings are refused -/

namespace FolderTag.Settings

open FolderTag.Document FolderTag.Files FolderTag.Rule

/-- What outcomes are numbered by. -/
inductive Code where
  | success
  | invalidInput
  | notFound
  | conflict
  | internalError
deriving Repr, DecidableEq

namespace Code

/-- The codes in the order of their numbers. -/
def all : List Code := [.success, .invalidInput, .notFound, .conflict, .internalError]

def number : Code → Nat
  | .success => 0
  | .invalidInput => 1
  | .notFound => 2
  | .conflict => 4
  | .internalError => 6

def name : Code → String
  | .success => "SUCCESS"
  | .invalidInput => "INVALID_INPUT"
  | .notFound => "NOT_FOUND"
  | .conflict => "CONFLICT"
  | .internalError => "INTERNAL_ERROR"

end Code

/-- Why settings are refused. -/
inductive Refusal where
  | violation (v : Violation)
  | unknownKeys (names : List String)
  | badRule (index : Nat) (v : Violation)
  | noSettingsFile (path : String)
  | noConfigFile (path : String)
  | badJson (path detail : String)
  | badYaml (path : String) (cause : Yaml.Cause)
  | unreadable (path detail : String)
  | unloadable (path detail : String)
  | unwritable (path detail : String)
  | noSettings (path : String)
  | noConfig (path : String)
  | wrongKind (expected : List String) (key kind : String)

namespace Refusal

def message : Refusal → String
  | .violation v => v.message
  | .unknownKeys names => "Unknown settings key(s): " ++ commaList names
  | .badRule index v => "Invalid rule at index " ++ toString index ++ ": " ++ v.message
  | .noSettingsFile path => "Settings file not found: " ++ path
  | .noConfigFile path => "Config file not found: " ++ path
  | .badJson path detail => "JSON parse error in " ++ path ++ ": " ++ detail
  | .badYaml path cause => "YAML parse error in " ++ path ++ ": " ++ cause.message
  | .unreadable path detail => "Error reading " ++ path ++ ": " ++ detail
  | .unloadable path detail => "Error loading config " ++ path ++ ": " ++ detail
  | .unwritable path detail => "Error writing " ++ path ++ ": " ++ detail
  | .noSettings path => "Invalid settings format in " ++ path
  | .noConfig path => "Invalid config format in " ++ path
  | .wrongKind expected key kind =>
      "Expected " ++ " or ".intercalate expected ++ " for " ++ key ++ ", got " ++ kind

def codeOf (v : Violation) : Code := if v.isConflict then .conflict else .invalidInput

def code : Refusal → Code
  | .violation v => codeOf v
  | .badRule _ v => codeOf v
  | .noSettingsFile _ | .noConfigFile _ => .notFound
  | .unreadable .. | .unloadable .. | .unwritable .. => .internalError
  | _ => .invalidInput

end Refusal

/-- Why no settings come out of a document. -/
inductive Fault where
  | refusal (r : Refusal)
  | misuse (m : Misuse)
  /-- A text of a document that has no value. -/
  | noValue (why : Yaml.NoValue)
  /-- Bytes that are no text. -/
  | notText

def refuse {α : Type} (r : Refusal) : Except Fault α := .error (.refusal r)

end FolderTag.Settings
