import FolderTag.Settings.Layers
import FolderTag.Settings.Refusal

/-! # Schemas

A schema says of which kind the settings under its keys have to be. Settings that it does not name
may be anything, and none has to be there. -/

namespace FolderTag.Settings

open FolderTag.Document

/-- What is expected of a value. -/
inductive Schema where
  /-- A value of one of these kinds. -/
  | kinds (names : List String)
  /-- A mapping whose entries are expected to be something in turn. -/
  | fields (parts : List (String × Schema))
deriving Inhabited

namespace Schema

/-- Whether a value is of a kind. A truth value is a whole number as well. -/
def isOfKind (v : Value) (name : String) : Bool :=
  v.kind = name || (name = "int" && v.kind = "bool")

mutual

/-- Checks a value under a key. -/
def check (key : String) : Schema → Value → Except Refusal Unit
  | .kinds names, v =>
      if names.any (isOfKind v) then .ok () else .error (.wrongKind names key v.kind)
  | .fields parts, .map entries => checkFields (key ++ ".") parts entries
  | .fields _, v => .error (.wrongKind ["dict"] key v.kind)

/-- Checks the entries of a mapping whose keys follow a beginning. -/
def checkFields (beginning : String) : List (String × Schema) → Entries → Except Refusal Unit
  | [], _ => .ok ()
  | (name, schema) :: rest, entries => do
      match Value.field? name entries with
      | some v => check (beginning ++ name) schema v
      | none => pure ()
      checkFields beginning rest entries

end

/-- The kinds of the settings that count. -/
def settings : List (String × Schema) := [
  ("version", .kinds ["str", "int", "float"]),
  ("rules", .kinds ["list"]),
  ("options", .kinds ["dict"]),
  ("logging", .fields [("level", .kinds ["str"]), ("file", .kinds ["str", "NoneType"])]),
  ("transforms", .fields [("preserve_on_error", .kinds ["bool"])]),
  ("matching", .fields [("include_disabled", .kinds ["bool"])])]

end Schema

/-- Checks all settings against the entries of a schema. -/
def Layers.validate (l : Layers) (schema : List (String × Schema)) : Except Fault Unit := do
  let entries ← l.merged.mapError .misuse
  (Schema.checkFields "" schema entries).mapError .refusal

end FolderTag.Settings
