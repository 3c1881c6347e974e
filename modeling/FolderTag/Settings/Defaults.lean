import FolderTag.Document.Value

/-! # Default settings -/

namespace FolderTag.Settings

open FolderTag.Document

/-- The version of the layout of settings documents. -/
def layoutVersion : Value := .text "1.0"

def defaultOptions : List (String × Value) := [
  ("syncOnSave", .bool false),
  ("syncOnFileClose", .bool false),
  ("syncOnCreate", .bool true),
  ("syncOnRename", .bool true),
  ("showNotifications", .bool true),
  ("previewChanges", .bool false),
  ("debugMode", .bool false),
  ("handleFolderNotes", .bool false),
  ("moveAttachments", .bool false),
  ("defaultFolderForUntagged", .text "")]

/-- The settings that hold where nothing else is set. -/
def defaultSettings : List (String × Value) := [
  ("version", layoutVersion),
  ("rules", .list []),
  ("options", Value.ofFields defaultOptions),
  ("logging", Value.ofFields [("level", .text "WARNING"), ("file", .null)]),
  ("transforms", Value.ofFields [("preserve_on_error", .bool false)]),
  ("matching", Value.ofFields [("include_disabled", .bool false)])]

def knownKeys : List String := defaultSettings.map (·.1)

end FolderTag.Settings
