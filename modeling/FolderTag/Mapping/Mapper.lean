import FolderTag.Mapping.Conversion
import FolderTag.Matching.Selection
import FolderTag.Text.Canonical

/-! # Mapping with a rule set

The best matching rule makes a tag of a folder path, or a folder path of one of several tags. -/

namespace FolderTag.Mapping

open FolderTag.Document FolderTag.Log FolderTag.Matching FolderTag.Pattern

/-- Rules and how they are used. -/
structure Mapper where
  rules : List Rule
  includeDisabled : Bool := false
  /-- Whether a text stays as it is where a transformation fails. -/
  preserve : Bool := false

/-- What came out of a mapping. -/
structure Mapped where
  value : Option String := none
  rule : Option Rule := none
  message : String
  conflicts : List (List RuleMatch) := []

def Mapped.success (m : Mapped) : Bool := m.value.isSome

/-- A path in composed form without slashes around it. -/
def normalPath (path : String) : String :=
  String.ofList (Text.trimWhile (· == '/') (Text.canonical path.toList))

/-- A tag in composed form without white space around it and without its mark. -/
def normalTag (tag : String) : String :=
  String.ofList (stripHash (Text.trim (Text.canonical tag.toList)))

def ruleLabel (r : Rule) : String := "Rule '" ++ r.name.shownString ++ "'"

namespace Mapper

/-- What the mapper looks for on a side. -/
def query (m : Mapper) (side : Side) (d : Direction) : Query :=
  { side := some side, direction := some d, includeDisabled := m.includeDisabled }

def mapNormalPath (m : Mapper) (path : String) : Attempt Interruption Mapped := do
  let q := m.query .folder .folderToTag
  match ← findBest path q m.rules with
  | none =>
      log .debug "No rule matches folder" []
      return { message := "No rule matches folder '" ++ path ++ "'" }
  | some best =>
      let conflicts ← findConflicts path q m.rules
      match ← tagOfFolder best.rule m.preserve path with
      | none =>
          return {
            rule := some best.rule
            message := ruleLabel best.rule ++ " produced no tag for '" ++ path ++ "'"
            conflicts }
      | some tag =>
          log .debug "Mapped folder to tag" [("tag", .text tag), ("rule", best.rule.id)]
          return {
            value := some tag
            rule := some best.rule
            message := ruleLabel best.rule ++ " maps '" ++ path ++ "' to '" ++ tag ++ "'"
            conflicts }

/-- Maps a folder path to a tag. -/
def mapFolder (m : Mapper) (path : String) : Attempt Interruption Mapped :=
  let path := normalPath path
  Attempt.within [("input", .text path)] (m.mapNormalPath path)

/-- Maps one tag in normal form, unless nothing matches it or nothing comes out. -/
def mapNormalTag (m : Mapper) (tag : String) : Attempt Interruption (Option Mapped) := do
  let q := m.query .tag .tagToFolder
  match ← findBest tag q m.rules with
  | none =>
      log .debug "No rule matches tag" []
      return none
  | some best =>
      match ← folderOfTag best.rule m.preserve tag with
      | none => return none
      | some folder =>
          log .debug "Mapped tag to folder" [("folder", .text folder), ("rule", best.rule.id)]
          return some {
            value := some folder
            rule := some best.rule
            message := ruleLabel best.rule ++ " maps '#" ++ tag ++ "' to '" ++ folder ++ "'"
            conflicts := ← findConflicts tag q m.rules }

/-- The tags that say something, in normal form. -/
def spokenTags (tags : List String) : List String := (tags.map normalTag).filter (· ≠ "")

/-- Maps the first of some tags in normal form that can be mapped. -/
def mapFirst (m : Mapper) : List String → Attempt Interruption (Option Mapped)
  | [] => return none
  | tag :: rest => do
      match ← Attempt.within [("input", .text tag)] (m.mapNormalTag tag) with
      | some mapped => return some mapped
      | none => mapFirst m rest

/-- What is said where no tag can be mapped. -/
def noFolderMessage (tags : List String) : String :=
  if tags.isEmpty then "No tags to map"
  else "No rule maps tag(s): " ++ ", ".intercalate (tags.map ("#" ++ ·))

/-- Maps a list of tags to the folder of the first one that has one. -/
def mapTags (m : Mapper) (tags : List String) : Attempt Interruption Mapped := do
  let spoken := spokenTags tags
  match ← m.mapFirst spoken with
  | some mapped => return mapped
  | none => return { message := noFolderMessage spoken }

end Mapper

end FolderTag.Mapping
