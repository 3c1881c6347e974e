import FolderTag.Transform.Recipe
import FolderTag.Transform.Stage

/-! # Pipelines

Stages run one after another, each on what the ones before made. A failing stage leaves the text as
it was and may end the run. -/

namespace FolderTag.Transform

open FolderTag.Document FolderTag.Log

/-- What became of one stage of a run. -/
structure StageReport where
  name : String
  error : Option String
deriving Repr, DecidableEq

/-- What came out of a run. -/
structure Report where
  content : String
  stages : List StageReport
  /-- Whether the run ended at its first failure. -/
  halting : Bool
deriving Repr, DecidableEq

namespace Report

def error (r : Report) : Option String := r.stages.findSome? (·.error)

def success (r : Report) : Bool := r.error.isNone

/-- How many stages were tried. -/
def applied (r : Report) : Nat := r.stages.length

/-- Whether a failure ended the run. -/
def halted (r : Report) : Bool := !r.success && r.halting

end Report

/-- Runs stages on a text. With `halting`, nothing runs behind a failing stage. -/
def runStages (halting : Bool) : List Stage → String → Traced Report
  | [], text => return { content := text, stages := [], halting }
  | s :: rest, text =>
      if s.enabled then do
        let r ← s.run text
        let report : StageReport := { name := s.name, error := r.error }
        if r.error.isSome && halting then return { content := text, stages := [report], halting }
        else do
          let next ← runStages halting rest r.content
          return { next with stages := report :: next.stages }
      else runStages halting rest text

namespace Recipe

/-- The stages of a recipe in their fixed order. -/
def stages (r : Recipe) (forTag : Bool) : List Stage :=
  [Stage.trim "trim"] ++
    (if r.stripsEmoji then [Stage.emoji "emoji"] else []) ++
    (if r.stripsNumber then [Stage.number "number_prefix"] else []) ++
    (match r.converts? with
      | some k => [Stage.convention "case" k]
      | none => []) ++
    (if r.rewrites.isEmpty then [] else [Stage.rewrites "custom_regex" r.rewrites]) ++
    (if forTag then [Stage.tagChars "tag_chars"] else []) ++
    [Stage.trim "final_trim"]

def run (r : Recipe) (forTag : Bool) (text : String) : Traced Report :=
  runStages true (r.stages forTag) text

/-- Transforms a text by a recipe. Where a stage fails, the result is what the stages before it made,
or with `preserve` the text itself. -/
def apply (r : Recipe) (forTag preserve : Bool) (text : String) : Traced String := do
  let report ← r.run forTag text
  match report.error with
  | none => return report.content
  | some e =>
      log .warning "Transform pipeline failed"
        [("error", .text e), ("preserve_on_error", .bool preserve)]
      return if preserve then text else report.content

/-- Transforms a folder name or path into the form it has in a tag. -/
def folderToTag (r : Recipe) (preserve : Bool) (text : String) : Traced String :=
  r.apply true preserve text

/-- Transforms a tag into the form it has in a folder path. -/
def tagToFolder (r : Recipe) (preserve : Bool) (text : String) : Traced String :=
  r.apply false preserve text

end Recipe

end FolderTag.Transform
