import FolderTag.Transform.Convention
import FolderTag.Transform.Emoji
import FolderTag.Transform.NumberPrefix
import FolderTag.Transform.Rewrite

/-! # Stages

A stage rewrites a text or fails with a message. A disabled stage does neither. -/

namespace FolderTag.Transform

open FolderTag.Document FolderTag.Log

/-- A stage of a pipeline. -/
structure Stage where
  /-- The sort of stage. -/
  sort : String
  name : String
  enabled : Bool
  transform : String → Attempt String String

namespace Stage

/-- A stage under a name, or under the name of its sort where the name is missing. -/
def make (sort name : String) (transform : String → Attempt String String) : Stage where
  sort
  name := if name.isEmpty then sort else name
  enabled := true
  transform

/-- A stage that cannot fail. -/
def ofChars (sort name : String) (f : List Char → List Char) : Stage :=
  make sort name fun s => pure (String.ofList (f s.toList))

def trim (name : String) : Stage := ofChars "TrimStage" name Text.trim

def emoji (name : String) : Stage := ofChars "EmojiStage" name stripEmoji

def number (name : String) : Stage := ofChars "NumberPrefixStage" name stripNumber

def tagChars (name : String) : Stage := ofChars "TagSanitizeStage" name dropTagBreakers

/-- Writes every path segment in a convention. -/
def convention (name : String) (k : Convention) : Stage :=
  ofChars "CaseStage" name k.applyToPath

def rewrites (name : String) (rs : List Rewrite) : Stage :=
  make "RegexStage" name fun s => (Rewrite.applyAll rs s).adapt fun i => i.message

def listing (s : Stage) : String :=
  "<" ++ s.sort ++ " name=" ++ s.name ++ (if s.enabled then " enabled>" else " disabled>")

/-- What comes out of a stage: the text it made, or the text it was given. -/
structure Result where
  content : String
  error : Option String := none
  skipped : Bool := false
  name : String
deriving Repr, DecidableEq

def run (s : Stage) (text : String) : Traced Result :=
  if s.enabled then do
    match ← ExceptT.run (s.transform text) with
    | .ok content => return { content, name := s.name }
    | .error e => return { content := text, error := some (s.name ++ ": " ++ e), name := s.name }
  else return { content := text, skipped := true, name := s.name }

end Stage

end FolderTag.Transform
