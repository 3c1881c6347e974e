import FolderTag.Pattern.Basic
import FolderTag.Rule.Basic

/-! # Rule validation

Reports everything that is wrong with a rule. A rule with problems may still be matched; it only
does not do what its author wanted. -/

namespace FolderTag.Rule

open FolderTag.Document FolderTag.Pattern

/-- A problem of a rule. -/
inductive Problem where
  | missingId
  | missingName
  | negativePriority
  | missingPattern (side : Side)
  | invalidPattern (side : Side) (refusal : Refusal)
deriving Repr, DecidableEq

def Problem.message : Problem → String
  | .missingId => "Rule must have a valid ID"
  | .missingName => "Rule must have a name"
  | .negativePriority => "Priority must be non-negative"
  | .missingPattern .folder => "Folder-to-tag rules must have a folder pattern"
  | .missingPattern .tag => "Tag-to-folder rules must have a tag pattern"
  | .invalidPattern .folder refusal => "Invalid folder pattern: " ++ refusal.message
  | .invalidPattern .tag refusal => "Invalid tag pattern: " ++ refusal.message

/-- Whether a value says nothing: it is no text, or a blank one. -/
def isBlankValue : Value → Bool
  | .text s => (Text.trim s.toList).isEmpty
  | _ => true

/-- Whether a value is a whole number from zero on. -/
def isPriority (v : Value) : Bool :=
  match v.whole? with
  | some n => 0 ≤ n
  | none => false

/-- The sides that a direction needs patterns for. -/
def neededSides : Option Direction → List Side
  | some .folderToTag => [.folder]
  | some .tagToFolder => [.tag]
  | some .both => [.folder, .tag]
  | none => []

/-- What is wrong with the pattern of one side. A refusal that does not make a pattern invalid
interrupts the validation. -/
def patternProblems (side : Side) (e : Endpoint) : Except Refusal (List Problem) :=
  match e.usedPattern? with
  | none => .ok []
  | some p =>
      match Pattern.compile p "" with
      | .ok _ => .ok []
      | .error refusal =>
          if refusal.isInvalid then .ok [.invalidPattern side refusal] else .error refusal

/-- Everything that is wrong with a rule. -/
def problems (r : Rule) : Except Refusal (List Problem) := do
  let fieldProblems :=
    (if isBlankValue r.id then [Problem.missingId] else []) ++
    (if isBlankValue r.name then [Problem.missingName] else []) ++
    (if isPriority r.priority then [] else [Problem.negativePriority])
  let missing := ((neededSides r.direction).filter fun s =>
    (r.endpoint s).usedPattern?.isNone).map Problem.missingPattern
  return fieldProblems ++ missing ++
    (← patternProblems .folder r.folder) ++ (← patternProblems .tag r.tag)

def isValidPattern : Value → Except Refusal Bool
  | .text p =>
      if p = "" then .ok false
      else match Pattern.compile p "" with
        | .ok _ => .ok true
        | .error refusal => if refusal.isInvalid then .ok false else .error refusal
  | _ => .ok false

end FolderTag.Rule
