import FolderTag.Rule.Basic

/-! # Rules for a direction -/

namespace FolderTag.Matching

open FolderTag.Document FolderTag.Rule

def isApplicable (r : Rule) (d : Direction) : Bool := r.direction = some .both || r.direction = some d

def readDirection (v : Value) : Except Misuse Direction :=
  match (Choice.ofValue? v : Option Direction) with
  | some d => .ok d
  | none => .error (.notAChoice v (Choice.title Direction))

/-- The enabled rules with a pattern on a side that may be used in a direction. -/
def usableRules (side : Side) (d : Direction) (rules : List Rule) : List Rule :=
  rules.filter fun r =>
    r.enabled.isSet && (r.endpoint side).usedPattern?.isSome && isApplicable r d

def folderRules (rules : List Rule) : List Rule := usableRules .folder .folderToTag rules

def tagRules (rules : List Rule) : List Rule := usableRules .tag .tagToFolder rules

end FolderTag.Matching
