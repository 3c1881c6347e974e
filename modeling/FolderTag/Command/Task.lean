import FolderTag.Command.Session
import FolderTag.Mapping.Mapper
import FolderTag.Rule.Validation

/-! # Tasks

What is printed for each task. -/

namespace FolderTag.Command

open FolderTag.Document FolderTag.Log FolderTag.Matching FolderTag.Mapping FolderTag.Rule
  FolderTag.Transform

/-- Lines for the two outputs, and the exit code. -/
structure Printed where
  exit : Nat := 0
  out : List String := []
  err : List String := []
deriving Repr, DecidableEq

/-- The exit code where nothing is mapped or matched. -/
def exitNothing : Nat := 2

def exitError : Nat := 1

/-- A run that logs and may fail. -/
abbrev Run := Attempt Failure

/-- A mapping or matching as part of a run. -/
def running {α : Type} (x : Attempt Pattern.Interruption α) : Run α :=
  x.adapt fun
    | .misuse m => .misuse m
    | .refusal r => .refusal r

/-- The ids of matching rules with commas between them. Only texts can be joined. -/
def joinIds : Nat → List RuleMatch → Except Misuse (List String)
  | _, [] => .ok []
  | i, m :: ms =>
      match m.rule.id with
      | .text s => return s :: (← joinIds (i + 1) ms)
      | v => .error (.notTextItem i v.kind)

/-- The form of a stored value in a printed line. -/
def lineForm (v : Value) : Except Misuse String :=
  if v.isShowable then .ok v.shownString else .error .tooManyDigits

def conflictLine (group : List RuleMatch) : Except Misuse String := do
  let ids ← joinIds 0 group
  let priority ← match group.head? with
    | some m => lineForm m.priority
    | none => pure ""
  return "Warning: rules share priority " ++ priority ++ ": " ++ commaList ids

/-- Lines that show stored values as part of a run. -/
def printing {α : Type} (x : Except Misuse α) : Run α := Attempt.ofExcept (x.mapError .misuse)

def conflictLines (groups : List (List RuleMatch)) : Run (List String) :=
  printing (groups.mapM conflictLine)

def matchLine (m : RuleMatch) : Except Misuse String := do
  let id ← lineForm m.rule.id
  let priority ← lineForm m.priority
  return id ++ "\tpriority=" ++ priority ++ "\tconfidence=" ++
    String.ofList (Number.fixedText 3 m.confidence) ++ "\tpattern=" ++ m.pattern

def printMapped (m : Mapped) : Run Printed := do
  let warnings ← conflictLines m.conflicts
  match m.value with
  | some v => return { out := [v], err := warnings }
  | none => return { exit := exitNothing, err := warnings ++ [m.message] }

def Session.mapper (s : Session) : Mapper where
  rules := s.rules.rules
  includeDisabled := s.isOn "matching.include_disabled"
  preserve := s.isOn "transforms.preserve_on_error"

/-- The lines about one rule of a validation, and whether it is valid. -/
def validationLines (r : Rule) : Except Failure (Bool × List String) := do
  let problems ← r.problems.mapError .refusal
  let id ← (lineForm r.id).mapError .misuse
  match problems with
  | [] => return (true, ["OK\t" ++ id])
  | problems => return (false, problems.map fun p => "INVALID\t" ++ id ++ "\t" ++ p.message)

def validateRules (rules : List Rule) : Except Failure Printed := do
  let results ← rules.mapM validationLines
  let invalid := (results.filter fun (valid, _) => !valid).length
  let summary := toString rules.length ++ " rule(s), " ++ toString invalid ++ " invalid"
  return {
    exit := if invalid = 0 then 0 else exitError
    out := results.flatMap (·.2) ++ [summary] }

def recipeLines (id : String) (d : Direction) (r : Option Recipe) : List String :=
  let r := r.getD Recipe.plain
  let status := if r.isReversible then "reversible" else "not reversible"
  (id ++ "\t" ++ Choice.name d ++ "\t" ++ status) :: r.losses.map fun l => "  - " ++ l.message

def reversibilityLines (r : Rule) : Except Misuse (List String) := do
  let id ← lineForm r.id
  return recipeLines id .folderToTag r.tag.recipe ++ recipeLines id .tagToFolder r.folder.recipe

/-- Shows the best match, or every match and the conflicts. -/
def printMatches (s : Session) (side : Option Side) (all : Bool) (input : String) : Run Printed := do
  let side ← match side with
    | some side => pure side
    | none => throw (.misuse (.notAChoice (.list []) (Choice.title Side)))
  let text := if side = .tag then String.ofList (input.toList.dropWhile (· = '#')) else input
  let q : Query := { side := some side, includeDisabled := s.isOn "matching.include_disabled" }
  let rules := s.rules.rules
  if all then
    let found ← running (matchesOf text q rules)
    let lines ← printing (found.mapM matchLine)
    let warnings ← conflictLines (← running (findConflicts text q rules))
    return {
      exit := if found.isEmpty then exitNothing else 0
      out := lines
      err := warnings }
  else
    match ← running (findBest text q rules) with
    | some best => return { out := [← printing (matchLine best)] }
    | none => return { exit := exitNothing, err := ["No rule matches '" ++ text ++ "'"] }

def Session.perform (s : Session) (interrupted : Bool) : Task → Run Printed
  | .folderToTag path => do printMapped (← running (s.mapper.mapFolder path))
  | .tagToFolder tags => do printMapped (← running (s.mapper.mapTags tags))
  | .validate =>
      if interrupted then throw .interrupted
      else Attempt.ofExcept (validateRules s.rules.rules)
  | .matching side all input => printMatches s side all input
  | .reversible => do
      let lines ← printing (s.rules.rules.mapM reversibilityLines)
      return { out := lines.flatten }

end FolderTag.Command
