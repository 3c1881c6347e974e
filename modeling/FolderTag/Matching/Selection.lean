import FolderTag.Matching.Evaluation

/-! # Selection among matches

The best match is the one with the lowest priority number and, among those, the highest confidence.
Matches that share a priority are in conflict. -/

namespace FolderTag.Matching

open FolderTag.Document FolderTag.Log FolderTag.Pattern

namespace RuleMatch

def priority (m : RuleMatch) : Value := m.rule.priority

/-- Whether a match is better than another. Priorities need an order between them. -/
def precedes (a b : RuleMatch) : Except Misuse Bool :=
  if a.priority.equal b.priority then .ok (b.confidence < a.confidence)
  else a.priority.before b.priority

end RuleMatch

/-- The best among `best` and the matches behind it; the first of those that are equally good. -/
def bestFrom (best : RuleMatch) : List RuleMatch → Except Misuse RuleMatch
  | [] => .ok best
  | m :: rest => do bestFrom (if ← m.precedes best then m else best) rest

def bestOf : List RuleMatch → Except Misuse (Option RuleMatch)
  | [] => .ok none
  | m :: rest => return some (← bestFrom m rest)

/-- Puts a match behind the group of its priority, or into a group of its own. -/
def addToGroups (m : RuleMatch) : List (List RuleMatch) → List (List RuleMatch)
  | [] => [[m]]
  | [] :: groups => [] :: addToGroups m groups
  | (first :: others) :: groups =>
      if first.priority.equal m.priority then (first :: others ++ [m]) :: groups
      else (first :: others) :: addToGroups m groups

/-- The matches by priority, in the order in which the priorities first come up. -/
def groupByPriority (ms : List RuleMatch) : Except Misuse (List (List RuleMatch)) :=
  ms.foldlM (fun groups m => do
    let _ ← m.priority.asKey
    return addToGroups m groups) []

/-- The groups of two or more matches that share a priority. -/
def conflictsOf (ms : List RuleMatch) : Except Misuse (List (List RuleMatch)) := do
  return (← groupByPriority ms).filter fun group => 1 < group.length

/-- The best match among rules. -/
def findBest (text : String) (q : Query) (rules : List Rule) :
    Attempt Interruption (Option RuleMatch) := do
  let found ← matchesOf text q rules
  Attempt.ofExcept (checkStored (bestOf found))

/-- The conflicts among rules. -/
def findConflicts (text : String) (q : Query) (rules : List Rule) :
    Attempt Interruption (List (List RuleMatch)) := do
  let found ← matchesOf text q rules
  Attempt.ofExcept (checkStored (conflictsOf found))

end FolderTag.Matching
