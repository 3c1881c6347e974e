import FolderTag.Matching.Confidence
import FolderTag.Number.Fixed
import FolderTag.Pattern.Matching
import FolderTag.Rule.Basic

/-! # Evaluation of rules

Whether a rule applies to an input, and with what confidence. -/

namespace FolderTag.Matching

open FolderTag.Document FolderTag.Log FolderTag.Pattern FolderTag.Rule

/-- What is matched, and which rules may take part. -/
structure Query where
  /-- The side that is matched; where it is missing, the tag pattern is. -/
  side : Option Side
  direction : Option Direction := none
  includeDisabled : Bool := false
deriving Repr, DecidableEq

def Query.ofValues (side direction : Value) (includeDisabled : Bool) : Except Fault Query := do
  let side ← readChoice Side side
  let direction ← readChoice Direction direction
  return { side, direction, includeDisabled }

/-- The end of a rule that a query looks at. -/
def Query.endpoint (q : Query) (r : Rule) : Endpoint := r.endpoint (q.side.getD .tag)

/-- Whether a direction is one that a query asks for. -/
def Query.admits (q : Query) (d : Option Direction) : Bool :=
  q.direction.isNone || d = some .both || d = q.direction

/-- A rule that applies. -/
structure RuleMatch where
  rule : Rule
  side : Option Side
  pattern : String
  confidence : Float

def choiceName {α : Type} [Choice α] : Option α → Except Interruption Value
  | some a => .ok (Choice.value a)
  | none => .error (.misuse (.noPart "NoneType" "value"))

/-- Evaluates one rule against a text. -/
def evaluate (text : String) (q : Query) (r : Rule) : Attempt Interruption (Option RuleMatch) :=
  if !r.enabled.isSet && !q.includeDisabled then do
    log .debug "Rule skipped: disabled" [("rule", r.id)]
    return none
  else if !q.admits r.direction then do
    let direction ← Attempt.ofExcept (choiceName r.direction)
    log .debug "Rule skipped: direction" [("rule", r.id), ("direction", direction)]
    return none
  else
    match (q.endpoint r).usedPattern? with
    | none => do
        let side ← Attempt.ofExcept (choiceName q.side)
        log .debug "Rule skipped: no pattern" [("rule", r.id), ("match_type", side)]
        return none
    | some pattern => do
        if ← isMatch text pattern "" then
          let c := confidence text pattern
          log .debug "Rule matched"
            [("rule", r.id), ("pattern", .text pattern), ("confidence", .float (Number.roundTo 3 c))]
          return some { rule := r, side := q.side, pattern, confidence := c }
        else return none

/-- The matches among rules, in the order of the rules. -/
def matchesOf (text : String) (q : Query) : List Rule → Attempt Interruption (List RuleMatch)
  | [] => return []
  | r :: rest => do
      let first ← evaluate text q r
      let others ← matchesOf text q rest
      return first.toList ++ others

end FolderTag.Matching
