import FolderTag.Log.Traced
import FolderTag.Pattern.Interruption
import FolderTag.Transform.Template

/-! # Rewrites

A stored rewrite replaces what a regular expression matches. A rewrite whose pattern is invalid is
left out. -/

namespace FolderTag.Transform

open FolderTag.Document FolderTag.Log FolderTag.Pattern

/-- A stored rewrite. Its parts should be texts; `flags` may be left out. -/
structure Rewrite where
  pattern : Value
  replacement : Value
  flags : Value := .null

/-- The flags of a rewrite that names none: every match is replaced. -/
def defaultFlags : String := "g"

/-- The text from `c` on with each match replaced. -/
def splice (c : Regex.Cursor) : List (Regex.Match × List Char) → List Char
  | [] => c.after
  | (m, new) :: rest => c.upTo m.start ++ new ++ splice m.stop rest

/-- Replaces the first match in a text, or all of them. -/
def replaceMatches (e : Regex.Expression) (replaceAll : Bool)
    (new : Regex.Match → Except Misuse (List Char)) (s : List Char) : Except Misuse (List Char) := do
  let found := e.allMatches s
  let chosen := if replaceAll then found else found.take 1
  return splice (.start s) (← chosen.mapM fun m => return (m, ← new m))

namespace Rewrite

/-- The compiled pattern of a rewrite and whether it replaces every match. -/
def compile (r : Rewrite) : Except Interruption (Regex.Expression × Bool) := do
  let pattern ← checkStored r.pattern.asKey
  let flags ← checkStored (storedFlags r.flags defaultFlags)
  let choice ← (flagChoice flags).mapError .refusal
  match pattern with
  | .text p => return (← (compileRegex p flags).mapError .refusal, choice.replaceAll)
  | v => throw (.misuse (.notText v.fullKind))

/-- The text with the matches of the compiled pattern replaced. -/
def replaced (r : Rewrite) (e : Regex.Expression) (replaceAll : Bool) (s : String) :
    Attempt Interruption String :=
  Attempt.ofExcept <| checkStored do
    let scope := GroupScope.ofExpression e
    return String.ofList (← replaceMatches e replaceAll (expandStored scope r.replacement) s.toList)

/-- The text as it is, with a warning. -/
def skipped (r : Rewrite) (message s : String) : Attempt Interruption String := do
  log .warning "Invalid regex pattern" [("pattern", r.pattern), ("error", .text message)]
  return s

def apply (r : Rewrite) (s : String) : Attempt Interruption String :=
  match r.compile with
  | .ok (e, replaceAll) => r.replaced e replaceAll s
  | .error (.refusal refusal) =>
      if refusal.isInvalid then r.skipped refusal.message s else throw (.refusal refusal)
  | .error i => throw i

def applyAll (rs : List Rewrite) (s : String) : Attempt Interruption String :=
  rs.foldlM (fun s r => r.apply s) s

end Rewrite

/-- What is wrong with a pattern, if anything is. A refusal that does not make the pattern invalid
interrupts the check. -/
def faultOf : Except Refusal Regex.Expression → Except Refusal (Option String)
  | .ok _ => .ok none
  | .error refusal => if refusal.isInvalid then .ok (some refusal.message) else .error refusal

/-- Checks a pattern as a regular expression without flags. -/
def patternFault? (pattern : String) : Except Refusal (Option String) :=
  faultOf (compileRegex pattern "")

/-! ## Captured groups -/

/-- The groups of the first match of a pattern. -/
structure Captures where
  texts : List (Option String)
  named : List (String × Option String)
deriving Repr, DecidableEq

def captures? (pattern flags text : String) : Attempt Interruption (Option Captures) :=
  match compileRegex pattern flags with
  | .ok e => pure <| (e.search text.toList).map fun m =>
      let part := fun g => (m.group? g).map String.ofList
      { texts := some (String.ofList m.whole) :: (List.range e.groupCount).map fun g => part (g + 1)
        named := e.names.map fun (name, g) => (name, part g) }
  | .error refusal =>
      if refusal.isInvalid then do
        log .warning "Invalid regex pattern"
          [("pattern", .text pattern), ("error", .text refusal.message)]
        return none
      else throw (.refusal refusal)

/-- Patterns for common layouts of folder names and tags, by name. -/
def commonPatterns : List (String × String) := [
  ("johnny_decimal", "^(\\d+)\\s*-\\s*(.+)$"),
  ("emoji_prefix", "^[\\U0001F000-\\U0001FAFF\\u2600-\\u27BF\\u2B00-\\u2BFF]\\s*(.+)$"),
  ("nested_path", "^([^/]+)/(.+)$"),
  ("tag_with_prefix", "^#([^/]+)/(.+)$"),
  ("wildcard_suffix", "^(.+)/\\*$"),
  ("any_depth", "\\*\\*/(.+)$")]

end FolderTag.Transform
