import FolderTag.Pattern.Dialect
import FolderTag.Pattern.FlagText
import FolderTag.Pattern.Glob
import FolderTag.Regex.Expression

/-! # Patterns

A stored pattern is a glob or a regular expression in the ECMAScript dialect. Globs have to match a
whole text, regular expressions are searched in it. -/

namespace FolderTag.Pattern

/-- Why a pattern cannot be used. -/
inductive Refusal where
  /-- The flag text holds an unknown or repeated letter. -/
  | flags (text : String)
  /-- The pattern is malformed; `source` is the text that was read. -/
  | malformed (source : String) (cause : Regex.Cause) (position : Option Nat)
  /-- A repetition count is too large to be counted. -/
  | repetitionTooLarge
  /-- The pattern asks for two alphabets at once. -/
  | conflictingAlphabets
deriving Repr, DecidableEq

namespace Refusal

def message : Refusal → String
  | .flags text => "Invalid regular expression flags '" ++ text ++ "'"
  | .malformed source cause position => Regex.malformedMessage source cause position
  | .repetitionTooLarge => "the repetition number is too large"
  | .conflictingAlphabets => "ASCII and UNICODE flags are incompatible"

/-- Whether a refusal counts as an invalid pattern. The others interrupt whatever asked. -/
def isInvalid : Refusal → Bool
  | .flags _ => true
  | .malformed .. => true
  | .repetitionTooLarge => false
  | .conflictingAlphabets => false

/-- The refusal for an error of the compiler. -/
def ofError (source : String) : Regex.Error → Refusal
  | .malformed cause position => .malformed source cause position
  | .repetitionTooLarge => .repetitionTooLarge
  | .conflictingAlphabets => .conflictingAlphabets

end Refusal

/-- The two kinds of pattern. -/
inductive Kind where
  | glob
  | regex
deriving Repr, DecidableEq

/-- A pattern ready to be used. -/
structure Entry where
  pattern : String
  kind : Kind
  expression : Regex.Expression
  flags : String
deriving Repr, DecidableEq

def flagChoice (flags : String) : Except Refusal FlagChoice :=
  match readFlags? flags with
  | some choice => .ok choice
  | none => .error (.flags flags)

def compileSource (source : String) (switches : Regex.Flags) : Except Refusal Regex.Expression :=
  (Regex.compile source switches).mapError (Refusal.ofError source)

/-- The source of the regular expression that a stored pattern of the ECMAScript dialect means. -/
def regexSource (pattern : String) : String := restrictToAscii (translate pattern)

/-- Compiles a pattern as a regular expression, whatever it looks like. -/
def compileRegex (pattern flags : String) : Except Refusal Regex.Expression := do
  let choice ← flagChoice flags
  compileSource (regexSource pattern) choice.switches

def compileGlob (pattern flags : String) : Except Refusal Regex.Expression := do
  let choice ← flagChoice flags
  compileSource (Glob.source pattern) choice.switches

/-- Compiles a pattern as what it looks like. -/
def compile (pattern flags : String) : Except Refusal Entry := do
  if isGlob pattern then
    return { pattern, kind := .glob, expression := ← compileGlob pattern flags, flags }
  else
    return { pattern, kind := .regex, expression := ← compileRegex pattern flags, flags }

/-- The first match of an entry in a text: a glob has to match all of it. -/
def Entry.search (e : Entry) (text : String) : Option Regex.Match :=
  match e.kind with
  | .glob => e.expression.fullMatch text.toList
  | .regex => e.expression.search text.toList

end FolderTag.Pattern
