import FolderTag.Pattern.Basic

/-! # Remembered patterns

Compiled patterns are remembered under the arguments they were asked for with, the latest 512 of
each sort. Failures are not remembered. -/

namespace FolderTag.Pattern

/-- The number of results that are remembered. -/
def capacity : Nat := 512

/-- Results by what was asked for, the latest request first. -/
structure Recent (κ α : Type) where
  items : List (κ × α) := []
  hits : Nat := 0

namespace Recent

variable {κ α : Type} [DecidableEq κ]

def size (r : Recent κ α) : Nat := r.items.length

def find? (r : Recent κ α) (key : κ) : Option α :=
  (r.items.find? fun e => e.1 = key).map (·.2)

/-- Makes a result the latest one. -/
def touch (r : Recent κ α) (key : κ) (result : α) : Recent κ α :=
  { r with items := ((key, result) :: r.items.filter fun e => e.1 ≠ key).take capacity }

def hit (r : Recent κ α) (key : κ) (result : α) : Recent κ α :=
  { r.touch key result with hits := r.hits + 1 }

end Recent

/-- What a caller passes: a pattern and perhaps flags. A call without flags is a request of its
own. -/
structure Request where
  pattern : String
  flags : Option String
deriving Repr, DecidableEq

def Request.flagText (r : Request) : String := r.flags.getD ""

/-- The two memories. -/
structure Cache where
  entries : Recent Request Entry := {}
  expressions : Recent Request Regex.Expression := {}

namespace Cache

def empty : Cache := {}

def compileRegex (c : Cache) (r : Request) : Except Refusal Regex.Expression × Cache :=
  match c.expressions.find? r with
  | some e => (.ok e, { c with expressions := c.expressions.hit r e })
  | none =>
      match Pattern.compileRegex r.pattern r.flagText with
      | .ok e => (.ok e, { c with expressions := c.expressions.touch r e })
      | .error refusal => (.error refusal, c)

/-- Compiles a pattern that is not remembered. Only regular expressions go through the other
memory. -/
def compileAnew (c : Cache) (r : Request) : Except Refusal Entry × Cache :=
  if isGlob r.pattern then (Pattern.compile r.pattern r.flagText, c)
  else
    let (result, c) := c.compileRegex { r with flags := some r.flagText }
    (result.map fun expression =>
      { pattern := r.pattern, kind := .regex, expression, flags := r.flagText }, c)

/-- Compiles as what the pattern looks like. -/
def compile (c : Cache) (r : Request) : Except Refusal Entry × Cache :=
  match c.entries.find? r with
  | some e => (.ok e, { c with entries := c.entries.hit r e })
  | none =>
      match c.compileAnew r with
      | (.ok e, c) => (.ok e, { c with entries := c.entries.touch r e })
      | (.error refusal, c) => (.error refusal, c)

end Cache

end FolderTag.Pattern
