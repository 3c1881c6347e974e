import FolderTag.Document.Misuse
import FolderTag.Pattern.Basic

/-! # Interruptions

What stops a computation on stored values altogether, where an invalid pattern only makes it go
on without. -/

namespace FolderTag.Pattern

open FolderTag.Document

/-- Why a computation on stored values stops. -/
inductive Interruption where
  /-- A stored value is not what it is used for. -/
  | misuse (cause : Misuse)
  /-- A pattern is refused for a reason that does not make it invalid. -/
  | refusal (cause : Refusal)

def Interruption.message : Interruption → String
  | .misuse m => m.message
  | .refusal r => r.message

/-- A check of stored values as part of a larger computation. -/
def checkStored {α : Type} (r : Except Misuse α) : Except Interruption α := r.mapError .misuse

/-- The flag text that a stored value holds; a value that is not set stands for `fallback`. -/
def storedFlags (flags : Value) (fallback : String) : Except Misuse String :=
  if flags.isSet then do
    match ← flags.asKey with
    | .text s => .ok s
    | v => .error (.notIterable v.fullKind)
  else .ok fallback

end FolderTag.Pattern
