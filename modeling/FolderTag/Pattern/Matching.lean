import FolderTag.Log.Traced
import FolderTag.Pattern.Interruption

/-! # Matching

Whether a text matches a stored pattern. A pattern that cannot be compiled matches nothing. -/

namespace FolderTag.Pattern

open FolderTag.Document FolderTag.Log

/-- Whether a text matches a pattern. -/
def isMatch (text pattern flags : String) : Attempt Interruption Bool :=
  match compile pattern flags with
  | .ok entry => pure (entry.search text).isSome
  | .error refusal =>
      if refusal.isInvalid then do
        log .debug "Pattern failed to compile"
          [("pattern", .text pattern), ("error", .text refusal.message)]
        return false
      else throw (.refusal refusal)

/-- Whether a stored text matches a stored pattern; what is no text matches nothing. -/
def isStoredMatch (text pattern flags : Value) : Attempt Interruption Bool :=
  match text, pattern with
  | .text text, .text pattern => do
      let flags ← Attempt.ofExcept (checkStored (storedFlags flags ""))
      isMatch text pattern flags
  | _, pattern => do
      log .debug "Pattern or input is not a string" [("pattern", .text pattern.quotedString)]
      return false

end FolderTag.Pattern
