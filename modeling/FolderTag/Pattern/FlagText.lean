import FolderTag.Regex.Flags

/-! # Flag texts

Flags are stored as a text of letters, each at most once. -/

namespace FolderTag.Pattern

/-- What a flag text asks for: switches of the matcher, and whether all matches are replaced. -/
structure FlagChoice where
  switches : Regex.Flags := .none
  replaceAll : Bool := false
deriving Repr, DecidableEq

/-- Adds one letter. Unicode and sticky matching change nothing. -/
def FlagChoice.add? (choice : FlagChoice) : Char → Option FlagChoice
  | 'i' => some { choice with switches := { choice.switches with ignoreCase := true } }
  | 'm' => some { choice with switches := { choice.switches with multiline := true } }
  | 's' => some { choice with switches := { choice.switches with dotAll := true } }
  | 'g' => some { choice with replaceAll := true }
  | 'u' => some choice
  | 'y' => some choice
  | _ => none

/-- Reads the letters that are left, where `seen` holds those before. -/
def readFlagsAfter (seen : List Char) (choice : FlagChoice) : List Char → Option FlagChoice
  | [] => some choice
  | c :: cs =>
      if c ∈ seen then none
      else match choice.add? c with
        | none => none
        | some choice => readFlagsAfter (c :: seen) choice cs

/-- Reads a flag text; an unknown or repeated letter is refused. -/
def readFlags? (flags : String) : Option FlagChoice := readFlagsAfter [] {} flags.toList

end FolderTag.Pattern
