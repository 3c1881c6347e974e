import FolderTag.Text.Quoted
import FolderTag.Regex.Syntax

/-! # Why a pattern is refused

A pattern is refused for one cause, at one position where there is one. The wording of every cause
stands in `Cause.message`. -/

namespace FolderTag.Regex

/-- What is wrong with a pattern. -/
inductive Cause where
  | danglingEscape
  | incompleteEscape (escape : String)
  | badEscape (escape : String)
  | octalTooLarge (escape : String)
  | missingNameBrace
  | missingName (what : String)
  | unterminatedName (terminator : Char)
  | unknownCharacterName (name : String)
  | invalidReference (group : Nat)
  | openReference
  | referenceIntoLookbehind
  | unterminatedSet
  | badRange (low high : String)
  | minAboveMax
  | nothingToRepeat
  | multipleRepeat
  | unexpectedEnd
  | badGroupName (name : String)
  | unknownGroupName (name : String)
  | unknownExtension (text : String)
  | unterminatedComment
  | unterminatedGroup
  | redefinedName (name : String) (group previous : Nat)
  | badGroupNumber
  | tooManyBranches
  | lateGlobalFlags
  | unknownFlag
  | missingFlagEnd
  | missingFlag
  | missingColon
  | localeFlag
  | clashingAlphabets
  | globalFlagOn
  | globalFlagOff
  | alphabetOff
  | flagOnAndOff
  | unbalanced
  | lookbehindTooLong
  | lookbehindNotFixed
  | unsupportedRepeat (greed : Greed)
deriving Repr, DecidableEq

def Cause.message : Cause → String
  | .danglingEscape => "bad escape (end of pattern)"
  | .incompleteEscape e => "incomplete escape " ++ e
  | .badEscape e => "bad escape " ++ e
  | .octalTooLarge e => "octal escape value " ++ e ++ " outside of range 0-0o377"
  | .missingNameBrace => "missing \x7b"
  | .missingName what => "missing " ++ what
  | .unterminatedName c => "missing " ++ c.toString ++ ", unterminated name"
  | .unknownCharacterName n => "undefined character name " ++ Text.quotedString n
  | .invalidReference g => "invalid group reference " ++ toString g
  | .openReference => "cannot refer to an open group"
  | .referenceIntoLookbehind =>
      "cannot refer to group defined in the same lookbehind subpattern"
  | .unterminatedSet => "unterminated character set"
  | .badRange low high => "bad character range " ++ low ++ "-" ++ high
  | .minAboveMax => "min repeat greater than max repeat"
  | .nothingToRepeat => "nothing to repeat"
  | .multipleRepeat => "multiple repeat"
  | .unexpectedEnd => "unexpected end of pattern"
  | .badGroupName n => "bad character in group name " ++ Text.quotedString n
  | .unknownGroupName n => "unknown group name " ++ Text.quotedString n
  | .unknownExtension t => "unknown extension ?" ++ t
  | .unterminatedComment => "missing ), unterminated comment"
  | .unterminatedGroup => "missing ), unterminated subpattern"
  | .redefinedName n g p =>
      "redefinition of group name " ++ Text.quotedString n ++ " as group " ++ toString g ++
        "; was group " ++ toString p
  | .badGroupNumber => "bad group number"
  | .tooManyBranches => "conditional backref with more than two branches"
  | .lateGlobalFlags => "global flags not at the start of the expression"
  | .unknownFlag => "unknown flag"
  | .missingFlagEnd => "missing -, : or )"
  | .missingFlag => "missing flag"
  | .missingColon => "missing :"
  | .localeFlag => "bad inline flags: cannot use 'L' flag with a str pattern"
  | .clashingAlphabets => "bad inline flags: flags 'a', 'u' and 'L' are incompatible"
  | .globalFlagOn => "bad inline flags: cannot turn on global flag"
  | .globalFlagOff => "bad inline flags: cannot turn off global flag"
  | .alphabetOff => "bad inline flags: cannot turn off flags 'a', 'u' and 'L'"
  | .flagOnAndOff => "bad inline flags: flag turned on and off"
  | .unbalanced => "unbalanced parenthesis"
  | .lookbehindTooLong => "looks too much behind"
  | .lookbehindNotFixed => "look-behind requires fixed-width pattern"
  | .unsupportedRepeat .greedy => "internal: unsupported template operator MAX_REPEAT"
  | .unsupportedRepeat .reluctant => "internal: unsupported template operator MIN_REPEAT"
  | .unsupportedRepeat .possessive =>
      "internal: unsupported template operator POSSESSIVE_REPEAT"

/-- Why no expression comes out of a pattern. -/
inductive Error where
  /-- The pattern is malformed, at a position when the cause has one. -/
  | malformed (cause : Cause) (position : Option Nat)
  /-- A repetition count of `2 ^ 32 - 1` or more. -/
  | repetitionTooLarge
  /-- Both alphabets are chosen for the whole pattern. -/
  | conflictingAlphabets
deriving Repr, DecidableEq

/-- The line and column of a position, both counted from one. -/
def lineAndColumn (text : List Char) (position : Nat) : Nat × Nat :=
  let before := text.take position
  (before.count '\n' + 1, (before.reverse.takeWhile (· != '\n')).length + 1)

/-- The wording of a malformed pattern: the cause, its position, and line and column when the
pattern has several lines. -/
def malformedMessage (pattern : String) (cause : Cause) (position : Option Nat) : String :=
  match position with
  | none => cause.message
  | some p =>
      let place := cause.message ++ " at position " ++ toString p
      let text := pattern.toList
      if '\n' ∈ text then
        let (line, column) := lineAndColumn text p
        place ++ " (line " ++ toString line ++ ", column " ++ toString column ++ ")"
      else place

end FolderTag.Regex
