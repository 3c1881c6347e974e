/-! # Why a JSON text is refused -/

namespace FolderTag.Document.Json

/-- What is wrong with a JSON text. -/
inductive Cause where
  | byteOrderMark
  | expectedValue
  | expectedName
  | expectedColon
  | expectedComma
  | extraData
  | unterminatedString
  | controlCharacter
  | badEscape
  | badCodeEscape
deriving Repr, DecidableEq

def Cause.message : Cause → String
  | .byteOrderMark => "Unexpected UTF-8 BOM (decode using utf-8-sig)"
  | .expectedValue => "Expecting value"
  | .expectedName => "Expecting property name enclosed in double quotes"
  | .expectedColon => "Expecting ':' delimiter"
  | .expectedComma => "Expecting ',' delimiter"
  | .extraData => "Extra data"
  | .unterminatedString => "Unterminated string starting at"
  | .controlCharacter => "Invalid control character at"
  | .badEscape => "Invalid \\escape"
  | .badCodeEscape => "Invalid \\uXXXX escape"

/-- Why no value comes out of a JSON text. -/
inductive Failure where
  /-- The text is malformed at an offset. -/
  | malformed (cause : Cause) (offset : Nat)
  /-- A whole number has too many digits. -/
  | tooManyDigits
deriving Repr, DecidableEq

/-- The wording of a malformed text: the cause with line, column and offset. -/
def malformedMessage (text : List Char) (cause : Cause) (offset : Nat) : String :=
  let before := text.take offset
  let line := before.count '\n' + 1
  let column := (before.reverse.takeWhile (· != '\n')).length + 1
  cause.message ++ ": line " ++ toString line ++ " column " ++ toString column ++
    " (char " ++ toString offset ++ ")"

end FolderTag.Document.Json
