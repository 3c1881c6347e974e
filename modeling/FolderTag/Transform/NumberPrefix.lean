import FolderTag.Document.Choice
import FolderTag.Text.Blank

/-! # Number prefixes

Folder names may begin with a number: `01 - Projects`, `1. Projects` or `01 Projects`. -/

namespace FolderTag.Transform

open FolderTag.Document FolderTag.Text

/-- What is done with a number prefix. -/
inductive NumberMode where
  | keep
  | strip
  | extract
deriving Repr, DecidableEq

instance : Choice NumberMode where
  title := "NumberPrefixHandling"
  all := [.keep, .strip, .extract]
  name
    | .keep => "keep"
    | .strip => "strip"
    | .extract => "extract"

/-- How a number is put before a name. -/
inductive NumberStyle where
  | hyphen
  | plain
deriving Repr, DecidableEq

instance : Choice NumberStyle where
  title := "NumberPrefixFormat"
  all := [.hyphen, .plain]
  name
    | .hyphen => "johnny-decimal"
    | .plain => "simple"

/-- A name with the number before it. -/
structure Numbered where
  number : List Char
  name : List Char
deriving Repr, DecidableEq

/-- The last line of a text: characters other than a line break, at least one, with at most a line
break behind them. -/
def lastLine? (s : List Char) : Option (List Char) :=
  let line := s.takeWhile (· != '\n')
  let rest := s.dropWhile (· != '\n')
  if line.isEmpty then none
  else if rest.isEmpty || rest == ['\n'] then some line else none

/-- The last line behind as much white space as leaves one. -/
def lineBehindBlanks? : List Char → Option (List Char)
  | [] => none
  | c :: cs => if isBlank c then (lineBehindBlanks? cs).or (lastLine? (c :: cs)) else lastLine? (c :: cs)

/-- What is behind a hyphen with white space around it. -/
def behindHyphen? (s : List Char) : Option (List Char) :=
  match s.dropWhile isBlank with
  | '-' :: rest => lineBehindBlanks? rest
  | _ => none

/-- What is behind white space, where a dot may come first. -/
def behindDot? (s : List Char) : Option (List Char) :=
  let s := match s with
    | '.' :: rest => rest
    | _ => s
  match s with
  | c :: cs => if isBlank c then lineBehindBlanks? cs else none
  | [] => none

/-- Splits the number from a name. -/
def Numbered.ofText? (s : List Char) : Option Numbered :=
  let number := s.takeWhile Char.isDigit
  let rest := s.dropWhile Char.isDigit
  if number.isEmpty then none
  else ((behindHyphen? rest).or (behindDot? rest)).map fun name => { number, name := trim name }

def stripNumber (s : List Char) : List Char := ((Numbered.ofText? s).map (·.name)).getD s

def hasNumber (s : List Char) : Bool := (Numbered.ofText? s).isSome

def Numbered.toText (style : NumberStyle) (n : Numbered) : List Char :=
  match style with
  | .hyphen => n.number ++ " - ".toList ++ n.name
  | .plain => n.number ++ ' ' :: n.name

def padNumber (width : Nat) (number : List Char) : List Char :=
  List.replicate (width - number.length) '0' ++ number

/-- Writes the number of a name with at least `width` digits and a hyphen behind it. -/
def normalizeNumber (width : Nat) (s : List Char) : List Char :=
  match Numbered.ofText? s with
  | some n => { n with number := padNumber width n.number }.toText .hyphen
  | none => s

end FolderTag.Transform
