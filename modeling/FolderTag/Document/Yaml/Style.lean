import FolderTag.Document.Yaml.Place
import FolderTag.Document.Yaml.Scalar

/-! # How texts are written

A text is written as it stands wherever it reads back as itself. Otherwise it stands between single
quotes, and where these cannot hold it, between double quotes. -/

namespace FolderTag.Document.Yaml

/-- The ways of writing a text. -/
inductive Style where
  | plain
  | single
  | double
deriving Repr, DecidableEq

def isTextBreak (c : Char) : Bool := c == '\n' || c == '\x85' || c == '\u2028' || c == '\u2029'

/-- Whether a text can show a character without an escape. -/
def isShowable (c : Char) : Bool :=
  c == '\n' || (' ' ≤ c && c ≤ '~') || c == '\x85' || ('\xa0' ≤ c && c ≤ '\ufffd' && c ≠ '\ufeff') ||
    (0x10000 ≤ c.toNat && c.toNat < 0x10ffff)

/-- Whether a blank stands next to a line break, the blank on the side that `before` says. -/
def hasBlankAtBreak (before : Bool) : List Char → Bool
  | c :: d :: cs =>
      (if before then c == ' ' && isTextBreak d else isTextBreak c && d == ' ') ||
        hasBlankAtBreak before (d :: cs)
  | _ => false

def atWordEnd : List Char → Bool
  | [] => true
  | c :: _ => endsWord c

/-- Whether a character behind the first would be read as a mark: a colon at the end of a word or a
number sign at the beginning of one. -/
def hasInnerMark : Char → List Char → Bool
  | _, [] => false
  | previous, c :: cs =>
      (c == ':' && atWordEnd cs) || (c == '#' && endsWord previous) || hasInnerMark c cs

/-- The characters that no plain text begins with. -/
def leadMarks : List Char := "#,[]\x7b\x7d&*!|>'\"%@\x60".toList

/-- Whether a plain text would be read as something else because of a mark in it. -/
def hasMark : List Char → Bool
  | [] => false
  | c :: cs =>
      "---".toList.isPrefixOf (c :: cs) || "...".toList.isPrefixOf (c :: cs) ||
        leadMarks.contains c || ((c == '?' || c == ':' || c == '-') && atWordEnd cs) ||
        hasInnerMark c cs

def isMultiline (s : List Char) : Bool := s.any isTextBreak

/-- Whether a text reads back when it is written as it stands. -/
def canBePlain (s : List Char) : Bool :=
  kindOf s = .text && !isMultiline s && s.all isShowable && s.head? ≠ some ' ' &&
    s.getLast? ≠ some ' ' && !hasMark s

/-- Whether a text reads back from between single quotes. -/
def canBeSingle (s : List Char) : Bool :=
  s.all isShowable && !hasBlankAtBreak true s && !hasBlankAtBreak false s

/-- The way in which a text is written. A key on a line of its own cannot have line breaks. -/
def styleOf (shortKey : Bool) (s : List Char) : Style :=
  if canBePlain s then .plain
  else if canBeSingle s && !(shortKey && isMultiline s) then .single
  else .double

end FolderTag.Document.Yaml
