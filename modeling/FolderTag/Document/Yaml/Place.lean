import FolderTag.Document.Yaml.Token

/-! # Places in a document -/

namespace FolderTag.Document.Yaml

/-- What stands for the character behind the last one. -/
def endMark : Char := '\x00'

def isBreak (c : Char) : Bool :=
  c == '\n' || c == '\r' || c == '\x85' || c == '\u2028' || c == '\u2029'

def endsLine (c : Char) : Bool := isBreak c || c == endMark

def endsWord (c : Char) : Bool := endsLine c || c == ' ' || c == '\t'

def isAllowed (c : Char) : Bool :=
  c == '\t' || c == '\n' || c == '\r' || (' ' ≤ c && c ≤ '~') || c == '\x85' ||
    ('\xa0' ≤ c && c ≤ '\ufffd') || 0x10000 ≤ c.toNat

def isNameChar (c : Char) : Bool := c.isAlphanum || c == '-' || c == '_'

/-- A place in a document: what is left, and where it begins. -/
structure Place where
  rest : List Char
  index : Nat := 0
  line : Nat := 0
  column : Nat := 0
deriving Repr

namespace Place

def peek (p : Place) (n : Nat) : Char := p.rest.getD n endMark

def next (p : Place) : Char := p.peek 0

def step (p : Place) : Place :=
  match p.rest with
  | [] => p
  | c :: cs =>
      let index := p.index + 1
      if isBreak c && !(c == '\r' && cs.head? == some '\n') then
        { rest := cs, index, line := p.line + 1, column := 0 }
      else { rest := cs, index, line := p.line, column := p.column + if c = '\ufeff' then 0 else 1 }

def skip (p : Place) : Nat → Place
  | 0 => p
  | n + 1 => p.step.skip n

def skipWhile (p : Place) (q : Char → Bool) : Place := p.skip (p.rest.takeWhile q).length

/-- The characters from here that satisfy `q`, and the place behind them. -/
def takeWhile (p : Place) (q : Char → Bool) : List Char × Place := (p.rest.takeWhile q, p.skipWhile q)

/-- The line break here, in normal form, and the place behind it. -/
def takeBreak (p : Place) : List Char × Place :=
  match p.rest with
  | '\r' :: '\n' :: _ => (['\n'], p.skip 2)
  | c :: _ =>
      if c = '\u2028' ∨ c = '\u2029' then ([c], p.step)
      else if isBreak c then (['\n'], p.step)
      else ([], p)
  | [] => ([], p)

/-- Whether a line of three marks begins here, which separates documents. -/
def atSeparator (p : Place) : Bool :=
  (p.rest.take 3 = ['-', '-', '-'] || p.rest.take 3 = ['.', '.', '.']) && endsWord (p.peek 3)

/-- Skips blanks and a comment up to the end of the line, or finds something else there. -/
def skipToLineEnd? (p : Place) : Option Place :=
  let p := p.skipWhile (· == ' ')
  let p := if p.next = '#' then p.skipWhile fun c => !isBreak c else p
  if endsLine p.next then some p else none

end Place

end FolderTag.Document.Yaml
