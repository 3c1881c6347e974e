import FolderTag.Regex.Lead
import FolderTag.Regex.Matching
import FolderTag.Regex.Parser

/-! # Compiled expressions

`compile` reads a pattern and checks what only the whole tree shows. A compiled expression is
searched in a text or matched against all of it. -/

namespace FolderTag.Regex

/-- A pattern ready to be matched. -/
structure Expression where
  source : String
  node : Node
  flags : Flags
  widths : List (Option Width)
  names : List (String × Nat)
deriving Repr, DecidableEq

/-- Lookbehinds need a fixed width, and the template mode knows no repetition. -/
def Node.check (widths : List (Option Width)) : Node → Flags → Except Error Unit
  | .seq a b, flags => do
      a.check widths flags
      b.check widths flags
  | .alt a b, flags => do
      a.check widths flags
      b.check widths flags
  | .group _ on off body, flags => body.check widths (flags.within on off)
  | .atomic body, flags => body.check widths flags
  | .rep greed _ _ body, flags => do
      if flags.template then throw (.malformed (.unsupportedRepeat greed) none)
      body.check widths flags
  | .look behind _ body, flags => do
      let w := body.width widths
      if behind && lookbehindLimit < w.low then throw (.malformed .lookbehindTooLong none)
      if behind && w.low ≠ w.high then throw (.malformed .lookbehindNotFixed none)
      body.check widths flags
  | .cond _ yes no, flags => do
      yes.check widths flags
      no.check widths flags
  | _, _ => return ()

def compileWith (escapes : Escapes) (source : String) (flags : Flags) :
    Except Error Expression := do
  let p ← parse escapes source.toList flags
  p.node.check p.widths p.flags
  return { source, node := p.node, flags := p.flags, widths := p.widths, names := p.names }

def compile : String → Flags → Except Error Expression := compileWith .standard

/-- Where an expression matched. -/
structure Match where
  start : Cursor
  stop : Cursor
  marks : Marks

namespace Match

def whole (m : Match) : List Char := m.start.upTo m.stop

/-- The characters of group `g`, counted from one, if it took part. -/
def group? (m : Match) (g : Nat) : Option (List Char) :=
  (groupText m.marks g).map fun (a, b) => a.upTo b

def before (m : Match) : List Char := m.start.before.reverse

def after (m : Match) : List Char := m.stop.after

end Match

namespace Expression

def groupCount (e : Expression) : Nat := e.widths.length

def noMarks (e : Expression) : Marks := Array.replicate (2 * e.groupCount) none

/-- Matches at one place; `accept` decides about the place where the match would end. -/
def matchAt (e : Expression) (accept : Cursor → Bool) (c : Cursor) : Option Match :=
  (e.node.run e.widths e.flags c e.noMarks fun c' m =>
      if accept c' then some (c', m) else none).map
    fun (stop, marks) => { start := c, stop, marks }

/-- What is known about the first character of a match. -/
def lead (e : Expression) : Lead := e.node.lead e.flags

/-- Matches at one place of a search. With `advance`, the match must not be empty. -/
def tryAt (e : Expression) (lead : Lead) (advance : Bool) (c : Cursor) : Option Match :=
  if lead.admits e.flags c.after then e.matchAt (fun c' => !advance || c'.index != c.index) c
  else none

/-- Matches at the earliest of the places behind `c`. -/
def searchAfter (e : Expression) (lead : Lead) : List Char → Cursor → Option Match
  | [], _ => none
  | _ :: rest, c =>
      match c.next? with
      | none => none
      | some (_, c') =>
          match e.tryAt lead false c' with
          | some m => some m
          | none => searchAfter e lead rest c'

/-- Matches at the earliest place from `c` on. With `advance`, a match at `c` itself must not be
empty. -/
def searchFrom (e : Expression) (advance : Bool) (c : Cursor) : Option Match :=
  let lead := e.lead
  match e.tryAt lead advance c with
  | some m => some m
  | none => e.searchAfter lead c.after c

def search (e : Expression) (text : List Char) : Option Match := e.searchFrom false (.start text)

/-- A match that consumes the whole text. -/
def fullMatch (e : Expression) (text : List Char) : Option Match :=
  e.matchAt (fun c => c.after.isEmpty) (.start text)

/-- The matches from `c` on, each beginning where the one before ended or later, at most `limit`
of them. Behind an empty match the next one at the same place must not be empty. -/
def matchesFrom (e : Expression) : Nat → Bool → Cursor → List Match
  | 0, _, _ => []
  | limit + 1, advance, c =>
      match e.searchFrom advance c with
      | none => []
      | some m => m :: matchesFrom e limit (m.stop.index == m.start.index) m.stop

/-- All matches in a text: at each place at most one that is empty and one that is not. -/
def allMatches (e : Expression) (text : List Char) : List Match :=
  e.matchesFrom (2 * text.length + 2) false (.start text)

end Expression

end FolderTag.Regex
