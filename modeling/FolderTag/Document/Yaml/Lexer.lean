import FolderTag.Document.Yaml.Lexeme

/-! # From characters to tokens

A key is only known as one by the colon behind it. The lexer therefore remembers where a key may
have begun, at most one for each level of brackets, and puts the key token there when the colon
comes. -/

namespace FolderTag.Document.Yaml

/-- A place where a key may have begun. -/
structure KeyPlace where
  /-- The number of tokens before it. -/
  tokenCount : Nat
  /-- Whether it must be a key, since a line of the innermost block begins there. -/
  required : Bool
  index : Nat
  line : Nat
  column : Nat
deriving Repr

/-- The longest key in front of a colon. -/
def longestKey : Nat := 1024

/-- The state of the lexer. -/
structure Lexer where
  place : Place
  /-- The tokens so far, last first. -/
  tokens : List Token := []
  count : Nat := 0
  /-- How many brackets are open. -/
  flow : Nat := 0
  /-- The column of the innermost block, and those of the blocks around it. -/
  indent : Int := -1
  indents : List Int := []
  mayBeKey : Bool := true
  /-- Where keys may have begun, by the number of open brackets. -/
  keys : List (Nat × KeyPlace) := []

namespace Lexer

def emit (l : Lexer) (t : Token) : Lexer := { l with tokens := t :: l.tokens, count := l.count + 1 }

/-- Inserts a token behind the first `n`. -/
def emitAt (l : Lexer) (n : Nat) (t : Token) : Lexer :=
  { l with tokens := l.tokens.insertIdx (l.count - n) t, count := l.count + 1 }

def inFlow (l : Lexer) : Bool := l.flow ≠ 0

/-- Ends the blocks that are indented further than a column. -/
def endBlocks (l : Lexer) (column : Int) : Lexer :=
  if l.inFlow then l else go l.indents l
where
  go : List Int → Lexer → Lexer
    | [], l => l
    | outer :: rest, l =>
        if l.indent > column then go rest ({ l with indent := outer, indents := rest }.emit .blockEnd)
        else l

/-- Begins a block at a column, unless one is there. -/
def beginBlock? (l : Lexer) (column : Nat) : Option Lexer :=
  if l.indent < column then
    some { l with indents := l.indent :: l.indents, indent := column }
  else none

/-- Begins a block with a token for it, unless one is there. -/
def beginBlock (l : Lexer) (start : Token) : Lexer :=
  match l.beginBlock? l.place.column with
  | some l => l.emit start
  | none => l

/-- Forgets where a key may have begun on this level. -/
def dropKey (l : Lexer) : Except Failure Lexer :=
  match l.keys.lookup l.flow with
  | some k =>
      if k.required then refuse .keyWithoutColon
      else .ok { l with keys := l.keys.filter fun e => e.1 ≠ l.flow }
  | none => .ok l

/-- Forgets the places of keys that are too far away: a key stands on one line. -/
def dropStaleKeys (l : Lexer) : Except Failure Lexer :=
  let isStale := fun (e : Nat × KeyPlace) =>
    e.2.line ≠ l.place.line || longestKey < l.place.index - e.2.index
  if l.keys.any fun e => isStale e && e.2.required then refuse .keyWithoutColon
  else .ok { l with keys := l.keys.filter fun e => !isStale e }

/-- Remembers that a key may begin here. -/
def markKey (l : Lexer) : Except Failure Lexer := do
  if l.mayBeKey then
    let l' ← l.dropKey
    let key : KeyPlace := {
      tokenCount := l.count
      required := !l.inFlow && l.indent = l.place.column
      index := l.place.index
      line := l.place.line
      column := l.place.column }
    return { l' with keys := (l.flow, key) :: l'.keys }
  else return l

def skip (l : Lexer) (n : Nat) : Lexer := { l with place := l.place.skip n }

/-- The end of all blocks and keys, before a line that separates documents. -/
def endDocument (l : Lexer) : Except Failure Lexer := do
  let l ← (l.endBlocks (-1)).dropKey
  return { l with mayBeKey := false }

def openFlow (l : Lexer) (t : Token) : Except Failure Lexer := do
  let l ← l.markKey
  return ({ l with flow := l.flow + 1, mayBeKey := true }.skip 1).emit t

def closeFlow (l : Lexer) (t : Token) : Except Failure Lexer := do
  let l ← l.dropKey
  return ({ l with flow := l.flow - 1, mayBeKey := false }.skip 1).emit t

def comma (l : Lexer) : Except Failure Lexer := do
  let l ← { l with mayBeKey := true }.dropKey
  return (l.skip 1).emit .comma

/-- The dash of a list entry. -/
def entry (l : Lexer) : Except Failure Lexer := do
  if !l.inFlow && !l.mayBeKey then refuse .misplacedEntry
  let l := if l.inFlow then l else l.beginBlock .blockListStart
  let l ← { l with mayBeKey := true }.dropKey
  return (l.skip 1).emit .entry

/-- The question mark of a key. -/
def explicitKey (l : Lexer) : Except Failure Lexer := do
  if !l.inFlow && !l.mayBeKey then refuse .misplacedKey
  let l := if l.inFlow then l else l.beginBlock .blockMapStart
  let l ← { l with mayBeKey := !l.inFlow }.dropKey
  return (l.skip 1).emit .key

/-- The colon between key and value. -/
def value (l : Lexer) : Except Failure Lexer :=
  match l.keys.lookup l.flow with
  | some k =>
      let l := { l with keys := l.keys.filter fun e => e.1 ≠ l.flow }.emitAt k.tokenCount .key
      let l := if l.inFlow then l else
        match l.beginBlock? k.column with
        | some l => l.emitAt k.tokenCount .blockMapStart
        | none => l
      .ok (({ l with mayBeKey := false }.skip 1).emit .value)
  | none => do
      if !l.inFlow && !l.mayBeKey then refuse .misplacedValue
      let l := if l.inFlow then l else l.beginBlock .blockMapStart
      let l ← { l with mayBeKey := !l.inFlow }.dropKey
      return (l.skip 1).emit .value

/-- A token that may begin a key. -/
def keyToken (l : Lexer) (scan : Place → Except Failure (Token × Place)) : Except Failure Lexer := do
  let l ← l.markKey
  let (t, place) ← scan l.place
  return { l with mayBeKey := false, place }.emit t

def block (l : Lexer) (folded : Bool) : Except Failure Lexer := do
  let l ← { l with mayBeKey := true }.dropKey
  let (text, place) ← blockText folded l.indent l.place.step
  return { l with place }.emit (.scalar (String.ofList text) false)

def plain (l : Lexer) : Except Failure Lexer := do
  let l ← l.markKey
  let (text, place, mayBeKey) := plainText l.inFlow (l.indent + 1) l.place
  return { l with mayBeKey, place }.emit (.scalar (String.ofList text) true)

def skipGap : Nat → Lexer → Lexer
  | 0, l => l
  | fuel + 1, l =>
      let p := l.place.skipWhile (· == ' ')
      let p := if p.next = '#' then p.skipWhile fun c => !isBreak c else p
      if isBreak p.next then
        skipGap fuel { l with place := p.takeBreak.2, mayBeKey := l.mayBeKey || !l.inFlow }
      else { l with place := p }

def beginsPlain (inFlow : Bool) (p : Place) : Bool :=
  let c := p.next
  !(endsWord c || "-?:,[]\x7b\x7d#&*!|>'\"%@\x60".toList.contains c) ||
    (!endsWord (p.peek 1) && (c == '-' || (!inFlow && (c == '?' || c == ':'))))

/-- The next token, or more of them. -/
def step (l : Lexer) : Except Failure Lexer := do
  let l ← (skipGap (l.place.rest.length + 1) l).dropStaleKeys
  let l := l.endBlocks l.place.column
  let p := l.place
  let wordEnds := endsWord (p.peek 1)
  let quoted := fun double => l.keyToken fun p => do
    let (text, p) ← quotedText double (p.rest.length + 1) p.step
    return (.scalar (String.ofList text) false, p)
  let named := fun (make : String → Token) => l.keyToken fun p => do
    let (name, p) ← anchorName p.step
    return (make name, p)
  let separator := fun t => do return ((← l.endDocument).skip 3).emit t
  if p.column = 0 ∧ p.next = '%' then
    let l ← l.endDocument
    let (t, place) ← directive l.place.step
    return { l with place }.emit t
  else if p.column = 0 ∧ p.next = '-' ∧ p.atSeparator then separator .documentStart
  else if p.column = 0 ∧ p.next = '.' ∧ p.atSeparator then separator .documentEnd
  else match p.next with
    | '[' => l.openFlow .flowListStart
    | '\x7b' => l.openFlow .flowMapStart
    | ']' => l.closeFlow .flowListEnd
    | '\x7d' => l.closeFlow .flowMapEnd
    | ',' => l.comma
    | '*' => named .alias
    | '&' => named .anchor
    | '!' => l.keyToken fun p => do
        let (t, p) ← tag p
        return (.tag t, p)
    | '\'' => quoted false
    | '"' => quoted true
    | c =>
        if c = '-' ∧ wordEnds then l.entry
        else if c = '?' ∧ (l.inFlow ∨ wordEnds) then l.explicitKey
        else if c = ':' ∧ (l.inFlow ∨ wordEnds) then l.value
        else if c = '|' ∧ !l.inFlow then l.block false
        else if c = '>' ∧ !l.inFlow then l.block true
        else if beginsPlain l.inFlow p then l.plain
        else refuse .unexpectedCharacter

def run : Nat → Lexer → Except Failure Lexer
  | 0, l => .ok l
  | fuel + 1, l => do
      let ahead := skipGap (l.place.rest.length + 1) l
      if ahead.place.rest.isEmpty then
        let l ← ahead.dropStaleKeys
        (l.endBlocks (-1)).dropKey
      else run fuel (← l.step)

end Lexer

def tokens (text : List Char) : Except Failure (List Token) := do
  if !text.all isAllowed then refuse .unprintable
  let place : Place := { rest := text }
  let place := if place.next = '\ufeff' then place.step else place
  let l ← Lexer.run (text.length + 1) { place }
  return l.tokens.reverse

end FolderTag.Document.Yaml
