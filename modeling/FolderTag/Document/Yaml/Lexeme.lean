import FolderTag.Document.Json.Reader
import FolderTag.Document.Yaml.Place

/-! # Lexemes

The parts of a document that hold text: plain and quoted texts, blocks of text, names and tags. -/

namespace FolderTag.Document.Yaml

/-! ## Plain texts -/

/-- The number of characters of a plain text up to a blank, or up to what ends the text. -/
def plainLength (inFlow : Bool) : List Char → Nat
  | [] => 0
  | c :: cs =>
      let next := cs.headD endMark
      if endsWord c then 0
      else if c = ':' ∧ (endsWord next ∨ (inFlow ∧ next ∈ [',', '[', ']', '\x7b', '\x7d'])) then 0
      else if inFlow ∧ c ∈ [',', '?', '[', ']', '\x7b', '\x7d'] then 0
      else 1 + plainLength inFlow cs

/-- Line breaks and blanks behind the first break of a plain text; the flag tells whether a
separator of documents was met. -/
def plainBreaks : Nat → Place → List Char × Place × Bool
  | 0, p => ([], p, false)
  | fuel + 1, p =>
      if p.next = ' ' then plainBreaks fuel p.step
      else if isBreak p.next then
        let (b, p) := p.takeBreak
        if p.atSeparator then ([], p, true)
        else
          let (bs, p, separated) := plainBreaks fuel p
          (b ++ bs, p, separated)
      else ([], p, false)

/-- What is between two words of a plain text, empty where the text ends. -/
structure PlainGap where
  text : List Char
  place : Place
  /-- Whether a line ends in it. -/
  breaks : Bool

/-- The gap behind a word of a plain text: a single line break counts as a blank. -/
def plainGap (p : Place) : PlainGap :=
  let (blanks, q) := p.takeWhile (· == ' ')
  if isBreak q.next then
    let (b, q) := q.takeBreak
    if q.atSeparator then ⟨[], q, true⟩
    else
      let (bs, q, separated) := plainBreaks q.rest.length q
      if separated then ⟨[], q, true⟩
      else if b ≠ ['\n'] then ⟨b ++ bs, q, true⟩
      else if bs.isEmpty then ⟨[' '], q, true⟩
      else ⟨bs, q, true⟩
  else ⟨blanks, q, false⟩

/-- The words of a plain text from here on. `indent` is the least column of its later lines. -/
def plainWords (inFlow : Bool) (indent : Int) : Nat → List Char → Bool → Place →
    List Char × Place × Bool
  | 0, _, breaks, p => ([], p, breaks)
  | fuel + 1, gap, breaks, p =>
      let n := plainLength inFlow p.rest
      if p.next = '#' ∨ n = 0 then ([], p, breaks)
      else
        let word := p.rest.take n
        let g := plainGap (p.skip n)
        if g.text.isEmpty ∨ g.place.next = '#' ∨ (!inFlow ∧ (g.place.column : Int) < indent) then
          (gap ++ word, g.place, g.breaks)
        else
          let (more, p, breaks) := plainWords inFlow indent fuel g.text g.breaks g.place
          (gap ++ word ++ more, p, breaks)

/-- A plain text; the flag tells whether its last gap ends a line. -/
def plainText (inFlow : Bool) (indent : Int) (p : Place) : List Char × Place × Bool :=
  plainWords inFlow indent (p.rest.length + 1) [] false p

/-! ## Quoted texts -/

def shortEscape? : Char → Option Char
  | '0' => some '\x00'
  | 'a' => some '\x07'
  | 'b' => some '\x08'
  | 't' => some '\t'
  | '\t' => some '\t'
  | 'n' => some '\n'
  | 'v' => some '\x0b'
  | 'f' => some '\x0c'
  | 'r' => some '\r'
  | 'e' => some '\x1b'
  | ' ' => some ' '
  | '"' => some '"'
  | '\\' => some '\\'
  | '/' => some '/'
  | 'N' => some '\x85'
  | '_' => some '\xa0'
  | 'L' => some '\u2028'
  | 'P' => some '\u2029'
  | _ => none

/-- The number of digits of an escape by number. -/
def escapeLength? : Char → Option Nat
  | 'x' => some 2
  | 'u' => some 4
  | 'U' => some 8
  | _ => none

/-- The line breaks of a quoted text, with the blanks around them dropped. -/
def quotedBreaks : Nat → Place → Except Failure (List Char × Place)
  | 0, p => .ok ([], p)
  | fuel + 1, p =>
      if p.atSeparator then refuse .unclosedText
      else
        let p := p.skipWhile fun c => c == ' ' || c == '\t'
        if isBreak p.next then do
          let (b, p) := p.takeBreak
          let (bs, p) ← quotedBreaks fuel p
          return (b ++ bs, p)
        else .ok ([], p)

/-- The blanks and line breaks here: a single line break counts as a blank. -/
def quotedGap (p : Place) : Except Failure (List Char × Place) :=
  let (blanks, q) := p.takeWhile fun c => c == ' ' || c == '\t'
  if q.next = endMark then refuse .unclosedText
  else if isBreak q.next then do
    let (b, q) := q.takeBreak
    let (bs, q) ← quotedBreaks (q.rest.length + 1) q
    return ((if b ≠ ['\n'] then b else if bs.isEmpty then [' '] else []) ++ bs, q)
  else .ok (blanks, q)

/-- The escape behind a backslash. -/
def escape (p : Place) : Except Failure (List Char × Place) :=
  match shortEscape? p.next, escapeLength? p.next with
  | some c, _ => .ok ([c], p.step)
  | none, some n =>
      let digits := p.step.rest.take n
      match digits.mapM Json.hexValue? with
      | none => refuse .badEscape
      | some ds =>
          if ds.length < n then refuse .badEscape
          else
            let code := ds.foldl (fun acc d => 16 * acc + d) 0
            if 0x7fffffff < code then .error (.noValue .beyondLimits)
            else if 0x10ffff < code then .error (.noValue .noSuchThing)
            else .ok ([Char.ofNat code], p.step.skip n)
  | none, none =>
      if isBreak p.next then
        let (_, p) := p.takeBreak
        quotedBreaks (p.rest.length + 1) p
      else refuse .badEscape

/-- A quoted text from behind its opening quote to behind its closing one. -/
def quotedText (double : Bool) : Nat → Place → Except Failure (List Char × Place)
  | 0, _ => refuse .unclosedText
  | fuel + 1, p =>
      let goOn := fun (part : List Char) (p : Place) => do
        let (more, p) ← quotedText double fuel p
        return (part ++ more, p)
      match p.rest with
      | [] => refuse .unclosedText
      | c :: cs =>
          if c = '\'' ∧ !double then
            if cs.head? = some '\'' then goOn [c] (p.skip 2) else .ok ([], p.step)
          else if c = '"' ∧ double then .ok ([], p.step)
          else if c = '\\' ∧ double then do
            let (part, p) ← escape p.step
            goOn part p
          else if endsWord c then do
            let (part, p) ← quotedGap p
            goOn part p
          else goOn [c] p.step

/-! ## Blocks of text -/

/-- What is done with the line breaks at the end of a block. -/
inductive Chomp where
  | clip
  | strip
  | keep
deriving Repr, DecidableEq

/-- The header of a block: what is done at its end, and how far it is indented. -/
def blockHeader (p : Place) : Except Failure (Chomp × Option Nat × Place) :=
  let chomp? := fun (p : Place) =>
    if p.next = '+' then (Chomp.keep, p.step) else if p.next = '-' then (.strip, p.step) else (.clip, p)
  let digit? := fun (p : Place) =>
    if p.next.isDigit then (some (p.next.toNat - 48), p.step) else (none, p)
  let (c, p) := chomp? p
  let (d, p) := digit? p
  let (c, p) := if c = .clip then (if d.isSome then chomp? p else (c, p)) else (c, p)
  if d = some 0 then refuse .badBlockHeader
  else if !(endsLine p.next || p.next == ' ') then refuse .badBlockHeader
  else match p.skipToLineEnd? with
    | some p => .ok (c, d, p.takeBreak.2)
    | none => refuse .badBlockHeader

/-- The empty lines before a block whose indentation is not given, and the widest of them. -/
def blockLead : Nat → Nat → Place → List Char × Nat × Place
  | 0, widest, p => ([], widest, p)
  | fuel + 1, widest, p =>
      if p.next = ' ' then blockLead fuel (max widest p.step.column) p.step
      else if isBreak p.next then
        let (b, p) := p.takeBreak
        let (bs, widest, p) := blockLead fuel widest p
        (b ++ bs, widest, p)
      else ([], widest, p)

/-- Skips blanks up to a column. -/
def skipToColumn (indent : Nat) (p : Place) : Place :=
  p.skip ((p.rest.takeWhile (· == ' ')).length.min (indent - p.column))

/-- The empty lines here, up to the indentation of the next line. -/
def blockBreaks (indent : Nat) : Nat → Place → List Char × Place
  | 0, p => ([], p)
  | fuel + 1, p =>
      let p := skipToColumn indent p
      if isBreak p.next then
        let (b, p) := p.takeBreak
        let (bs, p) := blockBreaks indent fuel p
        (b ++ bs, p)
      else ([], p)

/-- The lines of a block from here on; `breaks` are the empty lines before. Answers the text, and
what is left for the end: the last line break and the empty lines behind it. -/
def blockLines (folded : Bool) (indent : Nat) : Nat → List Char → Place →
    List Char × List Char × List Char × Place
  | 0, breaks, p => ([], [], breaks, p)
  | fuel + 1, breaks, p =>
      let opensWord := !(p.next == ' ' || p.next == '\t')
      let (line, q) := p.takeWhile fun c => !isBreak c
      let (b, q) := q.takeBreak
      let (bs, q) := blockBreaks indent (q.rest.length + 1) q
      if q.column = indent ∧ q.next ≠ endMark then
        let joined :=
          if folded && b == ['\n'] && opensWord && !(q.next == ' ' || q.next == '\t') then
            if bs.isEmpty then [' '] else []
          else b
        let (text, last, tail, q) := blockLines folded indent fuel bs q
        (breaks ++ line ++ joined ++ text, last, tail, q)
      else (breaks ++ line, b, bs, q)

/-- A block of text from behind its mark. `outer` is the indentation around it. -/
def blockText (folded : Bool) (outer : Int) (p : Place) : Except Failure (List Char × Place) := do
  let (chomp, increment, p) ← blockHeader p
  let least := (max (outer + 1) 1).toNat
  let (breaks, indent, p) := match increment with
    | none =>
        let (breaks, widest, p) := blockLead (p.rest.length + 1) 0 p
        (breaks, max least widest, p)
    | some n =>
        let indent := least + n - 1
        let (breaks, p) := blockBreaks indent (p.rest.length + 1) p
        (breaks, indent, p)
  let (text, last, tail, p) :=
    if p.column = indent ∧ p.next ≠ endMark then
      blockLines folded indent (p.rest.length + 1) breaks p
    else ([], [], breaks, p)
  return (text ++ (match chomp with
    | .clip => last
    | .strip => []
    | .keep => last ++ tail), p)

/-! ## Names and tags -/

def anchorName (p : Place) : Except Failure (String × Place) :=
  let (name, p) := p.takeWhile isNameChar
  if name.isEmpty then refuse .badAnchor
  else if endsWord p.next || "?:,]\x7d%@\x60".toList.contains p.next then .ok (String.ofList name, p)
  else refuse .badAnchor

def isTagChar (c : Char) : Bool := c.isAlphanum || "-;/?:@&=+$,_.!~*'()[]%".toList.contains c

/-- The bytes of escapes, each a percent sign and two digits. -/
def escapedBytes : List Char → Option (List UInt8 × List Char)
  | '%' :: a :: b :: rest => do
      let n := (← Json.hexValue? a) * 16 + (← Json.hexValue? b)
      let (more, rest) ← escapedBytes rest
      return (n.toUInt8 :: more, rest)
  | '%' :: _ => none
  | cs => some ([], cs)

/-- Replaces the escapes in the text of a tag. -/
def unescapeTag : Nat → List Char → Option (List Char)
  | 0, cs => some cs
  | _, [] => some []
  | fuel + 1, '%' :: cs => do
      let (bytes, rest) ← escapedBytes ('%' :: cs)
      let s ← String.fromUTF8? ⟨bytes.toArray⟩
      return s.toList ++ (← unescapeTag fuel rest)
  | fuel + 1, c :: cs => do return c :: (← unescapeTag fuel cs)

def tagText (p : Place) : Except Failure (String × Place) :=
  let (text, p) := p.takeWhile isTagChar
  if text.isEmpty then refuse .badTag
  else match unescapeTag text.length text with
    | some s => .ok (String.ofList s, p)
    | none => refuse .badTag

/-- The handle of a tag, from its first mark. -/
def tagHandle (p : Place) : Except Failure (String × Place) :=
  if p.next ≠ '!' then refuse .badTag
  else if p.peek 1 = ' ' then .ok ("!", p.step)
  else
    let (name, q) := p.step.takeWhile isNameChar
    if q.next = '!' then .ok (String.ofList ('!' :: (name ++ ['!'])), q.step) else refuse .badTag

def tag (p : Place) : Except Failure (Tag × Place) := do
  let (t, p) ←
    if p.peek 1 = '<' then do
      let (suffix, p) ← tagText (p.skip 2)
      if p.next = '>' then pure (⟨none, suffix⟩, p.step) else refuse .badTag
    else if endsWord (p.peek 1) then pure (⟨none, "!"⟩, p.step)
    else do
      let word := p.step.rest.takeWhile fun c => !(endsLine c || c == ' ')
      let (handle, p) ← if word.contains '!' then tagHandle p else pure ("!", p.step)
      let (suffix, p) ← tagText p
      pure (⟨some handle, suffix⟩, p)
  if endsLine p.next || p.next == ' ' then return (t, p) else refuse .badTag

/-! ## Directives -/

def directiveNumber (p : Place) : Except Failure (Nat × Place) :=
  let (digits, p) := p.takeWhile Char.isDigit
  if digits.isEmpty then refuse .badDirective
  else .ok (digits.foldl (fun n c => 10 * n + (c.toNat - 48)) 0, p)

/-- A directive from behind its percent sign. -/
def directive (p : Place) : Except Failure (Token × Place) := do
  let (name, p) := p.takeWhile isNameChar
  if name.isEmpty || !(endsLine p.next || p.next == ' ') then refuse .badDirective
  let (token, p) ←
    if name = "YAML".toList then do
      let (major, p) ← directiveNumber (p.skipWhile (· == ' '))
      if p.next ≠ '.' then refuse .badDirective
      let (_, p) ← directiveNumber p.step
      if !(endsLine p.next || p.next == ' ') then refuse .badDirective
      pure (Token.version major, p)
    else if name = "TAG".toList then do
      let (handle, p) ← tagHandle (p.skipWhile (· == ' '))
      if p.next ≠ ' ' then refuse .badDirective
      let (expansion, p) ← tagText (p.skipWhile (· == ' '))
      if !(endsLine p.next || p.next == ' ') then refuse .badDirective
      pure (Token.tagHandle handle expansion, p)
    else pure (Token.otherDirective, p.skipWhile fun c => !isBreak c)
  match p.skipToLineEnd? with
  | some p => return (token, p.takeBreak.2)
  | none => refuse .badDirective

end FolderTag.Document.Yaml
