import FolderTag.Regex.Cursor
import FolderTag.Regex.Fold
import FolderTag.Regex.Width

/-! # Matching

A backtracking matcher in continuation style: an expression is run at a cursor and hands every
place where it can end to the rest of the pattern, in the order of preference, until the rest
succeeds. -/

namespace FolderTag.Regex

/-- Where groups begin and end: place `2 * (g - 1)` for the start of group `g`, the next one for
its end. -/
abbrev Marks := Array (Option Cursor)

/-- Where a match ends, and what its groups hold. -/
abbrev Outcome := Cursor × Marks

/-- The rest of a pattern. -/
abbrev Rest := Cursor → Marks → Option Outcome

/-- The rest of a pattern that ends here. -/
def Rest.done : Rest := fun c m => some (c, m)

/-- An expression waiting for a cursor and for the rest of its pattern. -/
abbrev Runner := Cursor → Marks → Rest → Option Outcome

/-- Whether a character beside the cursor is a word character. -/
def wordBeside (unicode : Bool) : List Char → Bool
  | [] => false
  | c :: _ => ClassKind.word.holds unicode c

/-- Whether the cursor is at the position that an anchor asks for. An empty text has neither
boundaries nor places between boundaries. -/
def Anchor.holds (flags : Flags) (c : Cursor) : Anchor → Bool
  | .lineStart => c.before == [] || (flags.multiline && c.before.head? == some '\n')
  | .lineEnd =>
      c.after == [] || c.after == ['\n'] || (flags.multiline && c.after.head? == some '\n')
  | .textStart => c.before == []
  | .textEnd => c.after == []
  | .boundary =>
      !(c.before == [] && c.after == []) &&
        wordBeside flags.unicode c.before != wordBeside flags.unicode c.after
  | .notBoundary =>
      !(c.before == [] && c.after == []) &&
        wordBeside flags.unicode c.before == wordBeside flags.unicode c.after

/-- Consumes one character that satisfies `p`. -/
def runOne (p : Char → Bool) : Runner := fun c m k =>
  match c.next? with
  | some (x, c') => if p x then k c' m else none
  | none => none

/-- What group `g` holds: both marks are set and the end is not before the start. -/
def groupText (m : Marks) (g : Nat) : Option (Cursor × Cursor) :=
  match (m[2 * (g - 1)]?).getD none, (m[2 * (g - 1) + 1]?).getD none with
  | some a, some b => if a.index ≤ b.index then some (a, b) else none
  | _, _ => none

/-- Consumes the characters `xs`, compared under `flags`. -/
def runText (flags : Flags) : List Char → Runner
  | [], c, m, k => k c m
  | x :: xs, c, m, k =>
      let same := fun y =>
        if flags.ignoreCase then flags.fold.lower x.toNat == flags.fold.lower y.toNat else x == y
      runOne same c m fun c m => runText flags xs c m k

/-! ## Repetition -/

/-- At least `n` rounds. -/
def runTimes (body : Runner) : Nat → Runner
  | 0, c, m, k => k c m
  | n + 1, c, m, k => body c m fun c m => runTimes body n c m k

/-- Rounds as long as possible. A round that starts where the previous one started is not made, so
`fuel` beyond the number of characters left is never used up. -/
def runGreedy (body : Runner) : Nat → Option Nat → Option Nat → Runner
  | 0, _, _, c, m, k => k c m
  | fuel + 1, left, last, c, m, k =>
      if left = some 0 ∨ last = some c.index then k c m
      else
        (body c m fun c' m' =>
          runGreedy body fuel (left.map (· - 1)) (some c.index) c' m' k).or (k c m)

/-- Rounds only as far as the rest asks for them. -/
def runReluctant (body : Runner) : Nat → Option Nat → Option Nat → Runner
  | 0, _, _, c, m, k => k c m
  | fuel + 1, left, last, c, m, k =>
      (k c m).or <|
        if left = some 0 ∨ last = some c.index then none
        else body c m fun c' m' =>
          runReluctant body fuel (left.map (· - 1)) (some c.index) c' m' k

/-- Rounds as long as possible, none of them ever given back. -/
def runPossessive (body : Runner) : Nat → Option Nat → Cursor → Marks → Outcome
  | 0, _, c, m => (c, m)
  | fuel + 1, left, c, m =>
      if left = some 0 then (c, m)
      else match body c m .done with
        | none => (c, m)
        | some (c', m') =>
            if c'.index = c.index then (c', m')
            else runPossessive body fuel (left.map (· - 1)) c' m'

/-- Exactly `n` rounds, none of them ever given back. -/
def runRequired (body : Runner) : Nat → Cursor → Marks → Option Outcome
  | 0, c, m => some (c, m)
  | n + 1, c, m =>
      match body c m .done with
      | none => none
      | some (c', m') => runRequired body n c' m'

def runRepeat (greed : Greed) (low : Nat) (high : Option Nat) (body : Runner) : Runner :=
  fun c m k =>
    let extra := high.map (· - low)
    match greed with
    | .greedy =>
        runTimes body low c m fun c m => runGreedy body (c.after.length + 2) extra none c m k
    | .reluctant =>
        runTimes body low c m fun c m => runReluctant body (c.after.length + 2) extra none c m k
    | .possessive =>
        match runRequired body low c m with
        | none => none
        | some (c', m') =>
            let (c'', m'') := runPossessive body (c'.after.length + 2) extra c' m'
            k c'' m''

/-! ## Expressions -/

/-- Runs an expression. `widths` tells the widths of the groups, for lookbehinds. -/
def Node.run (widths : List (Option Width)) : Node → Flags → Runner
  | .empty, _, c, m, k => k c m
  | .seq a b, flags, c, m, k =>
      a.run widths flags c m fun c m => b.run widths flags c m k
  | .alt a b, flags, c, m, k =>
      (a.run widths flags c m k).or (b.run widths flags c m k)
  | .code negated n, flags, c, m, k => runOne (literalHolds flags n · != negated) c m k
  | .any, flags, c, m, k => runOne (fun x => flags.dotAll || x != '\n') c m k
  | .set negated items, flags, c, m, k => runOne (setHolds flags negated items) c m k
  | .anchor a, flags, c, m, k => if a.holds flags c then k c m else none
  | .group none on off body, flags, c, m, k => body.run widths (flags.within on off) c m k
  | .group (some g) on off body, flags, c, m, k =>
      body.run widths (flags.within on off) c (m.setIfInBounds (2 * (g - 1)) (some c))
        fun c' m' => k c' (m'.setIfInBounds (2 * (g - 1) + 1) (some c'))
  | .atomic body, flags, c, m, k =>
      match body.run widths flags c m .done with
      | some (c', m') => k c' m'
      | none => none
  | .rep greed low high body, flags, c, m, k =>
      runRepeat greed low high (body.run widths flags) c m k
  | .look behind negated body, flags, c, m, k =>
      let place := if behind then Cursor.back? (body.width widths).low c else some c
      let found := place.bind fun p => body.run widths flags p m .done
      match found, negated with
      | some (_, m'), false => k c m'
      | none, true => k c m
      | _, _ => none
  | .backref g, flags, c, m, k =>
      match groupText m g with
      | some (a, b) => runText flags (a.upTo b) c m k
      | none => none
  | .cond g yes no, flags, c, m, k =>
      if (groupText m g).isSome then yes.run widths flags c m k else no.run widths flags c m k

end FolderTag.Regex
