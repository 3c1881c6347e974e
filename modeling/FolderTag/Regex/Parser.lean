import FolderTag.Number.Reading
import FolderTag.Regex.Width

/-! # Reading a pattern

A recursive descent over the tokens. `Pattern.parse` answers the tree together with the groups, the
names and the flags that hold for all of it. -/

namespace FolderTag.Regex

open Parse

/-! ## Escapes -/

/-- The single characters that have an escape letter of their own. -/
def controlEscape? : Char → Option Nat
  | 'a' => some 7
  | 'b' => some 8
  | 'f' => some 12
  | 'n' => some 10
  | 'r' => some 13
  | 't' => some 9
  | 'v' => some 11
  | '\\' => some 92
  | _ => none

def classEscape? : Char → Option SetItem
  | 'd' => some (.named .digit false)
  | 'D' => some (.named .digit true)
  | 's' => some (.named .space false)
  | 'S' => some (.named .space true)
  | 'w' => some (.named .word false)
  | 'W' => some (.named .word true)
  | _ => none

/-- The escapes that ask for a position. -/
def anchorEscape? : Char → Option Anchor
  | 'A' => some .textStart
  | 'b' => some .boundary
  | 'B' => some .notBoundary
  | 'Z' => some .textEnd
  | _ => none

def isOctal (c : Char) : Bool := '0' ≤ c && c ≤ '7'

def isHex (c : Char) : Bool := c.isDigit || ('a' ≤ c && c ≤ 'f') || ('A' ≤ c && c ≤ 'F')

def hexValue (c : Char) : Nat :=
  if c.isDigit then c.toNat - 48 else if c.toNat < 97 then c.toNat - 55 else c.toNat - 87

/-- The number written with digits of a base up to sixteen. -/
def numberIn (base : Nat) (ds : List Char) : Nat :=
  ds.foldl (fun n c => base * n + hexValue c) 0

/-- The rest of an escape that takes exactly `count` hexadecimal digits after its letter. -/
def hexEscape (letter : Char) (count : Nat) : Parse Nat := do
  let ds ← takeUpTo isHex count
  let spelled := '\\' :: letter :: ds
  if ds.length < count then fail (.incompleteEscape (String.ofList spelled)) spelled.length
  else
    let n := numberIn 16 ds
    if 0x110000 ≤ n then fail (.badEscape (String.ofList spelled)) spelled.length
    else return n

/-- The rest of an escape by character name. No name is known. -/
def nameEscape : Parse Nat := do
  if !(← accept '\x7b') then fail .missingNameBrace 0
  else
    let name ← takeName '\x7d' "character name"
    fail (.unknownCharacterName (String.ofList name)) (name.length + 4)

/-- An escape that stands for one character by number or name, or for itself. -/
def characterEscape (c : Char) : Parse Nat := do
  if c = 'x' then hexEscape c 2
  else if c = 'u' then hexEscape c 4
  else if c = 'U' then hexEscape c 8
  else if c = 'N' then nameEscape
  else if c.isAlpha || c.isDigit then fail (.badEscape (String.ofList ['\\', c])) 2
  else return c.toNat

def setEscape (c : Char) : Parse SetItem := do
  match controlEscape? c, classEscape? c with
  | some n, _ => return .code n
  | none, some item => return item
  | none, none =>
      if isOctal c then
        let ds := c :: (← takeUpTo isOctal 2)
        let n := numberIn 8 ds
        if 0o377 < n then
          fail (.octalTooLarge (String.ofList ('\\' :: ds))) (ds.length + 1)
        else return .code n
      else return .code (← characterEscape c)

/-- A reference to group `g`, written with `size` characters. -/
def groupReference (g size : Nat) : Parse Node := do
  if g < (← groupCount) then
    if !(← isClosed g) then fail .openReference size
    else
      checkLookbehind g
      return .backref g
  else fail (.invalidReference g) (size - 1)

/-- An escape that starts with a digit other than zero: three octal digits are a character, all
else is a reference. -/
def digitEscape (c : Char) : Parse Node := do
  match ← takeUpTo Char.isDigit 1 with
  | [d] =>
      let third ← if isOctal c && isOctal d then takeUpTo isOctal 1 else pure []
      match third with
      | [e] =>
          let n := numberIn 8 [c, d, e]
          if 0o377 < n then fail (.octalTooLarge (String.ofList ['\\', c, d, e])) 4
          else return .code false n
      | _ => groupReference (numberIn 10 [c, d]) 3
  | _ => groupReference (numberIn 10 [c]) 2

def itemEscape (c : Char) : Parse Node := do
  match anchorEscape? c, classEscape? c, controlEscape? c with
  | some a, _, _ => return .anchor a
  | none, some item, _ => return .set false [item]
  | none, none, some n => return .code false n
  | none, none, none =>
      if c = '0' then return .code false (numberIn 8 (← takeUpTo isOctal 2))
      else if c.isDigit then digitEscape c
      else return .code false (← characterEscape c)

/-- How escapes are read: as an item outside of brackets, and as members of a set inside them. -/
structure Escapes where
  item : Char → Parse Node
  members : Char → Parse (List SetItem)

namespace Escapes

/-- The escapes as they are written. -/
def standard : Escapes where
  item := itemEscape
  members c := do return [← setEscape c]

end Escapes

/-! ## Character sets -/

/-- The members of a set that the token `t` spells. -/
def setMembers (escapes : Escapes) : Token → Parse (List SetItem)
  | .plain c => return [.code c.toNat]
  | .escaped c => escapes.members c
  | .dangling => return [.code 92]

/-- A range between two members, both of which must be single characters. -/
def setRange (this that : Token) (low high : List SetItem) : Parse SetItem := do
  let refuse : Parse SetItem :=
    fail (.badRange (String.ofList this.text) (String.ofList that.text))
      (this.width + 1 + that.width)
  match low, high with
  | [.code a], [.code b] => if b < a then refuse else return .range a b
  | _, _ => refuse

/-- What stands behind the members `low` that `this` spells: the other end of a range, or what
`more` reads on top of the members read so far. -/
def setBehind (escapes : Escapes) (start : Nat) (more : List SetItem → Parse (List SetItem))
    (items : List SetItem) (this : Token) (low : List SetItem) : Parse (List SetItem) := do
  if ← accept '-' then
    match ← take with
    | none => failAt .unterminatedSet start
    | some that =>
        if that.isPlain ']' then return items.reverse ++ low ++ [.code 45]
        else
          let high ← setMembers escapes that
          let range ← setRange this that low high
          more (range :: items)
  else more (low.reverse ++ items)

/-- The members of a set up to its closing bracket; `items` holds those read so far, last first,
and `start` is the position of the opening bracket. -/
def setItems (escapes : Escapes) (start : Nat) : Nat → List SetItem → Parse (List SetItem)
  | 0, _ => failAt .unterminatedSet start
  | fuel + 1, items => do
      match ← take with
      | none => failAt .unterminatedSet start
      | some this =>
          if this.isPlain ']' && !items.isEmpty then return items.reverse
          else
            let low ← setMembers escapes this
            setBehind escapes start (setItems escapes start fuel) items this low

/-- The set of some members. A set of one character is that character. -/
def Node.ofMembers (negated : Bool) (items : List SetItem) : Node :=
  match items.eraseDups with
  | [.code n] => .code negated n
  | unique => .set negated unique

/-- A set after its opening bracket. -/
def setNode (escapes : Escapes) (start : Nat) : Parse Node := do
  let negated ← accept '^'
  return .ofMembers negated (← setItems escapes start ((← get).rest.length + 1) [])

/-! ## Repetitions -/

/-- Repetition counts from this one on are refused. -/
def repetitionLimit : Nat := 0xffffffff

/-- What a repetition mark says: bounds, or that an opening brace stands for itself. -/
inductive Bounds where
  | between (low : Nat) (high : Option Nat)
  | literalBrace
deriving Repr

/-- The bound that digits spell; without digits there is none. -/
def digitBound (ds : List Char) : Parse (Option Nat) :=
  if ds = [] then return none
  else if repetitionLimit ≤ numberIn 10 ds then throw .repetitionTooLarge
  else return some (numberIn 10 ds)

/-- The bounds that two rows of digits spell; `start` is the position of the first. -/
def digitBounds (start : Nat) (low high : List Char) : Parse Bounds := do
  let low := (← digitBound low).getD 0
  match ← digitBound high with
  | some h => if h < low then failAt .minAboveMax start else return .between low (some h)
  | none => return .between low none

def braceBounds : Parse Bounds := do
  if ← nextIs '\x7d' then return .literalBrace
  else
    let before ← get
    let low ← takeWhile Char.isDigit
    let high ← if ← accept ',' then takeWhile Char.isDigit else pure low
    if ← accept '\x7d' then digitBounds before.position low high
    else
      set before
      return .literalBrace

/-- The bounds that a repetition mark stands for. -/
def boundsFor (c : Char) : Parse Bounds :=
  if c = '?' then return .between 0 (some 1)
  else if c = '*' then return .between 0 none
  else if c = '+' then return .between 1 none
  else braceBounds

/-- Applies bounds to the last of `items` (last first); `mark` is the position of the mark. -/
def repeatLast (mark low : Nat) (high : Option Nat) : List Node → Parse (List Node)
  | [] => failAt .nothingToRepeat mark
  | .anchor _ :: _ => failAt .nothingToRepeat mark
  | .rep .. :: _ => failAt .multipleRepeat mark
  | item :: items => do
      if ← accept '?' then return .rep .reluctant low high item :: items
      else if ← accept '+' then return .rep .possessive low high item :: items
      else return .rep .greedy low high item :: items

/-! ## Inline flags -/

def addFlag (on : Flags) : FlagLetter → Parse Flags
  | .locale => fail .localeFlag 0
  | .switch f =>
      let sum := on.union f
      if f.choosesAlphabet && sum.unicode && sum.ascii then fail .clashingAlphabets 0
      else return sum

/-- Refuses what stands where a flag letter is due. -/
def refuseFlag {α : Type} (otherwise : Cause) (t : Token) : Parse α :=
  match t with
  | .plain c => fail (if Text.isLetter c then .unknownFlag else otherwise) 1
  | _ => fail otherwise t.width

/-- The letters that are switched on, and the mark that ends them. -/
def flagsOn : Nat → Flags → FlagLetter → Parse (Flags × Char)
  | 0, _, _ => throw (.malformed .missingFlagEnd none)
  | fuel + 1, on, letter => do
      let on ← addFlag on letter
      match ← take with
      | none => fail .missingFlagEnd 0
      | some (.plain c) =>
          if c = ')' || c = '-' || c = ':' then return (on, c)
          else match FlagLetter.ofChar? c with
            | some next => flagsOn fuel on next
            | none => refuseFlag .missingFlagEnd (.plain c)
      | some t => refuseFlag .missingFlagEnd t

/-- The letters that are switched off, up to the colon. -/
def flagsOff : Nat → Flags → FlagLetter → Parse Flags
  | 0, _, _ => throw (.malformed .missingColon none)
  | fuel + 1, off, letter => do
      match letter with
      | .locale => fail .alphabetOff 0
      | .switch f =>
          if f.choosesAlphabet then fail .alphabetOff 0
          else
            let off := off.union f
            match ← take with
            | none => fail .missingColon 0
            | some (.plain c) =>
                if c = ':' then return off
                else match FlagLetter.ofChar? c with
                  | some next => flagsOff fuel off next
                  | none => refuseFlag .missingColon (.plain c)
            | some t => refuseFlag .missingColon t

/-- The letters that are switched off behind a minus. -/
def flagsBehindMinus (fuel : Nat) : Parse Flags := do
  match ← take with
  | none => fail .missingFlag 0
  | some (.plain c) =>
      match FlagLetter.ofChar? c with
      | some letter => flagsOff fuel .none letter
      | none => refuseFlag .missingFlag (.plain c)
  | some t => refuseFlag .missingFlag t

/-- What is left of an inline flag group behind the flags `on` that are switched on and the mark
that ends them. -/
def inlineFlagsBehind (fuel : Nat) (on : Flags) (mark : Char) :
    Parse (Option (Flags × Flags)) := do
  if mark = ')' then
    modify fun r => { r with flags := r.flags.union on }
    return none
  else if on.template then fail .globalFlagOn 1
  else
    let off ← if mark = '-' then flagsBehindMinus fuel else pure Flags.none
    if off.template then fail .globalFlagOff 1
    else if on.meets off then fail .flagOnAndOff 1
    else return some (on, off)

/-- Flags after `(?` whose first character is `c`: nothing when they hold for the whole pattern,
else the flags that are switched on and off in the group that follows. -/
def inlineFlags (c : Char) : Parse (Option (Flags × Flags)) := do
  let fuel := (← get).rest.length + 1
  match FlagLetter.ofChar? c with
  | some letter =>
      let (on, mark) ← flagsOn fuel .none letter
      inlineFlagsBehind fuel on mark
  | none => inlineFlagsBehind fuel .none '-'

/-! ## Groups -/

/-- What follows an opening parenthesis. -/
inductive Opening where
  /-- Nothing is left of a comment. -/
  | comment
  /-- Flags for the whole pattern. -/
  | globalFlags
  | reference (group : Nat)
  | capture (name : Option String)
  | plain (on off : Flags)
  | atomic
  | look (behind negated : Bool)
  | condition (group : Nat)
deriving Repr

/-- Skips a comment up to its closing parenthesis; `start` is where the group began. -/
def skipComment (start : Nat) : Nat → Parse Unit
  | 0 => failAt .unterminatedComment start
  | fuel + 1 => do
      match ← take with
      | none => failAt .unterminatedComment start
      | some t => if t.isPlain ')' then return () else skipComment start fuel

/-- The group of a name that has just been read with one more character. -/
def namedGroup (name : List Char) : Parse Nat := do
  match (← get).names.lookup (String.ofList name) with
  | some g => return g
  | none => fail (.unknownGroupName (String.ofList name)) (name.length + 1)

/-- The group of a number that has just been read with one more character. The group may be opened
later. -/
def numberedGroup (name : List Char) : Parse Nat := do
  let size := name.length + 1
  match Number.readInt? name with
  | some (.ofNat 0) => fail .badGroupNumber size
  | some (.ofNat g) =>
      if 1073741823 ≤ g then fail (.invalidReference g) size
      else
        modify fun r =>
          if (r.conditions.lookup g).isSome then r
          else { r with conditions := r.conditions ++ [(g, r.position - size)] }
        return g
  | _ => fail (.badGroupName (String.ofList name)) size

/-- The group that a condition asks for, by name or by number. -/
def conditionGroup : Parse Nat := do
  let name ← takeName ')' "group name"
  let g ← if Text.isIdentifier name then namedGroup name else numberedGroup name
  checkLookbehind g
  return g

/-- What follows `(?P`: a named group or a reference by name. -/
def namedOpening : Parse Opening := do
  if ← accept '<' then
    let name ← takeName '>' "group name"
    checkGroupName name 1
    return .capture (some (String.ofList name))
  else if ← accept '=' then
    let name ← takeName ')' "group name"
    checkGroupName name 1
    let g ← namedGroup name
    if !(← isClosed g) then fail .openReference (name.length + 1)
    else
      checkLookbehind g
      return .reference g
  else
    match ← take with
    | none => fail .unexpectedEnd 0
    | some t => fail (.unknownExtension (String.ofList ('P' :: t.text))) (t.width + 2)

/-- What follows `(?<`: one of the lookbehinds. -/
def lookbehindOpening : Parse Opening := do
  match ← take with
  | none => fail .unexpectedEnd 0
  | some t =>
      if t.isPlain '=' then return .look true false
      else if t.isPlain '!' then return .look true true
      else fail (.unknownExtension (String.ofList ('<' :: t.text))) (t.width + 2)

/-- What follows an opening parenthesis that stands at `start`. -/
def groupOpening (start : Nat) : Parse Opening := do
  if !(← accept '?') then return .capture none
  else
    match ← take with
    | none => fail .unexpectedEnd 0
    | some (.plain c) =>
        if c = 'P' then namedOpening
        else if c = ':' then return .plain .none .none
        else if c = '#' then
          skipComment start ((← get).rest.length + 1)
          return .comment
        else if c = '=' then return .look false false
        else if c = '!' then return .look false true
        else if c = '<' then lookbehindOpening
        else if c = '(' then return .condition (← conditionGroup)
        else if c = '>' then return .atomic
        else if (FlagLetter.ofChar? c).isSome || c = '-' then
          match ← inlineFlags c with
          | none => return .globalFlags
          | some (on, off) => return .plain on off
        else fail (.unknownExtension c.toString) 2
    | some t => fail (.unknownExtension (String.ofList t.text)) (t.width + 1)

/-- Takes the closing parenthesis of the group that began at `start`. -/
def closeParenthesis (start : Nat) : Parse Unit := do
  if !(← accept ')') then failAt .unterminatedGroup start

/-- Begins a lookbehind, unless it is inside of another one. -/
def enterLookbehind (isOutermost : Bool) : Parse Unit :=
  if isOutermost then
    modify fun r => { r with lookbehindLimit := some (r.widths.length + 1) }
  else return ()

def leaveLookbehind (isOutermost : Bool) : Parse Unit :=
  if isOutermost then modify fun r => { r with lookbehindLimit := none } else return ()

/-- The rest of the group that began at `start`, behind its opening; `body` reads its content in the
verbose mode or not, and `branches` what the condition on a group chooses between. A comment and
flags for the whole pattern are no item. -/
def groupItem (body : Bool → Parse Node) (branches : Nat → Parse Node) (verbose : Bool)
    (start : Nat) : Opening → Parse (Option Node)
  | .comment => return none
  | .globalFlags => return none
  | .reference g => return some (.backref g)
  | .capture name => do
      let g ← openGroup name
      let content ← body verbose
      closeParenthesis start
      closeGroup g (content.width (← get).widths)
      return some (.group (some g) .none .none content)
  | .plain on off => do
      let content ← body ((verbose || on.verbose) && !off.verbose)
      closeParenthesis start
      return some (.group none on off content)
  | .atomic => do
      let content ← body verbose
      closeParenthesis start
      return some (.atomic content)
  | .look behind negated => do
      let isOutermost := behind && (← get).lookbehindLimit.isNone
      enterLookbehind isOutermost
      let content ← body verbose
      leaveLookbehind isOutermost
      closeParenthesis start
      return some (.look behind negated content)
  | .condition g => do
      let node ← branches g
      closeParenthesis start
      return some node

/-- The white space that the verbose mode skips. -/
def isVerboseBlank (c : Char) : Bool := c == ' ' || (9 ≤ c.toNat && c.toNat ≤ 13)

/-- Skips a comment of the verbose mode up to the end of its line. -/
def skipLine : Nat → Parse Unit
  | 0 => throw (.malformed .unterminatedComment none)
  | fuel + 1 => do
      match ← take with
      | none => return ()
      | some t => if t.isPlain '\n' then return () else skipLine fuel

mutual

/-- Reads choices up to a closing parenthesis or the end. `top` tells the whole pattern. -/
def choices (escapes : Escapes) : Nat → Bool → Bool → Parse Node
  | 0, _, _ => throw (.malformed .unterminatedGroup none)
  | fuel + 1, top, verbose => do
      let first ← items escapes fuel top verbose []
      let others ← otherChoices escapes fuel top verbose
      return .choice first others

/-- Reads the choices that follow the first. -/
def otherChoices (escapes : Escapes) : Nat → Bool → Bool → Parse (List Node)
  | 0, _, _ => throw (.malformed .unterminatedGroup none)
  | fuel + 1, top, verbose => do
      if ← accept '|' then
        let reader ← get
        let verbose := if top then reader.flags.verbose else verbose
        let node ← items escapes fuel false verbose []
        return node :: (← otherChoices escapes fuel top verbose)
      else return []

/-- Reads what a condition asks for when its group is unset; at most one bar is allowed. -/
def elseBranch (escapes : Escapes) : Nat → Bool → Parse Node
  | 0, _ => throw (.malformed .unterminatedGroup none)
  | fuel + 1, verbose => do
      if ← accept '|' then
        let no ← items escapes fuel false verbose []
        if ← nextIs '|' then fail .tooManyBranches 0 else return no
      else return .empty

/-- Reads items up to a bar, a closing parenthesis or the end. `first` holds where flags for the
whole pattern may stand, and `done` has the items read so far, last first. -/
def items (escapes : Escapes) : Nat → Bool → Bool → List Node → Parse Node
  | 0, _, _, _ => throw (.malformed .unterminatedGroup none)
  | fuel + 1, first, verbose, done => do
      match ← peek with
      | none => return .sequence done.reverse
      | some (.plain c) =>
          if c = '|' || c = ')' then return .sequence done.reverse
          else
            let start := (← get).position
            let _ ← take
            if verbose && isVerboseBlank c then items escapes fuel first verbose done
            else if verbose && c = '#' then
              skipLine ((← get).rest.length + 1)
              items escapes fuel first verbose done
            else if c = '[' then
              let set ← setNode escapes start
              items escapes fuel first verbose (set :: done)
            else if c = '?' || c = '*' || c = '+' || c = '\x7b' then
              match ← boundsFor c with
              | .literalBrace => items escapes fuel first verbose (.code false c.toNat :: done)
              | .between low high =>
                  items escapes fuel first verbose (← repeatLast start low high done)
            else if c = '.' then items escapes fuel first verbose (.any :: done)
            else if c = '^' then items escapes fuel first verbose (.anchor .lineStart :: done)
            else if c = '$' then items escapes fuel first verbose (.anchor .lineEnd :: done)
            else if c = '(' then
              match ← groupOpening start with
              | .globalFlags =>
                  if !first || !done.isEmpty then failAt .lateGlobalFlags start
                  else items escapes fuel first (← get).flags.verbose done
              | opening =>
                  let item? ← groupItem (choices escapes fuel false)
                    (fun g => do
                      let yes ← items escapes fuel false verbose []
                      return .cond g yes (← elseBranch escapes fuel verbose))
                    verbose start opening
                  items escapes fuel first verbose (item?.toList ++ done)
            else items escapes fuel first verbose (.code false c.toNat :: done)
      | some (.escaped c) =>
          let _ ← take
          items escapes fuel first verbose ((← escapes.item c) :: done)
      | some .dangling => fail .danglingEscape 0

end

/-- A pattern that has been read. -/
structure Parsed where
  node : Node
  flags : Flags
  widths : List (Option Width)
  names : List (String × Nat)
deriving Repr

/-- The state in which a pattern is read from its beginning. -/
def Reader.start (pattern : List Char) (flags : Flags) : Reader where
  rest := Token.scan pattern
  position := 0
  flags := flags
  widths := []
  names := []
  lookbehindLimit := none
  conditions := []

/-- Unless the pattern asks for the ASCII alphabet, the alphabet is Unicode. -/
def settleAlphabet (flags : Flags) : Except Error Flags :=
  if !flags.ascii then .ok { flags with unicode := true }
  else if flags.unicode then .error .conflictingAlphabets
  else .ok flags

/-- What is wrong with a pattern of which no more is read: something is left over, or a condition
asks for a group that has not been opened. -/
def Reader.fault? (r : Reader) : Option Error :=
  if !r.rest.isEmpty then some (.malformed .unbalanced (some r.position))
  else (r.conditions.find? fun c => r.widths.length < c.1).map fun (g, position) =>
    .malformed (.invalidReference g) (some position)

def conclude (node : Node) (r : Reader) : Except Error Parsed := do
  let flags ← settleAlphabet r.flags
  match r.fault? with
  | some e => throw e
  | none => return ⟨node, flags, r.widths, r.names⟩

/-- Reads all that is left. -/
def readAll (escapes : Escapes) (r : Reader) : Except Error Parsed :=
  if r.rest.head? = some .dangling then throw (.malformed .danglingEscape (some 0))
  else (choices escapes (3 * r.rest.length + 3) true r.flags.verbose).run r >>= fun x =>
    conclude x.1 x.2

def parse (escapes : Escapes) (pattern : List Char) (flags : Flags) : Except Error Parsed :=
  readAll escapes (.start pattern flags)

end FolderTag.Regex
