import FolderTag.Regex.Error

/-! # Tokens of a pattern

A pattern is cut into single characters and characters behind a backslash. The reader keeps the
tokens that are left, the position of the next one, and what has been learnt about groups and
flags. A backslash at the very end is refused as soon as it is the next token. -/

namespace FolderTag.Regex

/-- A piece of a pattern. -/
inductive Token where
  | plain (c : Char)
  | escaped (c : Char)
  | dangling
deriving Repr, DecidableEq

namespace Token

def text : Token → List Char
  | .plain c => [c]
  | .escaped c => ['\\', c]
  | .dangling => ['\\']

def width (t : Token) : Nat := t.text.length

def scan : List Char → List Token
  | [] => []
  | '\\' :: c :: cs => .escaped c :: scan cs
  | ['\\'] => [.dangling]
  | c :: cs => .plain c :: scan cs

/-- Whether the token is the single character `c`. -/
def isPlain (t : Token) (c : Char) : Bool := t == .plain c

/-- The tokens of a pattern spell the pattern. -/
theorem flatMap_text_scan (s : List Char) : (scan s).flatMap text = s := by
  induction s using scan.induct with
  | case1 => rfl
  | case2 c cs ih => simp [scan, text, ih]
  | case3 => rfl
  | case4 c cs h1 h2 ih =>
      rw [scan]
      · simp [text, ih]
      · exact h1
      · exact h2

end Token

/-- The least and greatest number of characters that an expression consumes. -/
structure Width where
  low : Nat
  high : Nat
deriving Repr, DecidableEq

/-- The state of reading a pattern. -/
structure Reader where
  /-- The tokens that are left, the next one first. -/
  rest : List Token
  /-- The position of the next token, or the length of the pattern. -/
  position : Nat
  /-- The flags given beside the pattern and those switched on for all of it. -/
  flags : Flags
  /-- The width of every group opened so far, unknown while the group is open. -/
  widths : List (Option Width)
  /-- Group names in the order in which they appear, with their numbers. -/
  names : List (String × Nat)
  /-- Inside a lookbehind, how many groups had been opened before the outermost one. -/
  lookbehindLimit : Option Nat
  /-- Group numbers that conditions ask for, with the position of the first mention. -/
  conditions : List (Nat × Nat)
deriving Repr

/-- Reading steps: they change the reader or refuse the pattern. -/
abbrev Parse := StateT Reader (Except Error)

namespace Parse

/-- Refuses the pattern at an absolute position. -/
def failAt {α : Type} (cause : Cause) (position : Nat) : Parse α :=
  throw (.malformed cause (some position))

/-- Refuses the pattern `offset` characters before the next token. -/
def fail {α : Type} (cause : Cause) (offset : Nat) : Parse α := do
  failAt cause ((← get).position - offset)

/-- The next token, which stays. -/
def peek : Parse (Option Token) := do return (← get).rest.head?

def nextIs (c : Char) : Parse Bool := do return (← get).rest.head? == some (.plain c)

def take : Parse (Option Token) := do
  let r ← get
  match r.rest with
  | [] => return none
  | t :: ts =>
      let position := r.position + t.width
      if ts.head? = some .dangling then failAt .danglingEscape position
      else
        set { r with rest := ts, position }
        return some t

/-- Takes the next token off if it is the single character `c`. -/
def accept (c : Char) : Parse Bool := do
  if ← nextIs c then
    let _ ← take
    return true
  else return false

/-- Takes up to `count` single characters that satisfy `p`. -/
def takeUpTo (p : Char → Bool) : Nat → Parse (List Char)
  | 0 => return []
  | n + 1 => do
      match ← peek with
      | some (.plain c) =>
          if p c then
            let _ ← take
            return c :: (← takeUpTo p n)
          else return []
      | _ => return []

/-- Takes all single characters up to the first that does not satisfy `p`. -/
def takeWhile (p : Char → Bool) : Parse (List Char) := do takeUpTo p (← get).rest.length

/-- Collects the text before the single character `terminator`, which is taken off too. -/
def nameLoop (terminator : Char) (what : String) : Nat → List Char → Parse (List Char)
  | 0, _ => throw (.malformed (.unterminatedName terminator) none)
  | n + 1, name => do
      match ← take with
      | none =>
          if name = [] then fail (.missingName what) 0
          else fail (.unterminatedName terminator) name.length
      | some t =>
          if t.isPlain terminator then
            if name = [] then fail (.missingName what) 1 else return name
          else nameLoop terminator what n (name ++ t.text)

/-- A name that is not empty and ends at `terminator`. -/
def takeName (terminator : Char) (what : String) : Parse (List Char) := do
  nameLoop terminator what ((← get).rest.length + 1) []

/-- The number of groups opened so far, the whole match counted as one. -/
def groupCount : Parse Nat := do return (← get).widths.length + 1

def isClosed (g : Nat) : Parse Bool := do
  return g ≠ 0 && (((← get).widths[g - 1]?).getD none).isSome

/-- Inside a lookbehind a reference must lead to a group that was closed before it. -/
def checkLookbehind (g : Nat) : Parse Unit := do
  match (← get).lookbehindLimit with
  | none => return ()
  | some limit =>
      if !(← isClosed g) then fail .openReference 0
      else if limit ≤ g then fail .referenceIntoLookbehind 0

def openGroup (name : Option String) : Parse Nat := do
  let g ← groupCount
  match name with
  | none => modify fun r => { r with widths := r.widths ++ [none] }
  | some n =>
      match (← get).names.lookup n with
      | some previous => fail (.redefinedName n g previous) (n.length + 1)
      | none =>
          modify fun r => { r with widths := r.widths ++ [none], names := r.names ++ [(n, g)] }
  return g

/-- Closes group `g`, whose content has the width `w`. -/
def closeGroup (g : Nat) (w : Width) : Parse Unit :=
  modify fun r => { r with widths := r.widths.set (g - 1) (some w) }

/-- Refuses a name that is no identifier; `offset` characters follow it. -/
def checkGroupName (name : List Char) (offset : Nat) : Parse Unit := do
  if !Text.isIdentifier name then
    fail (.badGroupName (String.ofList name)) (name.length + offset)

end Parse

end FolderTag.Regex
