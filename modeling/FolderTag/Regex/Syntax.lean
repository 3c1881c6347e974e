import FolderTag.Regex.Flags

/-! # Syntax of regular expressions

The tree that a pattern is read into. Characters are code points, because a pattern may name code
points that no text can hold. -/

namespace FolderTag.Regex

/-- The shorthand classes. -/
inductive ClassKind where
  | digit
  | space
  | word
deriving Repr, DecidableEq

/-- A member of a character set. -/
inductive SetItem where
  | code (n : Nat)
  | range (low high : Nat)
  | named (kind : ClassKind) (negated : Bool)
deriving Repr, DecidableEq

/-- Positions that a pattern may ask for. -/
inductive Anchor where
  | lineStart
  | lineEnd
  | textStart
  | textEnd
  | boundary
  | notBoundary
deriving Repr, DecidableEq

/-- How a repetition chooses the number of its rounds. -/
inductive Greed where
  | greedy
  | reluctant
  | possessive
deriving Repr, DecidableEq

/-- A regular expression. -/
inductive Node where
  | empty
  | seq (first second : Node)
  | alt (first second : Node)
  | code (negated : Bool) (n : Nat)
  | any
  | set (negated : Bool) (items : List SetItem)
  | anchor (a : Anchor)
  | group (index : Option Nat) (on off : Flags) (body : Node)
  | atomic (body : Node)
  | rep (greed : Greed) (low : Nat) (high : Option Nat) (body : Node)
  | look (behind negated : Bool) (body : Node)
  | backref (group : Nat)
  | cond (group : Nat) (yes no : Node)
deriving Repr, DecidableEq, Inhabited

namespace Node

/-- One item after another. -/
def sequence : List Node → Node
  | [] => .empty
  | [x] => x
  | x :: y :: xs => .seq x (sequence (y :: xs))

/-- The items that an expression consists of. A group that does nothing is no item of its own. -/
def items : Node → List Node
  | .empty => []
  | .seq a b => a.items ++ b.items
  | .group none on off body =>
      if on = .none ∧ off = .none then body.items else [.group none on off body]
  | n => [n]

/-- Whether an item is told apart by what it asks for. -/
def isPlain : Node → Bool
  | .code .. => true
  | .any => true
  | .set .. => true
  | .anchor _ => true
  | .backref _ => true
  | _ => false

/-- Splits the plain items off with which all rows begin, the first row being apart. -/
def splitCommon : List Node → List (List Node) → List Node × List (List Node)
  | [], rows => ([], [] :: rows)
  | x :: xs, rows =>
      if x.isPlain && rows.all (·.head? == some x) then
        let (common, rest) := splitCommon xs (rows.map List.tail)
        (x :: common, rest)
      else ([], (x :: xs) :: rows)

/-- The members of the set that a row of one item stands for. -/
def members? : List Node → Option (List SetItem)
  | [.code false n] => some [.code n]
  | [.set false members] => some members
  | _ => none

/-- One of several rows of items, the first ones being preferred. -/
def branches : List (List Node) → Node
  | [] => .empty
  | [row] => sequence row
  | row :: rows => .alt (sequence row) (branches rows)

/-- The first choice, or else one of the others. What all choices begin with is read only once, and
a choice between single characters is a set. -/
def choice (x : Node) : List Node → Node
  | [] => x
  | others =>
      let (common, rows) := splitCommon x.items (others.map items)
      match rows.mapM members? with
      | some sets => sequence (common ++ [.set false sets.flatten.eraseDups])
      | none => sequence (common ++ [branches rows])

end Node

end FolderTag.Regex
