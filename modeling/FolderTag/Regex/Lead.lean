import FolderTag.Regex.Fold

/-! # Where a search may begin

A search looks only at places whose next character could begin a match. Where a pattern begins with
a set, that set decides, read under the flags of the whole pattern and not under those of the groups
around it. -/

namespace FolderTag.Regex

open FolderTag.Text

/-- What is known about the first character of a match. -/
inductive Lead where
  /-- The expression consumes nothing; what follows decides. -/
  | passes
  /-- The first character is not restricted. -/
  | free
  /-- The first character is looked up in a set. -/
  | set (negated : Bool) (items : List SetItem)
deriving Repr, DecidableEq

/-- Whether a code point has another case. -/
def Fold.hasCase (f : Fold) (n : Nat) : Bool := f.lower n != n || f.upper n != n

/-- Whether case matters to a member of a set. A range beyond U+FFFF counts as if it did. -/
def SetItem.hasCase (f : Fold) : SetItem → Bool
  | .code n => f.hasCase n
  | .range low high =>
      0xffff < high || (List.range' low (high + 1 - low)).any f.hasCase
  | .named _ _ => false

/-- What is known about the first character of an expression. -/
def Node.lead : Node → Flags → Lead
  | .empty, _ => .passes
  | .seq a b, flags =>
      match a.lead flags with
      | .passes => b.lead flags
      | known => known
  | .group none on off body, flags =>
      if on = .none ∧ off = .none then body.lead flags
      else match body.lead (flags.within on off) with
        | .passes => .free
        | known => known
  | .group (some _) on off body, flags =>
      match body.lead (flags.within on off) with
      | .passes => .free
      | known => known
  | .set negated items, flags =>
      if flags.ignoreCase && items.any (·.hasCase flags.fold) then .free else .set negated items
  | _, _ => .free

/-- Whether a search under `flags` may begin before the characters `after`. -/
def Lead.admits (flags : Flags) : Lead → List Char → Bool
  | .set negated items, c :: _ => setHolds { flags with ignoreCase := false } negated items c
  | .set .., [] => false
  | _, _ => true

end FolderTag.Regex
