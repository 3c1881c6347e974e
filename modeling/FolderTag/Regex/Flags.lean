/-! # Matching flags

The switches that change how a pattern is read or matched, given beside the pattern or inside it. -/

namespace FolderTag.Regex

/-- A set of switches. `ascii` and `unicode` choose what word characters, digits and case are. -/
structure Flags where
  template : Bool := false
  ignoreCase : Bool := false
  multiline : Bool := false
  dotAll : Bool := false
  unicode : Bool := false
  verbose : Bool := false
  ascii : Bool := false
deriving Repr, DecidableEq, Inhabited

namespace Flags

def none : Flags := {}

def union (a b : Flags) : Flags where
  template := a.template || b.template
  ignoreCase := a.ignoreCase || b.ignoreCase
  multiline := a.multiline || b.multiline
  dotAll := a.dotAll || b.dotAll
  unicode := a.unicode || b.unicode
  verbose := a.verbose || b.verbose
  ascii := a.ascii || b.ascii

def without (a b : Flags) : Flags where
  template := a.template && !b.template
  ignoreCase := a.ignoreCase && !b.ignoreCase
  multiline := a.multiline && !b.multiline
  dotAll := a.dotAll && !b.dotAll
  unicode := a.unicode && !b.unicode
  verbose := a.verbose && !b.verbose
  ascii := a.ascii && !b.ascii

/-- Whether a switch is set in both. -/
def meets (a b : Flags) : Bool :=
  (a.template && b.template) || (a.ignoreCase && b.ignoreCase) || (a.multiline && b.multiline) ||
    (a.dotAll && b.dotAll) || (a.unicode && b.unicode) || (a.verbose && b.verbose) ||
    (a.ascii && b.ascii)

/-- Whether one of the two alphabets is chosen. -/
def choosesAlphabet (a : Flags) : Bool := a.unicode || a.ascii

/-- The switches inside a group that turns `on` some and `off` others. Choosing an alphabet
replaces the one chosen before. -/
def within (a on off : Flags) : Flags :=
  let base := if on.choosesAlphabet then { a with unicode := false, ascii := false } else a
  (base.union on).without off

def code (a : Flags) : Nat :=
  let bit := fun (b : Bool) (n : Nat) => if b then n else 0
  bit a.template 1 + bit a.ignoreCase 2 + bit a.multiline 8 + bit a.dotAll 16 +
    bit a.unicode 32 + bit a.verbose 64 + bit a.ascii 256

end Flags

/-- One letter of an inline flag group. -/
inductive FlagLetter where
  | switch (flags : Flags)
  | locale
deriving Repr, DecidableEq

/-- The letters that an inline flag group may hold. -/
def FlagLetter.ofChar? : Char → Option FlagLetter
  | 'i' => some (.switch { ignoreCase := true })
  | 'L' => some .locale
  | 'm' => some (.switch { multiline := true })
  | 's' => some (.switch { dotAll := true })
  | 'x' => some (.switch { verbose := true })
  | 'a' => some (.switch { ascii := true })
  | 't' => some (.switch { template := true })
  | 'u' => some (.switch { unicode := true })
  | _ => none

end FolderTag.Regex
