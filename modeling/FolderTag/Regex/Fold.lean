import FolderTag.Text.Blank
import FolderTag.Text.Case
import FolderTag.Text.Class
import FolderTag.Regex.Syntax

/-! # Characters against patterns

Which characters a literal, a set or a shorthand class stands for. With case ignored, characters
are compared by their lower case image, and lower case letters that share a capital are equal. -/

namespace FolderTag.Regex

open FolderTag.Text

/-- Lower case code points with the other lower case code points that share their capital. -/
def sharedCapitals : List (Nat × List Nat) := [
  (0x69, [0x131]), (0x73, [0x17f]), (0xb5, [0x3bc]), (0x131, [0x69]),
  (0x17f, [0x73]), (0x345, [0x3b9, 0x1fbe]), (0x390, [0x1fd3]), (0x3b0, [0x1fe3]),
  (0x3b2, [0x3d0]), (0x3b5, [0x3f5]), (0x3b8, [0x3d1]), (0x3b9, [0x345, 0x1fbe]),
  (0x3ba, [0x3f0]), (0x3bc, [0xb5]), (0x3c0, [0x3d6]), (0x3c1, [0x3f1]),
  (0x3c2, [0x3c3]), (0x3c3, [0x3c2]), (0x3c6, [0x3d5]), (0x3d0, [0x3b2]),
  (0x3d1, [0x3b8]), (0x3d5, [0x3c6]), (0x3d6, [0x3c0]), (0x3f0, [0x3ba]),
  (0x3f1, [0x3c1]), (0x3f5, [0x3b5]), (0x432, [0x1c80]), (0x434, [0x1c81]),
  (0x43e, [0x1c82]), (0x441, [0x1c83]), (0x442, [0x1c84, 0x1c85]), (0x44a, [0x1c86]),
  (0x463, [0x1c87]), (0x1c80, [0x432]), (0x1c81, [0x434]), (0x1c82, [0x43e]),
  (0x1c83, [0x441]), (0x1c84, [0x442, 0x1c85]), (0x1c85, [0x442, 0x1c84]), (0x1c86, [0x44a]),
  (0x1c87, [0x463]), (0x1c88, [0xa64b]), (0x1e61, [0x1e9b]), (0x1e9b, [0x1e61]),
  (0x1fbe, [0x345, 0x3b9]), (0x1fd3, [0x390]), (0x1fe3, [0x3b0]), (0xa64b, [0x1c88]),
  (0xfb05, [0xfb06]), (0xfb06, [0xfb05])]

/-- How characters are brought to another case. -/
structure Fold where
  /-- The lower case image of a code point. -/
  lower : Nat → Nat
  /-- The upper case image of a code point. -/
  upper : Nat → Nat
  /-- The other images that count as equal. -/
  partners : Nat → List Nat
  /-- The code points with a given image. -/
  sources : Nat → List Nat

/-- The first code point of the upper case image. -/
def upperCode (n : Nat) : Nat := (upperImage n).headD n

/-- The first code point of the lower case image. -/
def lowerCode (n : Nat) : Nat := (lowerImage n).headD n

/-- Case over all scripts. -/
def Fold.unicode : Fold where
  lower := lowerCode
  upper := upperCode
  partners n := (sharedCapitals.lookup n).getD []
  sources m :=
    (if lowerCode m = m then [m] else []) ++ lowerRuns.filterMap (·.preimage? m) ++
      lowerSequences.filterMap fun (n, ns) => if ns.head? = some m then some n else none

/-- Case over the 26 letters only. -/
def Fold.ascii : Fold where
  lower n := if 65 ≤ n ∧ n ≤ 90 then n + 32 else n
  upper n := if 97 ≤ n ∧ n ≤ 122 then n - 32 else n
  partners _ := []
  sources m :=
    if 97 ≤ m ∧ m ≤ 122 then [m, m - 32] else if 65 ≤ m ∧ m ≤ 90 then [] else [m]

def Flags.fold (flags : Flags) : Fold := if flags.unicode then .unicode else .ascii

/-- Whether a character belongs to a shorthand class. -/
def ClassKind.holds (unicode : Bool) : ClassKind → Char → Bool
  | .digit, c => if unicode then isDecimal c else c.isDigit
  | .space, c => if unicode then isBlank c else isAsciiBlank c
  | .word, c => if unicode then isWordChar c else isAsciiWordChar c

/-- Whether `c` is the literal `n`. -/
def literalHolds (flags : Flags) (n : Nat) (c : Char) : Bool :=
  if flags.ignoreCase then
    let f := flags.fold
    let image := f.lower n
    let folded := f.lower c.toNat
    folded == image || (f.partners image).contains folded
  else c.toNat == n

namespace SetItem

/-- Whether `c` belongs to a member of a set, case being significant. -/
def holds (unicode : Bool) : SetItem → Char → Bool
  | .code n, c => c.toNat == n
  | .range low high, c => low ≤ c.toNat && c.toNat ≤ high
  | .named kind negated, c => kind.holds unicode c != negated

/-- Whether the lower case image `folded` belongs to a member of a set. Inside a set, a code point
beyond U+FFFF stands for itself only, and a range that reaches there is compared as it is written,
with the image and its capital. -/
def holdsFolded (unicode : Bool) (f : Fold) : SetItem → Nat → Bool
  | .code n, folded =>
      let image := f.lower n
      if image ≤ 0xffff then folded == image || (f.partners image).contains folded
      else folded == n
  | .range low high, folded =>
      let inside := fun n => low ≤ n && n ≤ high
      (folded :: f.partners folded).any (fun image =>
          (f.sources image).any fun n => inside n && n ≤ 0xffff) ||
        (0xffff < high && (inside folded || inside (upperCode folded)))
  | .named kind negated, folded => kind.holds unicode (Char.ofNat folded) != negated

end SetItem

/-- Whether `c` belongs to a set. -/
def setHolds (flags : Flags) (negated : Bool) (items : List SetItem) (c : Char) : Bool :=
  let member :=
    if flags.ignoreCase then
      let f := flags.fold
      let folded := f.lower c.toNat
      items.any fun item => item.holdsFolded flags.unicode f folded
    else items.any fun item => item.holds flags.unicode c
  member != negated

end FolderTag.Regex
