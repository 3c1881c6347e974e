import FolderTag.Text.Property.Decomposition

/-! # Canonical composition

Normalization form C: every character is taken apart, marks are put in the order of their
combining classes, and what can be put together again is put together. -/

namespace FolderTag.Text

/-- The combining class under an ascending list of runs. -/
def combiningIn : List CombiningRun → Nat → Nat
  | [], _ => 0
  | r :: rs, n => if n < r.first then 0 else if n ≤ r.last then r.rank else combiningIn rs n

/-- The combining class of a code point; zero for a base character. -/
def combiningClass (n : Nat) : Nat := combiningIn combiningRuns n

def isHangulSyllable (n : Nat) : Bool := 0xac00 ≤ n && n < 0xac00 + 11172

/-- One step of taking a code point apart; nothing below U+00C0 comes apart. -/
def splitOnce (n : Nat) : List Nat :=
  if n < 0xc0 then [n]
  else if isHangulSyllable n then
    let i := n - 0xac00
    let tail := i % 28
    [0x1100 + i / 588, 0x1161 + i % 588 / 28] ++ if tail = 0 then [] else [0x11a7 + tail]
  else
    let singles := [singletonsA, singletonsB, singletonsC, singletonsD]
    match singles.findSome? (·.lookup n) with
    | some m => [m]
    | none =>
        let same := fun (p : ComposedPair) => p.whole == n
        match [pairsA, pairsB, pairsC, pairsD].findSome? (·.find? same) with
        | some p => [p.base, p.mark]
        | none => [n]

/-- Takes every code point apart completely: no decomposition nests deeper than three. -/
def decompose (ns : List Nat) : List Nat :=
  ((ns.flatMap splitOnce).flatMap splitOnce).flatMap splitOnce

/-- Puts a mark behind the marks of a lower or equal class at the end of `done` (last first). -/
def insertMark (n : Nat) : List Nat → List Nat
  | [] => [n]
  | m :: done =>
      if combiningClass n ≠ 0 ∧ combiningClass n < combiningClass m then m :: insertMark n done
      else n :: m :: done

/-- Orders each run of marks by combining class, equal classes in their order. -/
def orderMarks (ns : List Nat) : List Nat := (ns.foldl (fun done n => insertMark n done) []).reverse

/-- The composition of a leading, a vowel and a trailing jamo. -/
def composeHangul? (a b : Nat) : Option Nat :=
  if 0x1100 ≤ a ∧ a < 0x1113 ∧ 0x1161 ≤ b ∧ b < 0x1176 then
    some (0xac00 + ((a - 0x1100) * 21 + (b - 0x1161)) * 28)
  else if isHangulSyllable a ∧ (a - 0xac00) % 28 = 0 ∧ 0x11a8 ≤ b ∧ b < 0x11c3 then
    some (a + (b - 0x11a7))
  else none

/-- The one code point that stands for `a` followed by `b`; no mark lies below U+0300. -/
def composePair? (a b : Nat) : Option Nat :=
  if b < 0x300 then none
  else match composeHangul? a b with
  | some n => some n
  | none =>
      let fits := fun (p : ComposedPair) => p.base == a && p.mark == b && !uncomposed.contains p.whole
      ([pairsA, pairsB, pairsC, pairsD].findSome? (·.find? fits)).map (·.whole)

/-- Puts `base` together with the characters that follow it. `kept` holds those that stay behind
`base`, last first, and `rank` is the class of the last of them (zero when there is none). -/
def composeFrom (base : Nat) (kept : List Nat) (rank : Nat) : List Nat → List Nat
  | [] => base :: kept.reverse
  | n :: ns =>
      let r := combiningClass n
      if kept ≠ [] ∧ r ≠ 0 ∧ r ≤ rank then composeFrom base (n :: kept) rank ns
      else match if kept = [] ∨ r ≠ 0 then composePair? base n else none with
        | some m => composeFrom m kept rank ns
        | none =>
            if r = 0 then base :: (kept.reverse ++ composeFrom n [] 0 ns)
            else composeFrom base (n :: kept) r ns

def compose : List Nat → List Nat
  | [] => []
  | n :: ns =>
      if combiningClass n = 0 then composeFrom n [] 0 ns else n :: compose ns

/-- Normalization form C. -/
def canonical (s : List Char) : List Char :=
  (compose (orderMarks (decompose (s.map Char.toNat)))).map Char.ofNat

end FolderTag.Text
