import FolderTag.Text.Property.CaseMap
import FolderTag.Text.Property.Cased

/-! # Lower and upper case

Case conversion of whole texts. A capital sigma becomes a final sigma at the end of a word, and a
character may become several. -/

namespace FolderTag.Text

namespace CaseRun

/-- The image of a code point that belongs to the run. -/
def image? (r : CaseRun) (n : Nat) : Option Nat :=
  if r.first ≤ n ∧ n ≤ r.last ∧ (n - r.first) % r.step = 0 then some (n + r.shift).toNat else none

/-- The image under an ascending list of runs; a code point in none of them stays. -/
def image : List CaseRun → Nat → Nat
  | [], n => n
  | r :: rs, n =>
      if n < r.first then n
      else match r.image? n with
        | some m => m
        | none => image rs n

/-- The code points whose image under one run is `m`. -/
def preimage? (r : CaseRun) (m : Nat) : Option Nat :=
  let n := (m - r.shift).toNat
  if r.image? n = some m then some n else none

end CaseRun

/-- The lower case image of one character, out of context. -/
def lowerImage (n : Nat) : List Nat :=
  match lowerSequences.lookup n with
  | some ns => ns
  | none => [CaseRun.image lowerRuns n]

/-- The upper case image of one character. -/
def upperImage (n : Nat) : List Nat :=
  match upperSequences.lookup n with
  | some ns => ns
  | none => [CaseRun.image upperRuns n]

/-- Whether the nearest character that is not skipped has case. -/
def casedNext : List Char → Bool
  | [] => false
  | c :: cs =>
      if CodeRange.covers caseIgnorableRanges c.toNat then casedNext cs
      else CodeRange.covers casedRanges c.toNat

/-- A capital sigma is final when a cased character stands before it and none after it. -/
def lowerSigma (before after : List Char) : Char :=
  if casedNext before && !casedNext after then 'ς' else 'σ'

/-- Lower case of `s`, where `before` holds the preceding characters, nearest first. -/
def lowerAfter (before : List Char) : List Char → List Char
  | [] => []
  | c :: cs =>
      (if c = 'Σ' then [lowerSigma before cs] else (lowerImage c.toNat).map Char.ofNat) ++
        lowerAfter (c :: before) cs

def lower (s : List Char) : List Char := lowerAfter [] s

def upper (s : List Char) : List Char := s.flatMap fun c => (upperImage c.toNat).map Char.ofNat

end FolderTag.Text
