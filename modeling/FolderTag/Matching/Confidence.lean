/-! # Confidence

How closely a pattern describes a text that it matches: an exact pattern is certain, wildcards take
confidence away, and literal characters and depth add to it. -/

namespace FolderTag.Matching

/-- The confidence before anything is counted. -/
def baseConfidence : Float := 0.5

def starPenalty : Float := 0.1

def questionPenalty : Float := 0.05

def lengthBonus : Float := 0.2

def depthBonus : Float := 0.05

/-- The smaller number, the first where they do not differ. -/
def smaller (x y : Float) : Float := if y < x then y else x

/-- The greater number, the first where they do not differ. -/
def greater (x y : Float) : Float := if x < y then y else x

/-- How much of the text the literal characters of a pattern cover, at most all of it. -/
def coverage (text pattern : List Char) : Float :=
  let literal := pattern.filter fun c => c != '*' && c != '?'
  smaller 1.0 (Float.ofNat literal.length / Float.ofNat text.length)

/-- The confidence that a pattern has in a text, before it is held between none and full. -/
def rawConfidence (text pattern : List Char) : Float :=
  let count := fun c => Float.ofNat (pattern.count c)
  let x := baseConfidence - count '*' * starPenalty - count '?' * questionPenalty
  let x := if text.isEmpty then x else x + coverage text pattern * lengthBonus
  x + count '/' * depthBonus

/-- The confidence that a pattern has in a text. -/
def confidence (text pattern : String) : Float :=
  if pattern = text then 1.0
  else greater 0.0 (smaller 1.0 (rawConfidence text.toList pattern.toList))

end FolderTag.Matching
