import FolderTag.Number.Binary

/-! # Fixed decimal places

Rounding of a double to a number of decimal places, exactly, a tie going to the even digit. -/

namespace FolderTag.Number

/-- The finite double nearest to `x` with at most `places` decimal places. -/
def roundTo (places : Nat) (x : Float) : Float :=
  let n := (Magnitude.ofFloat x).roundAt (-places)
  let y := Float.ofScientific n true places
  if isNegative x then -y else y

/-- The finite double `x` with exactly `places` decimal places, for `places` above zero. -/
def fixedText (places : Nat) (x : Float) : List Char :=
  let n := (Magnitude.ofFloat x).roundAt (-places)
  let digits := Nat.toDigits 10 n
  let padded := List.replicate (places + 1 - digits.length) '0' ++ digits
  (if isNegative x then ['-'] else []) ++
    padded.take (padded.length - places) ++ '.' :: padded.drop (padded.length - places)

end FolderTag.Number
