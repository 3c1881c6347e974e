import FolderTag.Number.Binary

/-! # Shortest decimal text

The fewest decimal digits that read back as the same double; of two such, the nearer. -/

namespace FolderTag.Number

namespace Magnitude

/-- Whether `d * 10 ^ t` reads back as `v`: it lies within half a step of `v`, and an end counts
when the mantissa is even. Below a power of two the step is half as wide. -/
def readsBack (v : Magnitude) (d : Nat) (t : Int) : Bool :=
  let lowGap := if v.mantissa = Nat.pow 2 52 ∧ v.exponent > -1074 then 1 else 2
  let low := compareDecimal (4 * v.mantissa - lowGap) (v.exponent - 2) d t
  let high := compareDecimal (4 * v.mantissa + 2) (v.exponent - 2) d t
  let closed := v.mantissa % 2 = 0
  (low = .lt || (closed && low = .eq)) && (high = .gt || (closed && high = .eq))

/-- The multiple of `10 ^ t` that reads back as `v`, the nearer of two. -/
def hit? (v : Magnitude) (t : Int) : Option Nat :=
  let d := v.floorAt t
  match d ≠ 0 && v.readsBack d t, v.readsBack (d + 1) t with
  | true, true => some (v.roundAt t)
  | true, false => some d
  | false, true => some (d + 1)
  | false, false => none

/-- The first grid, from coarse to fine, that holds a decimal reading back as `v`. -/
def search (v : Magnitude) : Nat → Int → Nat × Int
  | 0, t => (v.floorAt t, t)
  | fuel + 1, t =>
      match v.hit? t with
      | some d => (d, t)
      | none => search v fuel (t - 1)

/-- Digits and decimal exponent of the shortest decimal, for a magnitude that is not zero. -/
def shortest (v : Magnitude) : Nat × Int :=
  let whole := (Nat.toDigits 10 (v.floorAt 0)).length
  search v (whole + 345) whole

end Magnitude

/-- Writes `digits`, read as `0.digits * 10 ^ point`, in positional or exponent notation. An
exponent is used below `10 ^ -4` and from `10 ^ 16` on, with a sign and at least two digits. -/
def layout (digits : List Char) (point : Int) : List Char :=
  let size : Int := digits.length
  if point > 16 ∨ point < -3 then
    let e := point - 1
    let mag := Nat.toDigits 10 e.natAbs
    let fraction := digits.drop 1
    digits.take 1 ++ (if fraction = [] then [] else '.' :: fraction) ++
      ['e', if e < 0 then '-' else '+'] ++ (if mag.length < 2 then '0' :: mag else mag)
  else if point ≤ 0 then
    ['0', '.'] ++ List.replicate (-point).toNat '0' ++ digits
  else if size ≤ point then
    digits ++ List.replicate (point - size).toNat '0' ++ ['.', '0']
  else
    digits.take point.toNat ++ '.' :: digits.drop point.toNat

/-- The shortest text that reads back as the same double. -/
def floatText (x : Float) : List Char :=
  if x.isNaN then "nan".toList
  else
    let sign := if isNegative x then ['-'] else []
    if x.isInf then sign ++ "inf".toList
    else
      let v := Magnitude.ofFloat x
      if v.mantissa = 0 then sign ++ "0.0".toList
      else
        let (d, t) := v.shortest
        let digits := Nat.toDigits 10 d
        sign ++ layout digits (digits.length + t)

end FolderTag.Number
