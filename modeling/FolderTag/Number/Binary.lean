/-! # Binary floating point, exactly

A finite double is `mantissa * 2 ^ exponent`. Decimal texts are computed from that pair with
natural numbers only. -/

namespace FolderTag.Number

/-- The magnitude `mantissa * 2 ^ exponent` of a finite double. -/
structure Magnitude where
  mantissa : Nat
  exponent : Int
deriving Repr, DecidableEq

namespace Magnitude

/-- Reads the fields of the 64-bit word, whose sign is dropped. -/
def ofFloat (x : Float) : Magnitude :=
  let bits := x.toBits.toNat
  let fraction : Nat := bits % Nat.pow 2 52
  let biased : Nat := bits / Nat.pow 2 52 % Nat.pow 2 11
  if biased = 0 then ⟨fraction, -1074⟩ else ⟨Nat.pow 2 52 + fraction, (biased : Int) - 1075⟩

/-- Compares `a * 2 ^ x` with `b * 10 ^ y` exactly. -/
def compareDecimal (a : Nat) (x : Int) (b : Nat) (y : Int) : Ordering :=
  compare (a * Nat.pow 2 x.toNat * Nat.pow 10 (-y).toNat)
    (b * Nat.pow 10 y.toNat * Nat.pow 2 (-x).toNat)

/-- The largest `d` with `d * 10 ^ t` at most the magnitude. -/
def floorAt (v : Magnitude) (t : Int) : Nat :=
  (v.mantissa * Nat.pow 2 v.exponent.toNat * Nat.pow 10 (-t).toNat) /
    (Nat.pow 2 (-v.exponent).toNat * Nat.pow 10 t.toNat)

/-- The nearest multiple of `10 ^ t`, a tie going to the even one. -/
def roundAt (v : Magnitude) (t : Int) : Nat :=
  let d := v.floorAt t
  match compareDecimal (2 * v.mantissa) v.exponent (2 * d + 1) t with
  | .lt => d
  | .gt => d + 1
  | .eq => if d % 2 = 0 then d else d + 1

end Magnitude

/-- Whether the sign bit is set; minus zero is negative. -/
def isNegative (x : Float) : Bool := x.toBits.toNat / Nat.pow 2 63 = 1

end FolderTag.Number
