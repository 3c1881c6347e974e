import FolderTag.Text.Blank
import FolderTag.Text.Class

/-! # Reading numbers

Whole and decimal numbers as people type them: decimal digits of any script, single underscores
between digits, a sign, and white space around the whole. -/

namespace FolderTag.Number

open FolderTag.Text

/-- A whole number of more digits than this is refused. -/
def digitLimit : Nat := 4300

/-- White space that may surround a number. The information separators are not part of it. -/
def isNumberBlank (c : Char) : Bool := if c.toNat < 128 then isAsciiBlank c else isBlank c

/-- What may follow a digit: more digits, each underscore standing between two of them. Answers the
digit values and the rest of the text, or nothing where an underscore is misplaced. -/
def readMoreDigits : List Char → Option (List Nat × List Char)
  | [] => some ([], [])
  | '_' :: c :: cs =>
      match decimalValue? c with
      | some d => (readMoreDigits cs).map fun (ds, r) => (d :: ds, r)
      | none => none
  | ['_'] => none
  | c :: cs =>
      match decimalValue? c with
      | some d => (readMoreDigits cs).map fun (ds, r) => (d :: ds, r)
      | none => some ([], c :: cs)

def readDigits : List Char → Option (List Nat × List Char)
  | [] => none
  | c :: cs =>
      match decimalValue? c with
      | some d => (readMoreDigits cs).map fun (ds, r) => (d :: ds, r)
      | none => none

/-- The number that a list of decimal digits stands for. -/
def ofDigits (ds : List Nat) : Nat := ds.foldl (fun n d => 10 * n + d) 0

/-- Takes a sign off; the flag says whether it was a minus. -/
def readSign : List Char → Bool × List Char
  | '-' :: cs => (true, cs)
  | '+' :: cs => (false, cs)
  | cs => (false, cs)

/-- A whole number. -/
def readInt? (s : List Char) : Option Int :=
  let (negative, body) := readSign (trimWhile isNumberBlank s)
  match readDigits body with
  | some (ds, []) =>
      if ds.length > digitLimit then none
      else some (if negative then -(ofDigits ds : Int) else ofDigits ds)
  | _ => none

/-- The double nearest to `n * 10 ^ e`. Exponents far outside the range of doubles are settled
without computing the power. -/
def scaled (n : Nat) (e : Int) : Float :=
  let size : Int := (Nat.toDigits 10 n).length
  if n = 0 then 0.0
  else if size + e > 400 then 1.0 / 0.0
  else if size + e < -400 then 0.0
  else if e < 0 then Float.ofScientific n true e.natAbs else Float.ofScientific n false e.natAbs

/-- The exponent of a decimal number: nothing, or `e`, a sign and digits, up to the end. -/
def readExponent : List Char → Option Int
  | [] => some 0
  | e :: cs =>
      if e = 'e' ∨ e = 'E' then
        let (negative, body) := readSign cs
        match readDigits body with
        | some (ds, []) => some (if negative then -(ofDigits ds : Int) else ofDigits ds)
        | _ => none
      else none

/-- A decimal number without sign: digits with a point before, between or after them, and an
optional exponent. -/
def readMagnitude (cs : List Char) : Option Float :=
  let (whole, rest) := match readDigits cs with
    | some (ds, r) => (ds, r)
    | none => ([], cs)
  let (fraction, tail) := match rest with
    | '.' :: r =>
        match readDigits r with
        | some (ds, t) => (ds, t)
        | none => ([], r)
    | r => ([], r)
  if whole = [] ∧ fraction = [] then none
  else (readExponent tail).map fun e => scaled (ofDigits (whole ++ fraction)) (e - fraction.length)

/-- A decimal number, an infinity or not a number. -/
def readFloat? (s : List Char) : Option Float :=
  let (negative, body) := readSign (trimWhile isNumberBlank s)
  let word := String.ofList (body.map Char.toLower)
  let magnitude :=
    if word = "inf" ∨ word = "infinity" then some (1.0 / 0.0)
    else if word = "nan" then some (0.0 / 0.0)
    else readMagnitude body
  magnitude.map fun x => if negative then -x else x

end FolderTag.Number
