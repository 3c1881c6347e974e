import FolderTag.Document.Yaml.Moment
import FolderTag.Document.Yaml.Token
import FolderTag.Number.Reading
import FolderTag.Text.Case

/-! # What texts stand for

A text without quotes may stand for a value of another kind; its form alone decides. A tag can ask
for a kind as well. -/

namespace FolderTag.Document.Yaml

open FolderTag.Number (readSign)

/-- The kinds of values that a text can have. -/
inductive Kind where
  | null
  | bool
  | int
  | float
  | stamp
  | text
  /-- The key under which mappings are merged. -/
  | merge
  /-- The key for a value that has no other. -/
  | itself
  | list
  | map
deriving Repr, DecidableEq

namespace Kind

/-- What the tags of all common kinds begin with. -/
def tagStart : String := "tag:yaml.org,2002:"

def ofTag? (tag : String) : Option Kind :=
  [("null", .null), ("bool", .bool), ("int", .int), ("float", .float), ("timestamp", .stamp),
    ("str", .text), ("merge", .merge), ("value", .itself), ("seq", .list), ("map", .map)].lookup
    (String.ofList (tag.toList.drop tagStart.length)) |>.filter fun _ => tag.startsWith tagStart

end Kind

/-! ## Words -/

/-- A word, the word with a capital, and the word in capitals. -/
def casings (word : String) : List (List Char) :=
  [word.toList, word.toList.modifyHead Char.toUpper, word.toList.map Char.toUpper]

def truthWords : List (String × Bool) :=
  [("yes", true), ("no", false), ("true", true), ("false", false), ("on", true), ("off", false)]

/-- Whether a text is one of `words` in one of their casings. -/
def isWord (words : List String) (s : List Char) : Bool := words.any fun w => (casings w).contains s

def isNothing (s : List Char) : Bool := s.isEmpty || s = ['~'] || isWord ["null"] s

/-! ## Forms of numbers -/

/-- Whether a character is a digit or separates digits. -/
def isSpacedDigit (c : Char) : Bool := c.isDigit || c = '_'

/-- Digits with underscores among them, a digit first. -/
def isDigits : List Char → Bool
  | c :: cs => c.isDigit && cs.all isSpacedDigit
  | [] => false

/-- A number below sixty, in one or two digits. -/
def isSixtieth : List Char → Bool
  | [c] => c.isDigit
  | [c, d] => '0' ≤ c && c ≤ '5' && d.isDigit
  | _ => false

/-- Digits and at least one part below sixty behind colons. -/
def isSexagesimal (s : List Char) : Bool :=
  match Text.splitAt ':' s with
  | whole :: part :: parts => isDigits whole && (part :: parts).all isSixtieth
  | _ => false

/-- A hexadecimal digit or an underscore. -/
def isHexDigit (c : Char) : Bool :=
  isSpacedDigit c || ('a' ≤ c && c ≤ 'f') || ('A' ≤ c && c ≤ 'F')

def isUnsignedWhole : List Char → Bool
  | '0' :: 'b' :: ds => !ds.isEmpty && ds.all fun c => c = '0' || c = '1' || c = '_'
  | '0' :: 'x' :: ds => !ds.isEmpty && ds.all isHexDigit
  | '0' :: ds => ds.all fun c => ('0' ≤ c && c ≤ '7') || c = '_'
  | s => isDigits s || isSexagesimal s

def isWhole (s : List Char) : Bool := isUnsignedWhole (readSign s).2

/-- A power of ten behind a decimal number; its sign must be there. -/
def isPower : List Char → Bool
  | [] => true
  | e :: sign :: ds =>
      (e = 'e' || e = 'E') && (sign = '+' || sign = '-') && !ds.isEmpty && ds.all Char.isDigit
  | _ => false

def isDecimal (s : List Char) : Bool :=
  let before := s.takeWhile (· ≠ '.')
  match s.dropWhile (· ≠ '.') with
  | _ :: after =>
      (isDigits before && isPower (after.dropWhile isSpacedDigit)) ||
        (isSexagesimal before && after.all isSpacedDigit)
  | [] => false

def isFraction : List Char → Bool
  | '.' :: c :: cs => c.isDigit && isPower (cs.dropWhile isSpacedDigit)
  | _ => false

def isFloat (s : List Char) : Bool :=
  let unsigned := (readSign s).2
  isDecimal unsigned || isFraction s || [".inf", ".Inf", ".INF"].any (·.toList = unsigned) ||
    [".nan", ".NaN", ".NAN"].any (·.toList = s)

def kindOf (s : List Char) : Kind :=
  if isNothing s then .null
  else if isWord (truthWords.map (·.1)) s then .bool
  else if isWhole s then .int
  else if isFloat s then .float
  else if (Stamp.recognise? s).isSome then .stamp
  else if s = "<<".toList then .merge
  else if s = ['='] then .itself
  else .text

/-! ## Values of numbers -/

def withoutSpacing (s : List Char) : List Char := s.filter (· ≠ '_')

def digitValue? (base : Nat) (c : Char) : Option Nat :=
  let n :=
    if c.isDigit then c.toNat - 48
    else if 'a' ≤ c ∧ c ≤ 'f' then c.toNat - 87
    else if 'A' ≤ c ∧ c ≤ 'F' then c.toNat - 55
    else base
  if n < base then some n else none

def readBase? (base : Nat) (s : List Char) : Option Nat :=
  if s.isEmpty then none
  else (s.mapM (digitValue? base)).map fun ds => ds.foldl (fun n d => base * n + d) 0

/-- The value of parts of which each counts sixty times as much as the next. -/
def sixties {α : Type} [Add α] [Mul α] (zero : α) (power : Nat → α) (parts : List α) : α :=
  (parts.reverse.zipIdx.foldl (fun sum (part, i) => sum + part * power (Nat.pow 60 i)) zero)

def unsignedWhole? : List Char → Option Int
  | ['0'] => some 0
  | '0' :: 'b' :: ds => (readBase? 2 ds).map Int.ofNat
  | '0' :: 'x' :: ds => (readBase? 16 ds).map Int.ofNat
  | '0' :: ds => (readBase? 8 ('0' :: ds)).map Int.ofNat
  | s =>
      if s.contains ':' then
        ((Text.splitAt ':' s).mapM Number.readInt?).map (sixties 0 Int.ofNat)
      else Number.readInt? s

def whole? (s : List Char) : Option Int :=
  let (negative, unsigned) := readSign (withoutSpacing s)
  (unsignedWhole? unsigned).map fun n => if negative then -n else n

def unsignedFloat? (s : List Char) : Option Float :=
  if s = ".inf".toList then some (1.0 / 0.0)
  else if s = ".nan".toList then some (0.0 / 0.0)
  else if s.contains ':' then
    ((Text.splitAt ':' s).mapM Number.readFloat?).map (sixties 0.0 Float.ofNat)
  else Number.readFloat? s

def float? (s : List Char) : Option Float :=
  let (negative, unsigned) := readSign ((withoutSpacing s).map Char.toLower)
  (unsignedFloat? unsigned).map fun x => if negative then -x else x

/-! ## Values of texts -/

/-- What is missing in a text that is no number. -/
def lackOf (s : List Char) : NoValue :=
  if (withoutSpacing s).isEmpty then .noNumber else .noSuchThing

def valueOf (kind : Kind) (text : String) : Except Failure Value :=
  let s := text.toList
  let orElse (why : NoValue) : Option Value → Except Failure Value
    | some v => .ok v
    | none => .error (.noValue why)
  match kind with
  | .null => .ok .null
  | .bool => orElse .notAWord ((truthWords.lookup (String.ofList (Text.lower s))).map .bool)
  | .int => orElse (lackOf s) ((whole? s).map .int)
  | .float => orElse (lackOf s) ((float? s).map .float)
  | .stamp =>
      match Stamp.read? s with
      | some stamp => orElse .noSuchThing stamp.value?
      | none => .error (.noValue .notAMoment)
  | .text => .ok (.text text)
  | .merge | .itself => refuse .unknownTag
  | .list | .map => refuse .wrongKind

end FolderTag.Document.Yaml
