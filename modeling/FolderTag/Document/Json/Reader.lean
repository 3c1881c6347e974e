import FolderTag.Document.Json.Error
import FolderTag.Document.Value
import FolderTag.Number.Reading

/-! # Reading JSON

A recursive descent over the characters. Besides standard JSON the reader knows the words `NaN`,
`Infinity` and `-Infinity`, and of two equal keys the last value counts. -/

namespace FolderTag.Document.Json

/-- What is left of a text, and the offset where it begins. -/
structure Place where
  offset : Nat
  rest : List Char
deriving Repr

namespace Place

def skip (p : Place) (n : Nat) : Place := ⟨p.offset + n, p.rest.drop n⟩

/-- The four blank characters of JSON. -/
def isSpace (c : Char) : Bool := c == ' ' || c == '\t' || c == '\n' || c == '\r'

def skipSpace (p : Place) : Place := p.skip (p.rest.takeWhile isSpace).length

def refuse {α : Type} (p : Place) (cause : Cause) : Except Failure α :=
  .error (.malformed cause p.offset)

end Place

/-! ## Texts -/

def hexValue? (c : Char) : Option Nat :=
  if '0' ≤ c ∧ c ≤ '9' then some (c.toNat - 48)
  else if 'a' ≤ c ∧ c ≤ 'f' then some (c.toNat - 87)
  else if 'A' ≤ c ∧ c ≤ 'F' then some (c.toNat - 55)
  else none

/-- The number of four hexadecimal digits at the beginning of a text. -/
def fourHex? : List Char → Option Nat
  | a :: b :: c :: d :: _ => do
      return ((← hexValue? a) * 16 + (← hexValue? b)) * 256 + (← hexValue? c) * 16 + (← hexValue? d)
  | _ => none

/-- The character of a short escape. -/
def shortEscape? : Char → Option Char
  | '"' => some '"'
  | '\\' => some '\\'
  | '/' => some '/'
  | 'b' => some '\x08'
  | 'f' => some '\x0c'
  | 'n' => some '\n'
  | 'r' => some '\r'
  | 't' => some '\t'
  | _ => none

/-- A code point as a character; half of a surrogate pair has none and is replaced. -/
def codeChar (n : Nat) : Char := if n.isValidChar then Char.ofNat n else '\ufffd'

/-- The character of a numeric escape whose digits begin at `p`, and the number of characters it
takes from there. Two escapes that form a surrogate pair are one character. The digits must not
end the text. -/
def codeEscape (p : Place) : Except Failure (Char × Nat) :=
  let refuse (offset : Nat) : Except Failure (Char × Nat) :=
    .error (.malformed .badCodeEscape (offset - 1))
  if p.rest.length ≤ 4 then refuse p.offset
  else match fourHex? p.rest with
    | none => refuse p.offset
    | some n =>
        let next := p.rest.drop 4
        if 0xd800 ≤ n ∧ n < 0xdc00 ∧ 6 < next.length ∧ next.take 2 = ['\\', 'u'] then
          match fourHex? (next.drop 2) with
          | none => refuse (p.offset + 6)
          | some m =>
              if 0xdc00 ≤ m ∧ m < 0xe000 then
                .ok (codeChar (0x10000 + (n - 0xd800) * 0x400 + (m - 0xdc00)), 10)
              else .ok (codeChar n, 4)
        else .ok (codeChar n, 4)

/-- Reads a text behind its opening quote, which stands at `start`; `done` holds the characters
read so far, last first. -/
def readText (start : Nat) : Nat → List Char → Place → Except Failure (String × Place)
  | 0, _, _ => .error (.malformed .unterminatedString start)
  | fuel + 1, done, p =>
      match p.rest with
      | [] => .error (.malformed .unterminatedString start)
      | '"' :: _ => .ok (String.ofList done.reverse, p.skip 1)
      | ['\\'] => .error (.malformed .unterminatedString start)
      | '\\' :: 'u' :: _ => do
          let (c, size) ← codeEscape (p.skip 2)
          readText start fuel (c :: done) (p.skip (2 + size))
      | '\\' :: e :: _ =>
          match shortEscape? e with
          | some c => readText start fuel (c :: done) (p.skip 2)
          | none => p.refuse .badEscape
      | c :: _ =>
          if c.toNat < 32 then p.refuse .controlCharacter
          else readText start fuel (c :: done) (p.skip 1)

/-! ## Numbers -/

/-- The digits of a fraction behind its point, if a digit follows the point. -/
def fractionDigits : List Char → List Char
  | '.' :: cs => cs.takeWhile Char.isDigit
  | _ => []

/-- The exponent at the beginning of a text and the number of its characters, if it has digits. -/
def exponentPart? : List Char → Option (Int × Nat)
  | e :: cs =>
      if e = 'e' ∨ e = 'E' then
        let signed := cs.head? = some '-' ∨ cs.head? = some '+'
        let ds := (if signed then cs.drop 1 else cs).takeWhile Char.isDigit
        if ds = [] then none
        else
          let n : Int := Number.ofDigits (ds.map fun d => d.toNat - 48)
          some (if cs.head? = some '-' then -n else n, (if signed then 2 else 1) + ds.length)
      else none
  | [] => none

/-- Reads a number. A leading zero stands alone, and a fraction or exponent without digits is not
part of the number. -/
def readNumber (p : Place) : Except Failure (Value × Place) :=
  let negative := p.rest.head? == some '-'
  let body := if negative then p.rest.drop 1 else p.rest
  let digits := if body.head? = some '0' then ['0'] else body.takeWhile Char.isDigit
  if digits = [] then p.refuse .expectedValue
  else
    let values (ds : List Char) := ds.map fun d => d.toNat - 48
    let rest := body.drop digits.length
    let fraction := fractionDigits rest
    let fractionSize := if fraction = [] then 0 else fraction.length + 1
    let exponent := exponentPart? (rest.drop fractionSize)
    let size := (if negative then 1 else 0) + digits.length + fractionSize +
      (exponent.map Prod.snd).getD 0
    if fraction = [] ∧ exponent.isNone then
      if Number.digitLimit < digits.length then .error .tooManyDigits
      else
        let n : Int := Number.ofDigits (values digits)
        .ok (.int (if negative then -n else n), p.skip size)
    else
      let x := Number.scaled (Number.ofDigits (values (digits ++ fraction)))
        ((exponent.map Prod.fst).getD 0 - fraction.length)
      .ok (.float (if negative then -x else x), p.skip size)

/-! ## Values -/

def words : List (List Char × Value) := [
  ("null".toList, .null), ("true".toList, .bool true), ("false".toList, .bool false),
  ("NaN".toList, .float (0.0 / 0.0)), ("Infinity".toList, .float (1.0 / 0.0)),
  ("-Infinity".toList, .float (-1.0 / 0.0))]

mutual

def readValue : Nat → Place → Except Failure (Value × Place)
  | 0, p => p.refuse .expectedValue
  | fuel + 1, p =>
      match p.rest with
      | [] => p.refuse .expectedValue
      | '"' :: _ => do
          let (s, p) ← readText p.offset p.rest.length [] (p.skip 1)
          return (.text s, p)
      | '\x7b' :: _ =>
          let q := (p.skip 1).skipSpace
          if q.rest.head? = some '\x7d' then .ok (.map [], q.skip 1) else readEntries fuel [] q
      | '[' :: _ =>
          let q := (p.skip 1).skipSpace
          if q.rest.head? = some ']' then .ok (.list [], q.skip 1) else readItems fuel [] q
      | _ =>
          match words.find? fun (w, _) => w.isPrefixOf p.rest with
          | some (w, v) => .ok (v, p.skip w.length)
          | none => readNumber p

/-- Reads the items of a list from the next one to the closing bracket; `done` holds those read so
far, last first. -/
def readItems : Nat → List Value → Place → Except Failure (Value × Place)
  | 0, _, p => p.refuse .expectedValue
  | fuel + 1, done, p => do
      let (v, q) ← readValue fuel p
      let q := q.skipSpace
      match q.rest with
      | ']' :: _ => .ok (.list (v :: done).reverse, q.skip 1)
      | ',' :: _ => readItems fuel (v :: done) (q.skip 1).skipSpace
      | _ => q.refuse .expectedComma

/-- Reads the entries of a mapping from the next name to the closing brace. -/
def readEntries : Nat → Entries → Place → Except Failure (Value × Place)
  | 0, _, p => p.refuse .expectedValue
  | fuel + 1, done, p =>
      match p.rest with
      | '"' :: _ => do
          let (name, q) ← readText p.offset p.rest.length [] (p.skip 1)
          let q := q.skipSpace
          match q.rest with
          | ':' :: _ => do
              let (v, q) ← readValue fuel (q.skip 1).skipSpace
              let q := q.skipSpace
              let done := Value.put (.text name) v done
              match q.rest with
              | '\x7d' :: _ => .ok (.map done, q.skip 1)
              | ',' :: _ => readEntries fuel done (q.skip 1).skipSpace
              | _ => q.refuse .expectedComma
          | _ => q.refuse .expectedColon
      | _ => p.refuse .expectedName

end

def read (text : List Char) : Except Failure Value := do
  let p : Place := ⟨0, text⟩
  if text.head? = some '\ufeff' then p.refuse .byteOrderMark
  let (v, q) ← readValue (2 * text.length + 2) p.skipSpace
  let q := q.skipSpace
  if q.rest.isEmpty then return v else q.refuse .extraData

end FolderTag.Document.Json
