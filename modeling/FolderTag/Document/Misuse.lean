import FolderTag.Document.Display

/-! # Values used for what they are not

A document may hold any value in any place. Where a value has to be a key, a text or something to
go through and is not, this is what went wrong. -/

namespace FolderTag.Document

/-- What a value was used for in vain. -/
inductive Misuse where
  /-- A list or mapping as a key. -/
  | unhashable (kind : String)
  /-- Something else where a text is searched or rewritten. -/
  | notText (kind : String)
  /-- Something that has no items. -/
  | notIterable (kind : String)
  /-- Something that has no length. -/
  | noLength (kind : String)
  /-- Two values without an order between them. -/
  | unordered (left right : String)
  /-- A part that the value does not have. -/
  | noPart (kind name : String)
  /-- A key that is missing. -/
  | missingKey (key : Value)
  /-- Digits that are not decimal. -/
  | notDecimal (text : String)
  /-- An item that is no text where texts are joined. -/
  | notTextItem (index : Nat) (kind : String)
  /-- A value that cannot be put under a key. -/
  | notMapping (kind : String)
  /-- A name that is none of the choices. -/
  | notAChoice (value : Value) (choice : String)
  /-- A value that has no stored form. -/
  | noStoredForm (kind : String)
  /-- A key that has no stored form. -/
  | noStoredKey (kind : String)
  /-- Arguments that do not fit. -/
  | badArguments (text : String)
  /-- A whole number with more digits than can be shown. -/
  | tooManyDigits

namespace Misuse

def message : Misuse → String
  | .unhashable k => "unhashable type: '" ++ k ++ "'"
  | .notText k => "expected string or bytes-like object, got '" ++ k ++ "'"
  | .notIterable k => "'" ++ k ++ "' object is not iterable"
  | .noLength k => "object of type '" ++ k ++ "' has no len()"
  | .unordered l r => "'<' not supported between instances of '" ++ l ++ "' and '" ++ r ++ "'"
  | .noPart k n => "'" ++ k ++ "' object has no attribute '" ++ n ++ "'"
  | .missingKey key => key.quotedString
  | .notDecimal t => "invalid literal for int() with base 10: " ++ Text.quotedString t
  | .notTextItem i k =>
      "sequence item " ++ toString i ++ ": expected str instance, " ++ k ++ " found"
  | .notMapping k => "'" ++ k ++ "' object does not support item assignment"
  | .notAChoice v c => v.quotedString ++ " is not a valid " ++ c
  | .noStoredForm k => "Object of type " ++ k ++ " is not JSON serializable"
  | .noStoredKey k => "keys must be str, int, float, bool or None, not " ++ k
  | .badArguments t => t
  | .tooManyDigits => "a whole number has too many digits to be shown"

end Misuse

def Value.asKey (v : Value) : Except Misuse Value :=
  if v.isKey then .ok v else .error (.unhashable v.kind)

mutual

/-- Whether `a` comes before `b`: numbers by value, texts by code points, lists by their first
different items. -/
def Value.before : Value → Value → Except Misuse Bool
  | .text s, .text t => .ok (s < t)
  | .list xs, .list ys => itemsBefore xs ys
  | .day c, .day d => .ok (c.text < d.text)
  | a, b =>
      match Value.compareNumbers a b with
      | some o => .ok (o == some .lt)
      | none => .error (.unordered a.fullKind b.fullKind)

def itemsBefore : List Value → List Value → Except Misuse Bool
  | [], [] => .ok false
  | [], _ :: _ => .ok true
  | _ :: _, [] => .ok false
  | x :: xs, y :: ys => if x.equal y then itemsBefore xs ys else x.before y

end

end FolderTag.Document
