import FolderTag.Number.Binary

/-! # Document values

What a settings document is made of, before anybody has looked at its meaning. Mappings keep the
order in which their keys were written. -/

namespace FolderTag.Document

/-- A calendar day. -/
structure Day where
  year : Nat
  month : Nat
  day : Nat
deriving Repr, DecidableEq

/-- A moment of a day, with its distance from universal time in seconds when it is known. -/
structure Moment where
  day : Day
  hour : Nat
  minute : Nat
  second : Nat
  microsecond : Nat
  offset : Option Int
deriving Repr, DecidableEq

/-- A value of a document. -/
inductive Value where
  | null
  | bool (b : Bool)
  | int (n : Int)
  | float (x : Float)
  | text (s : String)
  | list (items : List Value)
  | map (entries : List (Value × Value))
  | day (d : Day)
  | moment (m : Moment)
deriving Inhabited

/-- The entries of a mapping in the order of their keys. -/
abbrev Entries := List (Value × Value)

namespace Value

def kind : Value → String
  | .null => "NoneType"
  | .bool _ => "bool"
  | .int _ => "int"
  | .float _ => "float"
  | .text _ => "str"
  | .list _ => "list"
  | .map _ => "dict"
  | .day _ => "date"
  | .moment _ => "datetime"

/-- The name of a value's kind with the family it belongs to. -/
def fullKind : Value → String
  | .day _ => "datetime.date"
  | .moment _ => "datetime.datetime"
  | v => v.kind

def text? : Value → Option String
  | .text s => some s
  | _ => none

def entries? : Value → Option Entries
  | .map es => some es
  | _ => none

/-- Whether a value counts as set: neither nothing, nor false, nor zero, nor empty. -/
def isSet : Value → Bool
  | .null => false
  | .bool b => b
  | .int n => n ≠ 0
  | .float x => !(x == 0.0)
  | .text s => s ≠ ""
  | .list items => !items.isEmpty
  | .map entries => !entries.isEmpty
  | .day _ => true
  | .moment _ => true

def isKey : Value → Bool
  | .list _ => false
  | .map _ => false
  | _ => true

/-! ## Numbers of different kinds -/

/-- The whole number that a truth value or whole number stands for. -/
def whole? : Value → Option Int
  | .bool b => some (if b then 1 else 0)
  | .int n => some n
  | _ => none

/-- Compares a whole number with a double exactly; nothing compares with what is not a number. -/
def compareWhole (n : Int) (x : Float) : Option Ordering :=
  if x.isNaN then none
  else if x.isInf then some (if x > 0.0 then .lt else .gt)
  else
    let v := Number.Magnitude.ofFloat x
    let negative := Number.isNegative x && v.mantissa ≠ 0
    some <| match decide (n < 0), negative with
      | true, true => Number.Magnitude.compareDecimal v.mantissa v.exponent n.natAbs 0
      | true, false => .lt
      | false, true => .gt
      | false, false => (Number.Magnitude.compareDecimal v.mantissa v.exponent n.natAbs 0).swap

/-- Compares two numbers; the outer option says whether both are numbers. -/
def compareNumbers : Value → Value → Option (Option Ordering)
  | .float x, .float y =>
      some (if x < y then some .lt else if x > y then some .gt
        else if x == y then some .eq else none)
  | .float x, b => b.whole?.map fun n => (compareWhole n x).map Ordering.swap
  | a, .float y => a.whole?.map fun n => compareWhole n y
  | a, b => a.whole?.bind fun m => b.whole?.map fun n => some (compare m n)

/-! ## Equality -/

mutual

/-- Equality of values. Numbers of different kinds are compared by their value, and mappings
without regard to order. -/
def equal : Value → Value → Bool
  | .null, .null => true
  | .text s, .text t => s == t
  | .list xs, .list ys => equalItems xs ys
  | .map xs, .map ys => xs.length == ys.length && equalEntries xs ys
  | .day c, .day d => c == d
  | .moment c, .moment d => c == d
  | a, b => compareNumbers a b == some (some .eq)

def equalItems : List Value → List Value → Bool
  | [], [] => true
  | x :: xs, y :: ys => x.equal y && equalItems xs ys
  | _, _ => false

/-- Whether every entry of the first mapping is in the second. -/
def equalEntries : List (Value × Value) → List (Value × Value) → Bool
  | [], _ => true
  | (k, v) :: rest, other =>
      other.any (fun (k', v') => k.equal k' && v.equal v') && equalEntries rest other

end

/-! ## Mappings -/

section Mappings

variable {α : Type}

def find? (key : Value) : List (Value × α) → Option α
  | [] => none
  | (k, v) :: rest => if k.equal key then some v else find? key rest

/-- Puts a value under a key: in the place of the old value, or behind all others. -/
def put (key : Value) (value : α) : List (Value × α) → List (Value × α)
  | [] => [(key, value)]
  | (k, v) :: rest => if k.equal key then (k, value) :: rest else (k, v) :: put key value rest

def field? (name : String) (entries : List (Value × α)) : Option α := find? (.text name) entries

end Mappings

def hasField (name : String) (entries : Entries) : Bool := (field? name entries).isSome

/-- A mapping with text keys. -/
def ofFields (fields : List (String × Value)) : Value :=
  .map (fields.map fun (k, v) => (.text k, v))

end Value

end FolderTag.Document
