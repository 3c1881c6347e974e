import FolderTag.Document.Obstacle
import FolderTag.Document.Yaml.Folding

/-! # Writing block documents

Every entry of a mapping and every item of a list begins a line. The items of a list under a key
stand as deep as the key; all else stands two blanks deeper than what it belongs to. -/

namespace FolderTag.Document.Yaml

/-- A decimal number; a power of ten never stands behind a number without a point. -/
def floatForm (x : Float) : List Char :=
  if x.isNaN then ".nan".toList
  else if x.isInf then (if x < 0.0 then "-.inf".toList else ".inf".toList)
  else
    let s := Number.floatText x
    if s.contains '.' then s
    else s.flatMap fun c => if c = 'e' then ".0e".toList else [c]

/-- The text of a value without parts, and whether it is a text itself. -/
def scalarText : Value → List Char × Bool
  | .null => ("null".toList, false)
  | .bool b => ((if b then "true" else "false").toList, false)
  | .int n => (intText n, false)
  | .float x => (floatForm x, false)
  | .text s => (s.toList, true)
  | v => (v.shown, false)

/-- A value without parts that begins at a column. -/
def scalarForm (indent column : Nat) (v : Value) : List Char :=
  let (s, isText) := scalarText v
  match if isText then styleOf false s else .plain with
  | .plain => plainForm indent column s
  | .single => singleForm indent column s
  | .double => doubleForm indent true column s

/-- The length of the tag that a key would have if it had one. -/
def tagLength : Value → Nat
  | .text _ => 5
  | .int _ => 5
  | .float _ => 7
  | .day _ => 11
  | .moment _ => 11
  | _ => 6

/-- The longest key that fits on the line of its value, with its tag. -/
def longestShortKey : Nat := 127

/-- Whether a key fits on the line of its value. -/
def isShortKey (key : Value) : Bool :=
  let s := (scalarText key).1
  !s.isEmpty && !isMultiline s && tagLength key + s.length ≤ longestShortKey

def shortKeyForm (key : Value) : List Char :=
  let (s, isText) := scalarText key
  match if isText then styleOf true s else .plain with
  | .plain => s
  | .single => '\'' :: (doubledQuotes s ++ ['\''])
  | .double => doubleForm 0 false 0 s

/-- A key with the mark behind it. A key that does not fit on the line of its value has a line of
its own. -/
def keyForm (indent : Nat) (key : Value) : List Char :=
  if isShortKey key then shortKeyForm key ++ [':']
  else
    '?' :: ' ' :: (scalarForm (indent + 2) (indent + 2) key ++ newLine indent ++ [':'])

def lines (indent : Nat) (parts : List (List Char)) : List Char := (newLine indent).intercalate parts

mutual

/-- A value that follows a dash or colon on the same line; what it consists of stands at
`indent`. -/
def blockForm (indent : Nat) : Value → List Char
  | .list [] => ['[', ']']
  | .map [] => ['\x7b', '\x7d']
  | .list items => lines indent (itemForms indent items)
  | .map entries => lines indent (entryForms indent entries)
  | v => scalarForm indent indent v

/-- What follows the colon behind a key that ends before a column. -/
def valueForm (indent column : Nat) : Value → List Char
  | .list [] => [' ', '[', ']']
  | .map [] => [' ', '\x7b', '\x7d']
  | .list items => newLine indent ++ lines indent (itemForms indent items)
  | .map entries => newLine (indent + 2) ++ lines (indent + 2) (entryForms (indent + 2) entries)
  | v => ' ' :: scalarForm (indent + 2) (column + 1) v

def itemForms (indent : Nat) : List Value → List (List Char)
  | [] => []
  | v :: vs => ('-' :: ' ' :: blockForm (indent + 2) v) :: itemForms indent vs

def entryForms (indent : Nat) : List (Value × Value) → List (List Char)
  | [] => []
  | (k, v) :: rest =>
      let key := keyForm indent k
      let value :=
        if isShortKey k then valueForm indent (indent + key.length) v
        else ' ' :: blockForm (indent + 2) v
      (key ++ value) :: entryForms indent rest

end

/-- What keeps a value from being written: a whole number with too many digits. -/
def obstacle? (v : Value) : Option Obstacle := v.firstObstacle? digitObstacle? digitObstacle?

/-- Writes a document, with a line break at its end. -/
def write (v : Value) : List Char := blockForm 0 v ++ ['\n']

end FolderTag.Document.Yaml
