import FolderTag.Document.Obstacle

/-! # Writing JSON

Values are written over several lines, two blanks for each level, and characters beyond ASCII stand
for themselves. -/

namespace FolderTag.Document.Json

/-- One character between quotes. -/
def escapedChar (c : Char) : List Char :=
  if c = '"' ∨ c = '\\' then ['\\', c]
  else if c = '\n' then ['\\', 'n']
  else if c = '\r' then ['\\', 'r']
  else if c = '\t' then ['\\', 't']
  else if c = '\x0c' then ['\\', 'f']
  else if c = '\x08' then ['\\', 'b']
  else if c.toNat < 32 then '\\' :: 'u' :: Text.hexDigits 4 c.toNat
  else [c]

/-- A text between quotes. -/
def textForm (s : String) : List Char := '"' :: (s.toList.flatMap escapedChar ++ ['"'])

/-- A number, or one of the words that stand for what is none. -/
def floatForm (x : Float) : List Char :=
  if x.isNaN then "NaN".toList
  else if x.isInf then (if x < 0.0 then "-Infinity".toList else "Infinity".toList)
  else Number.floatText x

def scalarForm : Value → List Char
  | .null => "null".toList
  | .bool b => (if b then "true" else "false").toList
  | .int n => intText n
  | .float x => floatForm x
  | .text s => textForm s
  | v => textForm v.shownString

/-- A key, which is always written as a text. -/
def keyForm : Value → List Char
  | .text s => textForm s
  | v => '"' :: (scalarForm v ++ ['"'])

/-- A line break and the indentation of a level. -/
def newLine (level : Nat) : List Char := '\n' :: List.replicate (2 * level) ' '

mutual

/-- Writes a value whose parts stand at `level + 1`. -/
def form (level : Nat) : Value → List Char
  | .list [] => ['[', ']']
  | .list (v :: vs) =>
      '[' :: (newLine (level + 1) ++ form (level + 1) v ++ itemsForm (level + 1) vs ++
        newLine level ++ [']'])
  | .map [] => ['\x7b', '\x7d']
  | .map ((k, v) :: rest) =>
      '\x7b' :: (newLine (level + 1) ++ keyForm k ++ ':' :: ' ' :: form (level + 1) v ++
        entriesForm (level + 1) rest ++ newLine level ++ ['\x7d'])
  | v => scalarForm v

/-- Writes the items behind the first. -/
def itemsForm (level : Nat) : List Value → List Char
  | [] => []
  | v :: vs => ',' :: (newLine level ++ form level v ++ itemsForm level vs)

def entriesForm (level : Nat) : List (Value × Value) → List Char
  | [] => []
  | (k, v) :: rest =>
      ',' :: (newLine level ++ keyForm k ++ ':' :: ' ' :: form level v ++ entriesForm level rest)

end

/-! ## What has no form -/

/-- Days and moments have no form, and whole numbers have one up to a number of digits. -/
def scalarObstacle? : Value → Option Obstacle
  | .day d => some (.misuse (.noStoredForm (Value.day d).kind))
  | .moment m => some (.misuse (.noStoredForm (Value.moment m).kind))
  | v => digitObstacle? v

def keyObstacle? : Value → Option Obstacle
  | .day d => some (.misuse (.noStoredKey (Value.day d).kind))
  | .moment m => some (.misuse (.noStoredKey (Value.moment m).kind))
  | v => digitObstacle? v

/-- What keeps a value from being written. -/
def obstacle? (v : Value) : Option Obstacle := v.firstObstacle? keyObstacle? scalarObstacle?

/-- Writes a document, with a line break at its end. -/
def write (v : Value) : List Char := form 0 v ++ ['\n']

end FolderTag.Document.Json
