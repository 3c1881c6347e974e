import FolderTag.Files.Path
import FolderTag.Text.Quoted

/-! # Files

The files below a folder, as they are read and written. -/

namespace FolderTag.Files

/-- What stands at a path. -/
inductive Node where
  | folder
  | file (bytes : ByteArray)

/-- The files that are known in and around a folder. A folder that holds something need not be
listed. -/
structure Tree where
  /-- The full path of the folder. -/
  root : Path
  entries : List (Path × Node)

/-- Why a file cannot be opened. -/
inductive Trouble where
  | missing
  | throughFile
  | isFolder
deriving Repr, DecidableEq

namespace Trouble

/-- The number under which systems know a trouble. -/
def number : Trouble → Nat
  | .missing => 2
  | .throughFile => 20
  | .isFolder => 21

def wording : Trouble → String
  | .missing => "No such file or directory"
  | .throughFile => "Not a directory"
  | .isFolder => "Is a directory"

def message (t : Trouble) (path : String) : String :=
  "[Errno " ++ toString t.number ++ "] " ++ t.wording ++ ": " ++ Text.quotedString path

end Trouble

namespace Tree

/-- Whether a straight path leads to the folder or to one that the folder is in. -/
def isAround (p : Path) : Bool := p.all fun s => s = parentName || Path.isTop s

def at? (t : Tree) (p : Path) : Option Node :=
  match t.entries.lookup p with
  | some n => some n
  | none =>
      if isAround p || t.entries.any (fun (q, _) => p.isPrefixOf q) then some .folder else none

/-- Follows a path from a place; every part but the last has to be a folder. -/
def follow (t : Tree) (here : Path) : Path → Except Trouble Path
  | [] => .ok here
  | s :: rest =>
      match t.at? here with
      | some .folder => t.follow (if s = parentName then here.up else here ++ [s]) rest
      | some (.file _) => .error .throughFile
      | none => .error .missing

def fullPath (t : Tree) (p : Path) : Path := (if p.isFull then p else t.root ++ p).straight

def find (t : Tree) (p : Path) : Except Trouble Node := do
  match t.at? (← t.follow [] p) with
  | some n => return n
  | none => throw .missing

def has (t : Tree) (p : Path) : Bool := (t.find p).toBool

def hasFile (t : Tree) (p : Path) : Bool :=
  match t.find p with
  | .ok (.file _) => true
  | _ => false

def read (t : Tree) (p : Path) : Except Trouble ByteArray := do
  match ← t.find p with
  | .file bytes => return bytes
  | .folder => throw .isFolder

def put (t : Tree) (p : Path) (n : Node) : Tree :=
  { t with entries := (p, n) :: t.entries.filter fun (q, _) => q ≠ p }

/-- The place where a file can be written: its folder exists, and it is none itself. -/
def target (t : Tree) (p : Path) : Except Trouble Path := do
  let place ← t.follow [] p
  match t.at? place with
  | some .folder => throw .isFolder
  | _ => return place

def write (t : Tree) (p : Path) (bytes : ByteArray) : Except Trouble Tree := do
  return t.put (← t.target p) (.file bytes)

def append (t : Tree) (p : Path) (bytes : ByteArray) : Except Trouble Tree := do
  let place ← t.target p
  let old := match t.at? place with
    | some (.file old) => old
    | _ => .empty
  return t.put place (.file (old ++ bytes))

end Tree

/-- Lines may end in three ways; all become one. -/
def unifyBreaks : List Char → List Char
  | '\r' :: '\n' :: cs => '\n' :: unifyBreaks cs
  | '\r' :: cs => '\n' :: unifyBreaks cs
  | c :: cs => c :: unifyBreaks cs
  | [] => []

/-- The text of a file, if its bytes are one. -/
def textOf? (bytes : ByteArray) : Option (List Char) :=
  (String.fromUTF8? bytes).map fun s => unifyBreaks s.toList

end FolderTag.Files
