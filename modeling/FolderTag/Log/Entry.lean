import FolderTag.Document.Display
import FolderTag.Text.Blank

/-! # Log entries

A log entry has a message and named values. In a log line the values follow the message, and a
text among them is quoted where a reader could not tell where it ends. -/

namespace FolderTag.Log

open FolderTag.Document

/-- How grave an entry is. -/
inductive Level where
  | debug
  | info
  | warning
  | error
  | critical
deriving Repr, DecidableEq

namespace Level

/-- The levels from the least to the most grave. -/
def all : List Level := [.debug, .info, .warning, .error, .critical]

def rank : Level → Nat
  | .debug => 10
  | .info => 20
  | .warning => 30
  | .error => 40
  | .critical => 50

def name : Level → String
  | .debug => "DEBUG"
  | .info => "INFO"
  | .warning => "WARNING"
  | .error => "ERROR"
  | .critical => "CRITICAL"

def ofName? (name : String) : Option Level := all.find? fun l => l.name = name

/-- The level at a place on the scale. -/
def ofRank? (rank : Int) : Option Level := all.find? fun l => (l.rank : Int) = rank

end Level

/-- Named values in the order in which the names first came up. -/
abbrev Context := List (String × Value)

namespace Context

/-- Gives a name a value: in the place of the old value, or behind all others. -/
def put (key : String) (value : Value) : Context → Context
  | [] => [(key, value)]
  | (k, v) :: rest => if k = key then (k, value) :: rest else (k, v) :: put key value rest

/-- The named values of two contexts; the inner ones win. -/
def extend (outer inner : Context) : Context :=
  inner.foldl (fun acc (k, v) => put k v acc) outer

end Context

def needsQuotes (s : List Char) : Bool := s.isEmpty || s.any Text.isBlank

def valueText : Value → List Char
  | .text s => if needsQuotes s.toList then Text.quoted s.toList else s.toList
  | v => v.shown

def contextText (context : Context) : List Char :=
  [' '].intercalate (context.map fun (k, v) => k.toList ++ '=' :: valueText v)

def lineText (message : String) (context : Context) : String :=
  if context.isEmpty then message
  else String.ofList (message.toList ++ " | ".toList ++ contextText context)

/-- An entry of the log. -/
structure Entry where
  level : Level
  message : String
  context : Context

def Entry.text (e : Entry) : String := lineText e.message e.context

/-- Whether a log that starts at a rank keeps an entry. -/
def Entry.isKept (least : Int) (e : Entry) : Bool := least ≤ e.level.rank

end FolderTag.Log
